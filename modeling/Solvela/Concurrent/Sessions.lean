import Solvela.Client.Recording
import Solvela.Concurrent.Hits
import Solvela.Session.Concurrency

/-
  Sessions that calls share.

  Seen from the session store, a run of a pool is a run of
  locked steps.  So no request that a call records is lost or
  counted twice, and calls with the same first message agree
  on the model as long as the session of one of them is live.

  Main declarations:
    * `SessionTouch`, `ShowsSession`
    * `Accesses.sessionTouch`, `sessionRun_of_run`
    * `recordedOn`, `Gets`
    * `interleaved_sessions`
-/

------------------------------------------------------------
-- The Sessions Of A Pool
------------------------------------------------------------

namespace Solvela

open Dialogues Transitions

variable {X : Crates} {ι : Type}

/- A step on the sessions, whatever calls have yet to do. -/
def SessionTouch
    (s : SharedSessions)
    (e : SessionEvent)
    (t : SharedSessions) : Prop :=
  ∃ before after,
    SessionStep { s with pending := before } e
      { t with pending := after }

/- The session event that a turn shows, if it shows one. -/
inductive ShowsSession :
    Timed ι → Option SessionEvent → Prop where
  | looked
      {i : ι}
      {call now : Nat}
      {id model : String}
      {result : Option SessionInfo} :
      ShowsSession ((i, ⟨.findSession id model, result⟩), now)
        (some (.looked call now id model result))
  | rechecked
      {i : ι}
      {call now created : Nat}
      {id model : String}
      {info : SessionInfo}
      {opened : Bool}
      (hStamp : now ≤ created) :
      ShowsSession
        ((i, ⟨.openSession id model, info⟩), created)
        (some (.rechecked call now created id model info
          opened))
  | recorded
      {i : ι}
      {id : String}
      {hash : UInt64}
      {now : Nat} :
      ShowsSession ((i, ⟨.recordRequest id hash, ()⟩), now)
        (some (.recorded id hash))
  | other
      {i : ι}
      {e : Accessed}
      {now : Nat}
      (hSession : e.1.phase ≠ .session)
      (hUpdate : e.1.phase ≠ .sessionUpdate) :
      ShowsSession ((i, e), now) none

/- The sessions of a world, under a clock that is not ahead. -/
structure HasSessions
    (world : World X)
    (s : SharedSessions) : Prop where
  store : world.sessionStore = some s.store
  clock : s.clock ≤ world.now

/- Seen from the sessions, an access is a step or nothing. -/
theorem Accesses.sessionTouch
    {world world' : World X}
    {e : Accessed}
    {s : SharedSessions}
    (hStep : Accesses world e world')
    (hSessions : HasSessions world s)
    (i : ι) :
    (ShowsSession ((i, e), world'.now) none ∧
        HasSessions world' s) ∨
      ∃ k t, ShowsSession ((i, e), world'.now) (some k) ∧
        SessionTouch s k t ∧ HasSessions world' t := by
  have hLater := hSessions.clock.trans hStep.now_le
  rcases hSessions with ⟨hThere, hClock⟩
  cases hStep with
  | loadBalance =>
      exact Or.inl ⟨.other nofun nofun, hThere, hLater⟩
  | storeBalance =>
      exact Or.inl ⟨.other nofun nofun, hThere, hLater⟩
  | @findSession id model now hNow =>
      right
      have hFound :
          world.findSession now id = s.store.lookup now id := by
        unfold World.findSession
        rw [hThere]
        rfl
      rw [hFound]
      let looked : SharedSessions := { s with clock := now }
      have hTouch :
          SessionTouch s
            (.looked 0 now id model (s.store.lookup now id))
            looked :=
        ⟨fun _ => none, _, .looked rfl (hClock.trans hNow)⟩
      exact ⟨_, looked, .looked, hTouch, hThere,
        Nat.le_refl _⟩
  | @openSession id model now created hNow hStamp =>
      right
      rw [World.openSession_of_store hThere]
      let opened : SharedSessions :=
        { store := (s.store.recheckOrInsert now created id
            model).2
          clock := created
          pending := s.pending }
      have hTouch :
          SessionTouch s
            (.rechecked 0 now created id model
              (s.store.recheckOrInsert now created id model).1
              (s.store.live now id).isNone)
            opened :=
        ⟨fun _ => some (id, model), _,
          .rechecked rfl (hClock.trans hNow) hStamp⟩
      exact ⟨_, opened, .rechecked hStamp, hTouch, rfl,
        Nat.le_refl _⟩
  | @recordRequest id hash =>
      right
      let recorded : SharedSessions :=
        { s with store := s.store.recordRequest id hash }
      have hTouch :
          SessionTouch s (.recorded id hash) recorded :=
        ⟨s.pending, _, .recorded⟩
      refine ⟨_, recorded, .recorded, hTouch, ?_, hClock⟩
      unfold World.recordRequest
      rw [hThere]
      rfl
  | cacheGet _ =>
      refine Or.inl ⟨.other nofun nofun, ?_, hLater⟩
      unfold World.cacheGet
      cases world.cache with
      | none => exact hThere
      | some cache => exact hThere
  | cachePut _ _ =>
      refine Or.inl ⟨.other nofun nofun, ?_, hLater⟩
      unfold World.cachePut
      cases world.cache with
      | none => exact hThere
      | some cache => exact hThere
  | send =>
      exact Or.inl ⟨.other nofun nofun, hThere, hLater⟩

/- Seen from the sessions, a run of a pool is a run on them. -/
theorem sessionRun_of_run
    [DecidableEq ι]
    {q p : CallPool X ι}
    {history : List (Timed ι)}
    {s : SharedSessions}
    (hRun : TimedRun q history p)
    (hSessions : HasSessions q.shared s) :
    ∃ ks t, Shown ShowsSession history ks ∧
      LabelledRun SessionTouch s ks t ∧
        HasSessions p.shared t := by
  apply hRun.follows (fun p s => HasSessions p.shared s)
    hSessions
  rintro v ⟨⟨i, e⟩, now⟩ w s' hThere ⟨hStep, rfl⟩
  cases hStep with
  | turn _ hActs => exact hActs.sessionTouch hThere i

end Solvela

------------------------------------------------------------
-- Runs On The Sessions
------------------------------------------------------------

namespace Solvela

open Histories Transitions

variable {ttl created : Nat}
variable {id model : String}
variable {s t : SharedSessions}
variable {k : SessionEvent}
variable {ks : List SessionEvent}

theorem SharedInvariant.touch
    (hInvariant : SharedInvariant ttl ks s)
    (hTouch : SessionTouch s k t) :
    SharedInvariant ttl (ks ++ [k]) t := by
  rcases hTouch with ⟨before, after, hStep⟩
  have hBefore :
      SharedInvariant ttl ks { s with pending := before } :=
    ⟨hInvariant.ttl_eq, hInvariant.stamped,
      hInvariant.remembers⟩
  have hAfter := hBefore.step hStep
  exact ⟨hAfter.ttl_eq, hAfter.stamped, hAfter.remembers⟩

theorem sharedInvariant_of_touches
    {start : Nat}
    (hRun :
      LabelledRun SessionTouch (SharedSessions.init ttl start)
        ks s) :
    SharedInvariant ttl ks s :=
  hRun.invariant (SharedInvariant ttl)
    (sharedInvariant_init ttl start)
    (fun _ _ _ _ _ hPast hTouch => hPast.touch hTouch)

theorem HoldsWhileLive.touch
    (hHolds : HoldsWhileLive ttl id created model s)
    (hTouch : SessionTouch s k t) :
    HoldsWhileLive ttl id created model t := by
  rcases hTouch with ⟨before, after, hStep⟩
  have hBefore :
      HoldsWhileLive ttl id created model
        { s with pending := before } := hHolds
  have hAfter := hBefore.step hStep
  exact hAfter

/- An entry in the store holds while it is live. -/
theorem SharedInvariant.holdsWhileLive
    (hInvariant : SharedInvariant ttl ks s)
    {entry : SessionEntry}
    (hEntry : s.store.sessions id = some entry) :
    HoldsWhileLive ttl id entry.created entry.model s :=
  ⟨hInvariant.ttl_eq, hInvariant.stamped id entry hEntry,
    fun _ => ⟨entry, hEntry, rfl, rfl⟩⟩

end Solvela

------------------------------------------------------------
-- Turns That Get A Session
------------------------------------------------------------

namespace Solvela

open Dialogues Histories Transitions

variable {X : Crates} {ι : Type}
variable {ttl created now : Nat}
variable {id model : String}
variable {info : SessionInfo}
variable {s t : SharedSessions}
variable {k : SessionEvent}
variable {e : Accessed}
variable {i : ι}

/- A turn that gives a call its session under `id`. -/
inductive Gets
    (id : String)
    (info : SessionInfo) : Accessed → Prop where
  | found
      {model : String} :
      Gets id info ⟨.findSession id model, some info⟩
  | opened
      {model : String} :
      Gets id info ⟨.openSession id model, info⟩

/- It shows a call that returns, by the clock after it. -/
theorem ShowsSession.of_gets
    {o : Option SessionEvent}
    (hShows : ShowsSession ((i, e), now) o)
    (hGets : Gets id info e) :
    ∃ k read stamp default, o = some k ∧ read ≤ now ∧
      k.Returns read stamp id default info := by
  cases hGets with
  | @found default =>
      cases hShows with
      | @looked _ call _ _ _ _ =>
          exact ⟨_, now, 0, default, rfl, Nat.le_refl _,
            Or.inl ⟨call, rfl⟩⟩
      | other hSession _ => exact absurd rfl hSession
  | @opened default =>
      cases hShows with
      | @rechecked _ call read _ _ _ _ opened hStamp =>
          exact ⟨_, read, now, default, rfl, hStamp,
            Or.inr ⟨call, opened, rfl⟩⟩
      | other hSession _ => exact absurd rfl hSession

/- The session it gives is in the store after it. -/
theorem SessionTouch.entry_of_returns
    {read stamp : Nat}
    {default : String}
    (hTouch : SessionTouch s k t)
    (hReturns : k.Returns read stamp id default info) :
    ∃ entry, t.store.sessions id = some entry ∧
      entry.model = info.model := by
  rcases hTouch with ⟨before, after, hStep⟩
  have hAtomic := (hStep.atomic hReturns).2
  cases hLive : s.store.live read id with
  | some entry =>
      rw [SessionStore.getOrCreate_of_live hLive] at hAtomic
      injection hAtomic with hInfo hStore
      refine ⟨entry, ?_, ?_⟩
      · rw [← hStore]
        exact (SessionStore.live_eq_some_iff.mp hLive).1
      · rw [← hInfo]
        rfl
  | none =>
      rw [SessionStore.getOrCreate_of_not_live
        (Nat.le_refl _) hLive] at hAtomic
      injection hAtomic with hInfo hStore
      refine ⟨.fresh stamp default, ?_, ?_⟩
      · rw [← hStore]
        exact SessionStore.sessions_insert_self _ _ _
      · rw [← hInfo]
        rfl

/- While a session holds, it is the one that is given. -/
theorem HoldsWhileLive.model_of_gets
    (hHolds : HoldsWhileLive ttl id created model s)
    (hTouch : SessionTouch s k t)
    (hShows : ShowsSession ((i, e), now) (some k))
    (hGets : Gets id info e)
    (hLive : now < created + ttl) :
    info.model = model := by
  rcases hShows.of_gets hGets with
    ⟨k', read, stamp, default, hSame, hRead, hReturns⟩
  cases hSame
  rcases hTouch with ⟨before, after, hStep⟩
  have hBefore :
      HoldsWhileLive ttl id created model
        { s with pending := before } := hHolds
  have hClock := (hStep.atomic hReturns).1
  have hStamp := hHolds.2.1
  apply hBefore.model_of_returns hStep hReturns
  have hAfter : created ≤ read := hStamp.trans hClock
  omega

/- The hash that a turn records for `id`, if it records one. -/
def recordedOn
    (id : String)
    (l : Timed ι) : Option UInt64 :=
  match l.1.2.1 with
  | .recordRequest id' hash =>
      if id' = id then some hash else none
  | _ => none

/- It is what the session event records. -/
theorem ShowsSession.recordedOn_eq
    {l : Timed ι}
    (hShows : ShowsSession l (some k)) :
    recordedOn id l = k.storeEvent.hashOn id := by
  cases hShows with
  | looked => rfl
  | @rechecked _ _ _ _ _ _ _ opened _ =>
      cases opened with
      | true => rfl
      | false => rfl
  | recorded => rfl

theorem ShowsSession.recordedOn_eq_none
    {l : Timed ι}
    (hShows : ShowsSession l none) :
    recordedOn id l = none := by
  cases hShows with
  | @other _ e _ _ hUpdate =>
      rcases e with ⟨q, a⟩
      cases q with
      | recordRequest id' hash => exact absurd rfl hUpdate
      | loadBalance => rfl
      | storeBalance atomic => rfl
      | findSession id' model => rfl
      | openSession id' model => rfl
      | cacheGet key => rfl
      | cachePut key response => rfl
      | send question => rfl

/-
  A session in the store was opened by a turn, and sums up
  what turns recorded for it since.
-/
theorem exists_opening
    {history : List (Timed ι)}
    {ks : List SessionEvent}
    {entry : SessionEntry}
    (hShown : Shown ShowsSession history ks)
    (hInvariant : SharedInvariant ttl ks s)
    (hEntry : s.store.sessions id = some entry) :
    ∃ before j first since,
      history =
          before ++ ((j, ⟨.openSession id entry.model, first⟩),
            entry.created) :: since ∧
        Summarises (since.filterMap (recordedOn id)) entry := by
  rcases hInvariant.remembers id entry hEntry with
    ⟨since, hLast, hSummary⟩
  rcases (lastAt_map SessionEvent.storeEvent).mp hLast with
    ⟨opening, after, ⟨early, rfl, _, _⟩, hEvent, rfl⟩
  rcases hShown.split with
    ⟨before, l, later, rfl, hShows, _, hLater⟩
  have hRecorded :
      later.filterMap (recordedOn id) =
        hashesOn id (after.map SessionEvent.storeEvent) := by
    unfold hashesOn
    rw [List.filterMap_map]
    exact hLater.filterMap_eq
      (fun _ hNone => hNone.recordedOn_eq_none)
      (fun _ _ hSome => hSome.recordedOn_eq)
  cases hShows with
  | looked => cases hEvent
  | recorded => cases hEvent
  | @rechecked j call read created id' model first opened _ =>
      cases opened with
      | false => cases hEvent
      | true =>
          injection hEvent with hId hCreated hModel
          subst hId hCreated hModel
          refine ⟨before, j, first, later, rfl, ?_⟩
          rw [hRecorded]
          exact hSummary

end Solvela

------------------------------------------------------------
-- What A Call Does With Its Session
------------------------------------------------------------

namespace Solvela

open Dialogues

variable {X : Crates}
variable {client : SolvelaClient X}
variable {req : ChatRequest}
variable {id : String}
variable {info : SessionInfo}
variable {e : Accessed}

theorem Gets.phase_eq
    (hGets : Gets id info e) :
    e.1.phase = .session := by
  cases hGets with
  | found => rfl
  | opened => rfl

theorem Concurrent.SessionTurns.eq_of_gets
    {id' model : String}
    {info' : SessionInfo}
    {es : List Accessed}
    (hTurns : Concurrent.SessionTurns id' model es info')
    (hMem : e ∈ es)
    (hGets : Gets id info e) :
    id = id' ∧ info = info' := by
  cases hTurns with
  | found =>
      rw [List.mem_singleton.mp hMem] at hGets
      cases hGets
      exact ⟨rfl, rfl⟩
  | opened =>
      rcases List.mem_pair.mp hMem with rfl | rfl
      · cases hGets
      · cases hGets
        exact ⟨rfl, rfl⟩

/- The model to send, from the session or the fallback. -/
def Routed
    (config : ClientConfig)
    (info : SessionInfo)
    (sent : ChatRequest) : Prop :=
  sent.model = info.model ∨
    config.freeFallbackModel = some sent.model

/- The session that a call gets is that of its messages. -/
theorem Concurrent.Prelude.routed_of_gets
    {guarded : ChatRequest × Bool}
    {session : ChatRequest × Option String}
    {guard look : List Accessed}
    (hPrelude :
      Concurrent.Prelude client req guarded session guard
        look)
    (hMem : e ∈ look)
    (hGets : Gets id info e) :
    id = SolvelaClient.sessionIdOf X req.messages ∧
      Routed client.config info session.1 := by
  have hGuarded :
      guarded.1.messages = req.messages ∧
        (guarded.2 = true →
          client.config.freeFallbackModel =
            some guarded.1.model) := by
    rcases Concurrent.yields_balanceGuard.mp hPrelude.guards
      with ⟨_, _, rfl⟩ | ⟨model, balance, hModel, _, rfl⟩
    · exact ⟨rfl, fun hNo => by cases hNo⟩
    · refine ⟨SolvelaClient.balanceGuard_messages _ _ _, ?_⟩
      intro hFell
      unfold SolvelaClient.balanceGuard at hFell ⊢
      rw [hModel] at hFell ⊢
      dsimp only at hFell ⊢
      split at hFell
      · cases hFell
      · split at hFell
        · next hPolled hZero =>
            rw [if_neg hPolled, if_pos hZero]
        · cases hFell
  rcases Concurrent.yields_sessionLookup.mp hPrelude.looks with
    ⟨_, rfl, _⟩ | ⟨_, info', hTurns, rfl⟩
  · cases hMem
  · rcases hTurns.eq_of_gets hMem hGets with ⟨rfl, rfl⟩
    refine ⟨congrArg (SolvelaClient.sessionIdOf X)
      hGuarded.1, ?_⟩
    unfold Routed Concurrent.withSession
    cases hUsed : guarded.2 with
    | true => exact Or.inr (hGuarded.2 hUsed)
    | false => exact Or.inl rfl

/- A call sends the model of the session that it got. -/
theorem routed_of_yields
    {call : Call}
    {es : List Accessed}
    {result : CallResult X}
    (hYields : Yields (call.dialogue client) es result)
    (hMem : e ∈ es)
    (hGets : Gets id info e) :
    ∃ req sent,
      (call = .chat req ∨ call = .chatStream req) ∧
        id = SolvelaClient.sessionIdOf X req.messages ∧
          Routed client.config info sent ∧
            ∀ x ∈ sentIn es, Carries sent x := by
  have hPhase := hGets.phase_eq
  cases call with
  | chat req =>
      rcases yields_map.mp hYields with ⟨r, hChat, _⟩
      rcases Concurrent.yields_chat.mp hChat with
        ⟨guard, look, check, rest, guarded, session, cache,
          rfl, hPrelude, hCheck, hRest⟩
      have hLook :=
        Concurrent.mem_look_of_mem_chat hPrelude hCheck hRest
          hMem hPhase
      rcases hPrelude.routed_of_gets hLook hGets with
        ⟨hId, hRouted⟩
      refine ⟨req, session.1, Or.inl rfl, hId, hRouted, ?_⟩
      rw [hPrelude.sentIn_chat hCheck]
      rcases hRest.sentIn_spec with hNone | hTalk
      · rw [hNone]
        intro x hIn
        cases hIn
      · exact hTalk.carries
  | chatStream req =>
      rcases yields_map.mp hYields with ⟨r, hStream, _⟩
      rcases Concurrent.yields_chatStream.mp hStream with
        ⟨guard, look, turns, guarded, session, rfl, hPrelude,
          hTalk⟩
      have hLook :=
        Concurrent.mem_look_of_mem_chatStream hPrelude hMem
          hPhase
      rcases hPrelude.routed_of_gets hLook hGets with
        ⟨hId, hRouted⟩
      refine ⟨req, session.1, Or.inr rfl, hId, hRouted, ?_⟩
      rw [sentIn_append, sentIn_append, sentIn_append,
        hPrelude.sentIn_eq_nil.1, hPrelude.sentIn_eq_nil.2,
        Concurrent.sentIn_recordTurns, sentIn_talk]
      exact (Concurrent.streamAttempt_of_yields hTalk).carries
  | proxied gatewayUrl request =>
      exfalso
      rcases yields_map.mp hYields with ⟨r, hTalk, _⟩
      rcases Concurrent.yields_talk.mp hTalk with
        ⟨turns, rfl, _⟩
      rw [inPhase_talk turns e hMem] at hPhase
      cases hPhase
  | monitored monitor ata rounds =>
      exfalso
      rcases yields_map.mp hYields with ⟨r, hRounds, _⟩
      rcases Concurrent.phase_of_mem_monitorRounds hRounds e
          hMem with hIn | hIn
      · rw [hIn] at hPhase
        cases hPhase
      · rw [hIn] at hPhase
        cases hPhase

end Solvela

------------------------------------------------------------
-- Shared Sessions
------------------------------------------------------------

namespace Solvela

open Dialogues Histories Transitions

variable {X : Crates} {ι : Type}
variable [DecidableEq ι]
variable {client : SolvelaClient X}
variable {calls : ι → Call}
variable {q p : CallPool X ι}
variable {id : String}
variable {info : SessionInfo}
variable {s : SharedSessions}

theorem hasSessions_new
    {config : ClientConfig}
    (hOn : config.enableSessions = true)
    (start : Nat) :
    HasSessions (World.new (X := X) config start)
      (SharedSessions.init config.sessionTtl start) where
  store := by
    unfold World.new
    rw [hOn]
    rfl
  clock := Nat.le_refl _

/- A turn that gets a session is a step on the sessions. -/
theorem exists_touch_of_gets
    {i : ι}
    {e : Accessed}
    {now : Nat}
    (hStep :
      Observed (PoolStep Accesses)
        (fun p : CallPool X ι => p.shared.now) q ((i, e), now)
        p)
    (hSessions : HasSessions q.shared s)
    (hGets : Gets id info e) :
    ∃ k t, ShowsSession ((i, e), now) (some k) ∧
      SessionTouch s k t ∧ HasSessions p.shared t := by
  rcases hStep with ⟨hTurn, hNow⟩
  dsimp only at hTurn hNow
  subst hNow
  cases hTurn with
  | turn _ hActs =>
      rcases hActs.sessionTouch hSessions i with
        ⟨hNone, _⟩ | hTouch
      · rcases hNone.of_gets hGets with ⟨_, _, _, _, hNo, _⟩
        cases hNo
      · exact hTouch

/- While a session holds, every turn that gets it agrees. -/
theorem HoldsWhileLive.model_of_turn
    {ttl created : Nat}
    {model : String}
    {later : List (Timed ι)}
    (hHolds : HoldsWhileLive ttl id created model s)
    (hRun : TimedRun q later p)
    (hSessions : HasSessions q.shared s)
    {k : ι}
    {e : Accessed}
    {now : Nat}
    (hMem : ((k, e), now) ∈ later)
    (hGets : Gets id info e)
    (hLive : now < created + ttl) :
    info.model = model := by
  rcases hRun.of_mem hMem with
    ⟨past, rest, t, v, _, hPast, hStep, _⟩
  rcases sessionRun_of_run hPast hSessions with
    ⟨ks, s', _, hTouches, hThere⟩
  have hStill :=
    hTouches.invariant
      (fun _ => HoldsWhileLive ttl id created model) hHolds
      (fun _ _ _ _ _ hKept hTouch => hKept.touch hTouch)
  rcases exists_touch_of_gets hStep hThere hGets with
    ⟨k', t', hShows, hTouch, _⟩
  exact hStill.model_of_gets hTouch hShows hGets hLive

/-
  Over every interleaving of the calls of a client: a session
  in the store was opened by a turn of some call, and sums up
  exactly what turns recorded for it since; from the turn in
  which a call gets a session, every call that gets one for
  the same id in its lifetime gets the same model; and a call
  that gets a session is one about its messages, and all that
  it sends asks for the model of the session, unless it fell
  back.
-/
theorem interleaved_sessions
    (client : SolvelaClient X)
    (hOn : client.config.enableSessions = true)
    (start : Nat)
    (calls : ι → Call)
    (history : List (Timed ι))
    (p : CallPool X ι)
    (hRun :
      TimedRun
        (startPool client (World.new client.config start)
          calls)
        history p) :
    (∃ store, p.shared.sessionStore = some store ∧
      ∀ id entry, store.sessions id = some entry →
        ∃ before j first since,
          history =
              before ++
                ((j, ⟨.openSession id entry.model, first⟩),
                  entry.created) :: since ∧
            Summarises (since.filterMap (recordedOn id))
              entry) ∧
      (∀ past i e now later id info,
        history = past ++ ((i, e), now) :: later →
          Gets id info e →
            ∃ before j first created between,
              past ++ [((i, e), now)] =
                  before ++
                    ((j, ⟨.openSession id info.model, first⟩),
                      created) :: between ∧
                ∀ k e' now' info',
                  ((k, e'), now') ∈ later →
                    Gets id info' e' →
                      now' <
                          created + client.config.sessionTtl →
                        info'.model = info.model) ∧
      (∀ i e now id info,
        ((i, e), now) ∈ history →
          Gets id info e →
            ∃ req sent,
              (calls i = .chat req ∨
                  calls i = .chatStream req) ∧
                id = SolvelaClient.sessionIdOf X
                    req.messages ∧
                  Routed client.config info sent ∧
                    ∀ x ∈ ownPart i
                        (tagged (history.map Prod.fst)),
                      Carries sent x) := by
  have hNew : HasSessions
      (startPool client (World.new client.config start)
        calls).shared
      (SharedSessions.init client.config.sessionTtl start) :=
    hasSessions_new hOn start
  refine ⟨?_, ?_, ?_⟩
  · rcases sessionRun_of_run hRun hNew with
      ⟨ks, s, hShown, hTouches, hSessions⟩
    refine ⟨s.store, hSessions.store, ?_⟩
    intro id entry hEntry
    exact exists_opening hShown
      (sharedInvariant_of_touches hTouches) hEntry
  · intro past i e now later id info hHistory hGets
    subst hHistory
    rcases labelledRun_append.mp hRun with
      ⟨t, hPast, v, hStep, hLater⟩
    rcases sessionRun_of_run hPast hNew with
      ⟨ks, s, hShown, hTouches, hSessions⟩
    rcases exists_touch_of_gets hStep hSessions hGets with
      ⟨k, s', hShows, hTouch, hSessions'⟩
    have hInvariant :=
      (sharedInvariant_of_touches hTouches).touch hTouch
    rcases hShows.of_gets hGets with
      ⟨k', read, stamp, default, hSame, _, hReturns⟩
    cases hSame
    rcases hTouch.entry_of_returns hReturns with
      ⟨entry, hEntry, hModel⟩
    rcases exists_opening (hShown.snoc hShows) hInvariant
        hEntry with
      ⟨before, j, first, since, hOpened, _⟩
    rw [hModel] at hOpened
    refine ⟨before, j, first, entry.created, since, hOpened,
      ?_⟩
    intro k e' now' info' hMem hGets' hLive
    rw [← hModel]
    exact (hInvariant.holdsWhileLive hEntry).model_of_turn
      hLater hSessions' hMem hGets' hLive
  · intro i e now id info hMem hGets
    have hPlays := plays_of_run (unobserved hRun) i
    rcases hPlays.completes someAnswer with
      ⟨rest, result, hYields⟩
    have hOwn : e ∈ ownPart i (history.map Prod.fst) :=
      mem_ownPart_iff.mpr (List.mem_map_of_mem hMem)
    rcases routed_of_yields hYields
        (List.mem_append_left _ hOwn) hGets with
      ⟨req, sent, hCall, hId, hRouted, hCarries⟩
    refine ⟨req, sent, hCall, hId, hRouted, ?_⟩
    intro x hIn
    apply hCarries x
    rw [tagged_own] at hIn
    rw [sentIn_append]
    exact List.mem_append_left _ hIn

/- With sessions on, a chat call gets one. -/
theorem exists_gets_of_yields
    {req : ChatRequest}
    {es : List Accessed}
    {result : CallResult X}
    (hOn : client.config.enableSessions = true)
    (hYields :
      Yields ((Call.chat req).dialogue client) es result) :
    ∃ e ∈ es, ∃ id info, Gets id info e := by
  rcases yields_bind.mp hYields with
    ⟨own, after, r, rfl, hChat, _⟩
  rcases Concurrent.yields_chat.mp hChat with
    ⟨guard, look, check, rest, guarded, session, cache, rfl,
      hPrelude, _, _⟩
  have hIn : ∀ e ∈ look,
      e ∈ (guard ++ (look ++ (check ++ rest))) ++ after := by
    intro e hMem
    exact List.mem_append_left _ (List.mem_append_right _
      (List.mem_append_left _ hMem))
  rcases Concurrent.yields_sessionLookup.mp hPrelude.looks with
    ⟨hOff, _, _⟩ | ⟨_, info, hTurns, _⟩
  · rw [hOn] at hOff
    cases hOff
  · cases hTurns with
    | found =>
        exact ⟨_, hIn _ List.mem_cons_self, _, info, .found⟩
    | opened =>
        exact ⟨_, hIn _ (List.mem_cons_of_mem _
          List.mem_cons_self), _, info, .opened⟩

/- The second of two calls gets its session from a turn. -/
theorem sample_session_opened :
    ∃ past e now later p id info,
      TimedRun
          (startPool (sampleClient sessionsConfig)
            (World.new sessionsConfig 0)
            (fun _ : Bool => .chat sampleRequest))
          (past ++ ((true, e), now) :: later) p ∧
        Gets id info e ∧
          ∃ before j first created between,
            past ++ [((true, e), now)] =
              before ++ ((j, ⟨.openSession id info.model,
                first⟩), created) :: between := by
  let client := sampleClient sessionsConfig
  let world := World.new (X := sampleCrates) sessionsConfig 0
  let calls := fun _ : Bool => Call.chat sampleRequest
  have hSerial :=
    serialRun_twice client sampleEnv sampleRequest world
  rcases hSerial.interleaves (q := startPool client world calls)
      (Lags.refl world)
      (World.configured_new sessionsConfig 0) (by simp)
      (fun _ _ => rfl) with
    ⟨ls, p, hRun, hDone, _, _⟩
  have hPlays := plays_of_run hRun true
  rw [hDone true _
    (List.mem_cons_of_mem _ List.mem_cons_self)] at hPlays
  rcases exists_gets_of_yields rfl hPlays with
    ⟨e, hMem, id, info, hGets⟩
  rcases hRun.observed
      (fun p : CallPool sampleCrates Bool => p.shared.now) with
    ⟨history, rfl, hTimed⟩
  rcases List.mem_map.mp (mem_ownPart_iff.mp hMem) with
    ⟨⟨_, now⟩, hIn, rfl⟩
  rcases List.append_of_mem hIn with ⟨past, later, rfl⟩
  rcases (interleaved_sessions client rfl 0 calls _ p
      hTimed).2.1 past true e now later id info rfl hGets with
    ⟨before, j, first, created, between, hOpened, _⟩
  exact ⟨past, e, now, later, p, id, info, hTimed, hGets,
    before, j, first, created, between, hOpened⟩

end Solvela
