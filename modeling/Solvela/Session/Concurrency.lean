import Solvela.Foundations.Transitions
import Solvela.Session.History

/-
  Concurrent calls on a session store.

  A call of `get_or_create` is two steps, and the steps of any
  number of calls interleave.  Between a look-up that found
  nothing and its re-check, other calls may create, record,
  expire or clean up under the same id.

  Main declarations:
    * `SharedSessions`, `SessionEvent`, `SessionStep`
    * `SessionStep.keeps`
    * `sharedInvariant_of_run`
    * `SessionStep.atomic`
    * `concurrent_sessions`
-/

------------------------------------------------------------
-- Interleaved Steps
------------------------------------------------------------

namespace Solvela

/-
  The store, the clock, and the calls that found nothing and
  have yet to re-check, with their id and default model.
-/
structure SharedSessions where
  store : SessionStore
  clock : Nat
  pending : Nat → Option (String × String)

/-
  A lock-protected step.  A look-up comes with what it found,
  a re-check with what it returned and whether it opened a
  session, and a clean-up with the clock at its end.
-/
inductive SessionEvent where
  | looked
      (call now : Nat)
      (id model : String)
      (result : Option SessionInfo)
  | rechecked
      (call now created : Nat)
      (id model : String)
      (info : SessionInfo)
      (opened : Bool)
  | recorded
      (id : String)
      (hash : UInt64)
  | cleaned
      (readings : String → Nat)
      (now : Nat)

namespace SessionEvent

/- What a step does to the store. -/
def storeEvent : SessionEvent → StoreEvent
| .looked _ _ _ _ _ => .looked
| .rechecked _ _ created id model _ true =>
    .opened id created model
| .rechecked _ _ _ _ _ _ false => .looked
| .recorded id hash => .recorded id hash
| .cleaned readings _ => .cleaned readings

/- A call on `id` returned `info` at reading `now`. -/
def Returns
    (now created : Nat)
    (id model : String)
    (info : SessionInfo)
    (e : SessionEvent) : Prop :=
  (∃ call, e = .looked call now id model (some info)) ∨
    ∃ call opened,
      e = .rechecked call now created id model info opened

/- A step opened a session under `id`. -/
def Opens
    (id : String)
    (e : SessionEvent) : Prop :=
  e.storeEvent.Opens id

/- The session under `id` after the step, if it stays. -/
def updated
    (id : String)
    (entry : SessionEntry)
    (e : SessionEvent) : SessionEntry :=
  match e.storeEvent.hashOn id with
  | some hash => entry.recordRequest hash
  | none => entry

/- The step records a request under `id`. -/
def recordsOn
    (id : String)
    (e : SessionEvent) : Bool :=
  (e.storeEvent.hashOn id).isSome

end SessionEvent

/- The steps, under a clock that never goes back. -/
inductive SessionStep :
    SharedSessions → SessionEvent → SharedSessions → Prop where
  | looked
      {s : SharedSessions}
      {call now : Nat}
      {id model : String}
      (hIdle : s.pending call = none)
      (hClock : s.clock ≤ now) :
      SessionStep s
        (.looked call now id model (s.store.lookup now id))
        { s with
          clock := now
          pending :=
            if (s.store.lookup now id).isNone then
              Function.update s.pending call
                (some (id, model))
            else
              s.pending }
  | rechecked
      {s : SharedSessions}
      {call now created : Nat}
      {id model : String}
      (hPending : s.pending call = some (id, model))
      (hClock : s.clock ≤ now)
      (hStamp : now ≤ created) :
      SessionStep s
        (.rechecked call now created id model
          (s.store.recheckOrInsert now created id model).1
          (s.store.live now id).isNone)
        { store :=
            (s.store.recheckOrInsert now created id model).2
          clock := created
          pending := Function.update s.pending call none }
  | recorded
      {s : SharedSessions}
      {id : String}
      {hash : UInt64} :
      SessionStep s (.recorded id hash)
        { s with store := s.store.recordRequest id hash }
  | cleaned
      {s : SharedSessions}
      {readings : String → Nat}
      {now : Nat}
      (hReadings :
        ∀ id, s.clock ≤ readings id ∧ readings id ≤ now) :
      SessionStep s (.cleaned readings now)
        { s with
          store := s.store.cleanupExpired readings
          clock := now }

end Solvela

------------------------------------------------------------
-- What A Step Can Do
------------------------------------------------------------

namespace Solvela

variable {s t : SharedSessions}
variable {e : SessionEvent}

/- A step acts on the store by its store event. -/
theorem SessionStep.store_eq
    (hStep : SessionStep s e t) :
    t.store = e.storeEvent.apply s.store := by
  cases hStep with
  | looked _ _ => rfl
  | @rechecked call now created id model _ _ _ =>
      cases hLive : s.store.live now id with
      | none =>
          rw [SessionStore.recheckOrInsert_of_not_live hLive]
          rfl
      | some entry =>
          rw [SessionStore.recheckOrInsert_of_live hLive]
          rfl
  | recorded => rfl
  | cleaned _ => rfl

theorem SessionStep.clock_le
    (hStep : SessionStep s e t) :
    s.clock ≤ t.clock := by
  cases hStep with
  | looked _ hClock => exact hClock
  | rechecked _ hClock hStamp => exact hClock.trans hStamp
  | recorded => exact Nat.le_refl _
  | cleaned hReadings =>
      exact (hReadings "").1.trans (hReadings "").2

theorem SessionStep.ttl_eq
    (hStep : SessionStep s e t) :
    t.store.ttl = s.store.ttl := by
  rw [hStep.store_eq]
  cases e.storeEvent with
  | looked => rfl
  | opened id created model => rfl
  | recorded id hash =>
      exact SessionStore.ttl_recordRequest _ _ _
  | cleaned readings => rfl

/- A session that is not live has reached its lifetime. -/
theorem expired_of_not_live
    {store : SessionStore}
    {now : Nat}
    {id : String}
    {entry : SessionEntry}
    (hEntry : store.sessions id = some entry)
    (hStamp : entry.created ≤ now)
    (hNone : store.live now id = none) :
    entry.created + store.ttl ≤ now := by
  by_contra hYoung
  have hLive : store.live now id = some entry :=
    SessionStore.live_eq_some_iff.mpr ⟨hEntry, by omega⟩
  rw [hNone] at hLive
  cases hLive

/-
  A session stays, with at most a request recorded, unless it
  had reached its lifetime when the step read the clock.
-/
theorem SessionStep.keeps
    {id : String}
    {entry : SessionEntry}
    (hStep : SessionStep s e t)
    (hEntry : s.store.sessions id = some entry)
    (hStamp : entry.created ≤ s.clock) :
    t.store.sessions id = some (e.updated id entry) ∨
      ∃ now, s.clock ≤ now ∧ now ≤ t.clock ∧
        entry.created + s.store.ttl ≤ now := by
  cases hStep with
  | looked _ _ => exact Or.inl hEntry
  | @rechecked call now created id' model _ hClock hAfter =>
      cases hLive : s.store.live now id' with
      | some found =>
          rw [SessionStore.recheckOrInsert_of_live hLive]
          exact Or.inl hEntry
      | none =>
          by_cases hId : id = id'
          · right
            rw [← hId] at hLive
            exact ⟨now, hClock, hAfter,
              expired_of_not_live hEntry
                (hStamp.trans hClock) hLive⟩
          · left
            rw [SessionStore.recheckOrInsert_of_not_live
              hLive]
            change (s.store.insert id' _).sessions id = _
            rw [SessionStore.sessions_insert_of_ne _ hId]
            exact hEntry
  | @recorded id' hash =>
      left
      change (s.store.recordRequest id' hash).sessions id = _
      rw [SessionStore.sessions_recordRequest]
      by_cases hId : id = id'
      · subst hId
        rw [if_pos rfl, hEntry]
        have hHash :
            StoreEvent.hashOn id (.recorded id hash) =
              some hash :=
          if_pos rfl
        unfold SessionEvent.updated SessionEvent.storeEvent
        rw [hHash]
        rfl
      · rw [if_neg hId]
        have hHash :
            StoreEvent.hashOn id (.recorded id' hash) =
              none :=
          if_neg (Ne.symm hId)
        unfold SessionEvent.updated SessionEvent.storeEvent
        rw [hHash]
        exact hEntry
  | @cleaned readings now hReadings =>
      cases hLive : s.store.live (readings id) id with
      | none =>
          right
          exact ⟨readings id, (hReadings id).1,
            (hReadings id).2,
            expired_of_not_live hEntry
              (hStamp.trans (hReadings id).1) hLive⟩
      | some found =>
          left
          have hFound :=
            (SessionStore.live_eq_some_iff.mp hLive).1
          rw [hEntry] at hFound
          cases hFound
          exact hLive

/-
  A step in which a call returns does what the whole call
  would do at once at the clock reading of that step.
-/
theorem SessionStep.atomic
    {now created : Nat}
    {id model : String}
    {info : SessionInfo}
    (hStep : SessionStep s e t)
    (hReturns : e.Returns now created id model info) :
    s.clock ≤ now ∧
      s.store.getOrCreate now now created id model =
        (info, t.store) := by
  rcases hReturns with ⟨call, rfl⟩ | ⟨call, opened, rfl⟩
  · generalize hResult : some info = result at hStep
    cases hStep with
    | looked _ hClock =>
        rcases SessionStore.lookup_eq_some_iff.mp
            hResult.symm with ⟨entry, hLive, rfl⟩
        exact ⟨hClock,
          SessionStore.getOrCreate_of_live hLive _ _ _⟩
  · cases hStep with
    | rechecked _ hClock _ =>
        exact ⟨hClock,
          SessionStore.getOrCreate_self _ _ _ _ _⟩

end Solvela

------------------------------------------------------------
-- Runs
------------------------------------------------------------

namespace Solvela

open Histories Transitions

/- A new store at clock reading `start`. -/
def SharedSessions.init
    (ttl start : Nat) : SharedSessions where
  store := SessionStore.new ttl
  clock := start
  pending := fun _ => none

/- What holds after every run. -/
structure SharedInvariant
    (ttl : Nat)
    (history : List SessionEvent)
    (s : SharedSessions) : Prop where
  ttl_eq : s.store.ttl = ttl
  stamped : ∀ id entry, s.store.sessions id = some entry →
    entry.created ≤ s.clock
  remembers :
    Remembers (history.map SessionEvent.storeEvent) s.store

theorem sharedInvariant_init
    (ttl start : Nat) :
    SharedInvariant ttl [] (SharedSessions.init ttl start) where
  ttl_eq := rfl
  stamped := by
    intro id entry hEntry
    cases hEntry
  remembers := remembers_new ttl

/- A session was there before the step, or is stamped now. -/
theorem SessionStep.stamped
    {s t : SharedSessions}
    {e : SessionEvent}
    (hStep : SessionStep s e t)
    (hStamped : ∀ id entry,
      s.store.sessions id = some entry →
        entry.created ≤ s.clock) :
    ∀ id entry, t.store.sessions id = some entry →
      entry.created ≤ t.clock := by
  intro id entry hEntry
  cases hStep with
  | looked _ hClock =>
      exact (hStamped id entry hEntry).trans hClock
  | @rechecked call now created id' model _ hClock hAfter =>
      cases hLive : s.store.live now id' with
      | some found =>
          rw [SessionStore.recheckOrInsert_of_live
            hLive] at hEntry
          exact ((hStamped id entry hEntry).trans
            hClock).trans hAfter
      | none =>
          rw [SessionStore.recheckOrInsert_of_not_live
            hLive] at hEntry
          change (s.store.insert id' _).sessions id = _
            at hEntry
          by_cases hId : id = id'
          · rw [hId,
              SessionStore.sessions_insert_self] at hEntry
            cases hEntry
            exact Nat.le_refl _
          · rw [SessionStore.sessions_insert_of_ne _
              hId] at hEntry
            exact ((hStamped id entry hEntry).trans
              hClock).trans hAfter
  | @recorded id' hash =>
      change (s.store.recordRequest id' hash).sessions id = _
        at hEntry
      rw [SessionStore.sessions_recordRequest] at hEntry
      by_cases hId : id = id'
      · rw [if_pos hId] at hEntry
        rcases Option.map_eq_some_iff.mp hEntry with
          ⟨old, hOld, rfl⟩
        exact hStamped id' old hOld
      · rw [if_neg hId] at hEntry
        exact hStamped id entry hEntry
  | cleaned hReadings =>
      have hOld :=
        (SessionStore.live_eq_some_iff.mp hEntry).1
      exact (hStamped id entry hOld).trans
        ((hReadings id).1.trans (hReadings id).2)

theorem SharedInvariant.step
    {ttl : Nat}
    {history : List SessionEvent}
    {s t : SharedSessions}
    {e : SessionEvent}
    (hInvariant : SharedInvariant ttl history s)
    (hStep : SessionStep s e t) :
    SharedInvariant ttl (history ++ [e]) t where
  ttl_eq := hStep.ttl_eq.trans hInvariant.ttl_eq
  stamped := hStep.stamped hInvariant.stamped
  remembers := by
    rw [List.map_append, hStep.store_eq]
    exact hInvariant.remembers.apply e.storeEvent

theorem sharedInvariant_of_run
    {ttl start : Nat}
    {history : List SessionEvent}
    {s : SharedSessions}
    (hRun :
      LabelledRun SessionStep (SharedSessions.init ttl start)
        history s) :
    SharedInvariant ttl history s :=
  hRun.invariant (SharedInvariant ttl)
    (sharedInvariant_init ttl start)
    (fun _ _ _ _ _ hPast hStep => hPast.step hStep)

end Solvela

------------------------------------------------------------
-- Racing Calls
------------------------------------------------------------

namespace Solvela

open Histories Transitions

/- While a session can be live, it is there with its model. -/
def HoldsWhileLive
    (ttl : Nat)
    (id : String)
    (created : Nat)
    (model : String)
    (s : SharedSessions) : Prop :=
  s.store.ttl = ttl ∧ created ≤ s.clock ∧
    (s.clock - created < ttl →
      ∃ entry, s.store.sessions id = some entry ∧
        entry.created = created ∧ entry.model = model)

variable {ttl created : Nat}
variable {id model : String}
variable {s t : SharedSessions}
variable {e : SessionEvent}

/- Opening a session makes it so. -/
theorem SessionStep.holdsWhileLive
    (hStep : SessionStep s e t)
    (hTtl : s.store.ttl = ttl)
    (hOpened : e.storeEvent = .opened id created model) :
    HoldsWhileLive ttl id created model t := by
  have hStore := hStep.store_eq
  rw [hOpened] at hStore
  refine ⟨hStep.ttl_eq.trans hTtl, ?_, ?_⟩
  · cases hStep with
    | looked _ _ => cases hOpened
    | @rechecked call now stamp id' model' _ _ _ =>
        cases hLive : (s.store.live now id').isNone with
        | true =>
            rw [hLive] at hOpened
            injection hOpened with _ hStamp _
            exact Nat.le_of_eq hStamp.symm
        | false =>
            rw [hLive] at hOpened
            cases hOpened
    | recorded => cases hOpened
    | cleaned _ => cases hOpened
  · intro _
    refine ⟨.fresh created model, ?_, rfl, rfl⟩
    rw [hStore]
    exact SessionStore.sessions_insert_self _ _ _

/- And every step keeps it so. -/
theorem HoldsWhileLive.step
    (hHolds : HoldsWhileLive ttl id created model s)
    (hStep : SessionStep s e t) :
    HoldsWhileLive ttl id created model t := by
  rcases hHolds with ⟨hTtl, hStamp, hThere⟩
  have hClock := hStep.clock_le
  refine ⟨hStep.ttl_eq.trans hTtl, hStamp.trans hClock, ?_⟩
  intro hYoung
  rcases hThere (by omega) with
    ⟨entry, hEntry, rfl, rfl⟩
  rcases hStep.keeps hEntry hStamp with
    hKept | ⟨now, _, hNow, hOld⟩
  · refine ⟨_, hKept, ?_⟩
    unfold SessionEvent.updated
    cases e.storeEvent.hashOn id with
    | none => exact ⟨rfl, rfl⟩
    | some hash => exact ⟨rfl, rfl⟩
  · rw [hTtl] at hOld
    omega

/- Then a call that returns in time returns that model. -/
theorem HoldsWhileLive.model_of_returns
    {now stamp : Nat}
    {default : String}
    {info : SessionInfo}
    (hHolds : HoldsWhileLive ttl id created model s)
    (hStep : SessionStep s e t)
    (hReturns : e.Returns now stamp id default info)
    (hLive : now - created < ttl) :
    info.model = model := by
  rcases hHolds with ⟨hTtl, hStamp, hThere⟩
  rcases hStep.atomic hReturns with ⟨hClock, hAtomic⟩
  rcases hThere (by omega) with
    ⟨entry, hEntry, rfl, rfl⟩
  have hFound : s.store.live now id = some entry :=
    SessionStore.live_eq_some_iff.mpr
      ⟨hEntry, by rw [hTtl]; exact hLive⟩
  rw [SessionStore.getOrCreate_of_live hFound] at hAtomic
  injection hAtomic with hInfo _
  rw [← hInfo]
  rfl

/- The call that opens a session returns its model. -/
theorem SessionStep.model_of_opened
    {now stamp : Nat}
    {default : String}
    {info : SessionInfo}
    (hStep : SessionStep s e t)
    (hOpened : e.storeEvent = .opened id created model)
    (hReturns : e.Returns now stamp id default info) :
    info.model = model := by
  rcases hReturns with ⟨call, rfl⟩ | ⟨call, opened, rfl⟩
  · cases hOpened
  · cases opened with
    | false => cases hOpened
    | true =>
        cases hOpened
        generalize hFlag : true = flag at hStep
        cases hStep with
        | rechecked _ _ _ =>
            have hNone : s.store.live now id = none := by
              simpa using hFlag.symm
            rw [SessionStore.recheckOrInsert_of_not_live
              hNone]

/-
  From the step that opens a session on, every call on its
  id that returns while the session is live gets its model.
-/
theorem model_of_returns
    {s u : SharedSessions}
    {opening : SessionEvent}
    {since : List SessionEvent}
    (hTtl : s.store.ttl = ttl)
    (hRun : LabelledRun SessionStep s (opening :: since) u)
    (hOpened : opening.storeEvent = .opened id created model)
    {now stamp : Nat}
    {default : String}
    {info : SessionInfo}
    (hMem : e ∈ opening :: since)
    (hReturns : e.Returns now stamp id default info)
    (hLive : now - created < ttl) :
    info.model = model := by
  rcases hRun with ⟨t, hOpening, hSince⟩
  rcases List.mem_cons.mp hMem with rfl | hLater
  · exact hOpening.model_of_opened hOpened hReturns
  · rcases hSince.of_mem hLater with
      ⟨past, rest, v, w, _, hPast, hStep, _⟩
    have hHolds :=
      hPast.invariant
        (fun _ => HoldsWhileLive ttl id created model)
        (hOpening.holdsWhileLive hTtl hOpened)
        (fun _ _ _ _ _ hKept hNext => hKept.step hNext)
    exact hHolds.model_of_returns hStep hReturns hLive

end Solvela

------------------------------------------------------------
-- Concurrent Sessions
------------------------------------------------------------

namespace Solvela

open Histories Transitions

/-
  Over every interleaving: a session is removed or replaced
  only after its lifetime; its count is that of the requests
  recorded since it was opened; each call returns what an
  atomic call at its last step returns; and calls that return
  while a session is live, from the call that opened it on,
  agree on its model.
-/
theorem concurrent_sessions
    (ttl start : Nat)
    (history : List SessionEvent)
    (s : SharedSessions)
    (hRun :
      LabelledRun SessionStep (SharedSessions.init ttl start)
        history s) :
    (∀ e t id entry,
      SessionStep s e t →
        s.store.sessions id = some entry →
          t.store.sessions id = some (e.updated id entry) ∨
            ∃ now, s.clock ≤ now ∧ now ≤ t.clock ∧
              entry.created + ttl ≤ now) ∧
    (∀ id entry, s.store.sessions id = some entry →
      ∃ opening since,
        LastAt (SessionEvent.Opens id) history opening
            since ∧
          opening.storeEvent =
              .opened id entry.created entry.model ∧
            entry.requestCount =
              since.countP (SessionEvent.recordsOn id)) ∧
    (∀ e t now created id model info,
      SessionStep s e t →
        e.Returns now created id model info →
          s.clock ≤ now ∧
            s.store.getOrCreate now now created id model =
              (info, t.store)) ∧
    (∀ before opening since id created model,
      history = before ++ opening :: since →
        opening.storeEvent = .opened id created model →
          ∀ e₁ ∈ opening :: since, ∀ e₂ ∈ opening :: since,
            ∀ now₁ stamp₁ default₁ info₁ now₂ stamp₂ default₂
              info₂,
              e₁.Returns now₁ stamp₁ id default₁ info₁ →
                e₂.Returns now₂ stamp₂ id default₂ info₂ →
                  now₁ - created < ttl →
                    now₂ - created < ttl →
                      info₁.model = info₂.model) := by
  have hInvariant := sharedInvariant_of_run hRun
  refine ⟨?_, ?_, ?_, ?_⟩
  · intro e t id entry hStep hEntry
    rw [← hInvariant.ttl_eq]
    exact hStep.keeps hEntry
      (hInvariant.stamped id entry hEntry)
  · intro id entry hEntry
    rcases hInvariant.remembers id entry hEntry with
      ⟨since, hLast, hSummary⟩
    rcases (lastAt_map SessionEvent.storeEvent).mp hLast with
      ⟨opening, after, hOpening, hEvent, rfl⟩
    refine ⟨opening, after, hOpening, hEvent.symm, ?_⟩
    rw [hSummary.requestCount]
    unfold hashesOn
    rw [List.length_filterMap_eq_countP, List.countP_map]
    rfl
  · intro e t now created id model info hStep hReturns
    exact hStep.atomic hReturns
  · intro before opening since id created model hHistory
      hOpened e₁ hMem₁ e₂ hMem₂ now₁ stamp₁ default₁ info₁
      now₂ stamp₂ default₂ info₂ hReturns₁ hReturns₂ hLive₁
      hLive₂
    rw [hHistory] at hRun
    rcases labelledRun_append.mp hRun with
      ⟨mid, hBefore, hSince⟩
    have hTtl := (sharedInvariant_of_run hBefore).ttl_eq
    rw [model_of_returns hTtl hSince hOpened hMem₁ hReturns₁
        hLive₁,
      model_of_returns hTtl hSince hOpened hMem₂ hReturns₂
        hLive₂]

/- Two calls find nothing, and then re-check in turn. -/
def racingEvents
    (info₁ info₂ : SessionInfo) : List SessionEvent :=
  [.looked 0 0 "sid" "first" none,
    .looked 1 0 "sid" "second" none,
    .rechecked 0 1 1 "sid" "first" info₁ true,
    .rechecked 1 2 2 "sid" "second" info₂ false]

/- Both get the model of the one that came first. -/
theorem racing_calls_agree :
    ∃ info₁ info₂ s,
      LabelledRun SessionStep (SharedSessions.init 10 0)
          (racingEvents info₁ info₂) s ∧
        info₁.model = info₂.model := by
  have hRun :
      ∃ info₁ info₂ s,
        LabelledRun SessionStep (SharedSessions.init 10 0)
          (racingEvents info₁ info₂) s := by
    refine ⟨_, _, _, _, .looked rfl (Nat.le_refl 0), _,
      .looked rfl (Nat.le_refl 0), _,
      .rechecked rfl (Nat.zero_le 1) (Nat.le_refl 1), _,
      .rechecked rfl (Nat.le_succ 1) (Nat.le_refl 2), rfl⟩
  rcases hRun with ⟨info₁, info₂, s, hRun⟩
  refine ⟨info₁, info₂, s, hRun, ?_⟩
  exact (concurrent_sessions 10 0 _ s hRun).2.2.2
    [.looked 0 0 "sid" "first" none,
      .looked 1 0 "sid" "second" none]
    (.rechecked 0 1 1 "sid" "first" info₁ true)
    [.rechecked 1 2 2 "sid" "second" info₂ false]
    "sid" 1 "first" rfl rfl
    _ List.mem_cons_self _
    (List.mem_cons_of_mem _ List.mem_cons_self)
    1 1 "first" info₁ 2 2 "second" info₂
    (Or.inr ⟨0, true, rfl⟩) (Or.inr ⟨1, false, rfl⟩)
    (by decide) (by decide)

end Solvela
