import Solvela.Concurrent.Alone
import Solvela.Concurrent.Payments

/-
  An interleaved call is a solitary one.

  A call meets the shared state at up to three moments: when
  it loads the balance, when its look-up of a session takes
  effect, and when it looks into the cache.  With the state
  put together from these, and peers that reply as they did,
  the solitary call has the same exchanges and the same
  result.

  Main declarations:
    * `Accesses.now_le`
    * `Moment`, `guard_moment`, `look_moment`, `check_moment`
    * `prelude_solitary`, `chat_solitary`
    * `Snapshot`
    * `interleaved_call_is_solitary`
-/

------------------------------------------------------------
-- The Clock Of A Run
------------------------------------------------------------

namespace Solvela

open Dialogues Transitions

variable {X : Crates}

/- The clock never goes back. -/
theorem Accesses.now_le
    {world world' : World X}
    {e : Accessed}
    (hStep : Accesses world e world') :
    world.now ≤ world'.now := by
  cases hStep with
  | loadBalance => exact Nat.le_refl _
  | storeBalance => exact Nat.le_refl _
  | findSession hClock => exact hClock
  | openSession hClock hStamp =>
      unfold World.openSession
      cases world.sessionStore with
      | none => exact Nat.le_refl _
      | some store => exact hClock.trans hStamp
  | recordRequest => exact Nat.le_refl _
  | cacheGet hClock =>
      unfold World.cacheGet
      cases world.cache with
      | none => exact Nat.le_refl _
      | some cache => exact hClock
  | cachePut hClock hStamp =>
      unfold World.cachePut
      cases world.cache with
      | none => exact Nat.le_refl _
      | some cache =>
          dsimp only
          split
          · exact hClock
          · exact hClock.trans hStamp
  | send => exact Nat.le_refl _

theorem now_le_of_accesses
    {world world' : World X}
    {es : List Accessed}
    (hRun : LabelledRun Accesses world es world') :
    world.now ≤ world'.now :=
  hRun.invariant (fun _ w => world.now ≤ w.now)
    (Nat.le_refl _)
    (fun _ _ _ _ _ hPast hStep => hPast.trans hStep.now_le)

/- A load returns the balance. -/
theorem Accesses.of_loadBalance
    {world world' : World X}
    {balance : UInt64}
    (hStep : Accesses world ⟨.loadBalance, balance⟩ world') :
    balance = world.balanceState := by
  cases hStep with
  | loadBalance => rfl

theorem Accesses.of_findSession
    {world world' : World X}
    {id defaultModel : String}
    {found : Option SessionInfo}
    (hStep :
      Accesses world ⟨.findSession id defaultModel, found⟩
        world') :
    ∃ now, world.now ≤ now ∧
      found = world.findSession now id ∧
        world' = { world with now := now } := by
  cases hStep with
  | findSession hClock => exact ⟨_, hClock, rfl, rfl⟩

theorem Accesses.of_openSession
    {world world' : World X}
    {id defaultModel : String}
    {info : SessionInfo}
    (hStep :
      Accesses world ⟨.openSession id defaultModel, info⟩
        world') :
    ∃ now created, world.now ≤ now ∧ now ≤ created ∧
      info = (world.openSession now created id
          defaultModel).1 ∧
        world' = (world.openSession now created id
          defaultModel).2 := by
  cases hStep with
  | openSession hClock hStamp =>
      exact ⟨_, _, hClock, hStamp, rfl, rfl⟩

theorem Accesses.of_cacheGet
    {world world' : World X}
    {key : UInt64}
    {cached : Option ChatResponse}
    (hStep : Accesses world ⟨.cacheGet key, cached⟩ world') :
    ∃ now, world.now ≤ now ∧
      cached = (world.cacheGet now key).1 ∧
        world' = (world.cacheGet now key).2 := by
  cases hStep with
  | cacheGet hClock => exact ⟨_, hClock, rfl, rfl⟩

end Solvela

------------------------------------------------------------
-- Moments Of A Call
------------------------------------------------------------

namespace Solvela

open Dialogues Transitions

variable {X : Crates} {ι : Type}
variable [DecidableEq ι]

/- Pools of calls on one client. -/
abbrev CallPool
    (X : Crates)
    (ι : Type) :=
  Pool (World X) ι SharedAccess SharedAccess.Answer
    (CallResult X)

variable {client : SolvelaClient X}
variable {req : ChatRequest}
variable {q p : CallPool X ι}
variable {ls : List (ι × Accessed)}
variable {i : ι}

/-
  From `q`, the run passes the moment `t`, where call `i` has
  `later` still to do once it is at `u`.
-/
structure Moment
    (q p : CallPool X ι)
    (ls : List (ι × Accessed))
    (i : ι)
    (later : List Accessed)
    (before after : List (ι × Accessed))
    (t u : CallPool X ι) : Prop where
  reaches : LabelledRun (PoolStep Accesses) q before t
  leaves : ∃ between, ls = before ++ (between ++ after) ∧
    LabelledRun (PoolStep Accesses) t between u
  rest : LabelledRun (PoolStep Accesses) u after p
  own : ownPart i after = later

/- The moment before anything happened. -/
theorem moment_start
    (hRun : LabelledRun (PoolStep Accesses) q ls p) :
    Moment q p ls i (ownPart i ls) [] ls q q where
  reaches := rfl
  leaves := ⟨[], rfl, rfl⟩
  rest := hRun
  own := rfl

/- The moment of an access of the call. -/
theorem moment_of_access
    (hRun : LabelledRun (PoolStep Accesses) q ls p)
    {e : Accessed}
    {earlier later : List Accessed}
    (hOwn : ownPart i ls = earlier ++ e :: later) :
    ∃ before after t u,
      Moment q p ls i later before after t u ∧
        Accesses t.shared e u.shared := by
  rcases run_split hRun hOwn with
    ⟨past, rest, t, v, rfl, _, hLater, hPast, hStep, hRest⟩
  refine ⟨past, rest, t, v, ⟨hPast, ⟨[(i, e)], rfl, v, hStep,
    rfl⟩, hRest, hLater⟩, ?_⟩
  cases hStep with
  | turn _ hActs => exact hActs

/- The balance that the guard decides by. -/
theorem guard_moment
    (hRun : LabelledRun (PoolStep Accesses) q ls p)
    {guard later : List Accessed}
    {guarded : ChatRequest × Bool}
    (hOwn : ownPart i ls = guard ++ later)
    (hGuard :
      Yields (Concurrent.balanceGuard client.config req) guard
        guarded) :
    ∃ before after t u,
      Moment q p ls i later before after t u ∧
        guarded = SolvelaClient.balanceGuard client.config
          t.shared.balanceState req := by
  rcases Concurrent.yields_balanceGuard.mp hGuard with
    ⟨hNone, rfl, rfl⟩ | ⟨model, balance, _, rfl, rfl⟩
  · have hStart := moment_start (i := i) hRun
    rw [hOwn] at hStart
    refine ⟨[], ls, q, q, hStart, ?_⟩
    unfold SolvelaClient.balanceGuard
    rw [hNone]
  · rcases moment_of_access hRun
        (show ownPart i ls = [] ++ _ :: later from hOwn) with
      ⟨before, after, t, u, hMoment, hLoad⟩
    rw [hLoad.of_loadBalance]
    exact ⟨before, after, t, u, hMoment, rfl⟩

/-
  What a look-up of a session meets: no store, or one whose
  session it returns, or in which it opens one.
-/
inductive LookUp
    (client : SolvelaClient X)
    (req : ChatRequest)
    (usedFallback : Bool)
    (store : Option SessionStore)
    (now created : Nat) :
    ChatRequest × Option String → Prop where
  | off
      (hOff : client.config.enableSessions = false) :
      LookUp client req usedFallback store now created
        (req, none)
  | on
      {found : SessionStore}
      (hOn : client.config.enableSessions = true)
      (hStore : store = some found) :
      LookUp client req usedFallback store now created
        (Concurrent.withSession req usedFallback
            (found.recheckOrInsert now created
              (SolvelaClient.sessionIdOf X req.messages)
              req.model).1,
          some (SolvelaClient.sessionIdOf X req.messages))

/- The session store that a look-up takes effect in. -/
theorem look_moment
    (hRun : LabelledRun (PoolStep Accesses) q ls p)
    (hConfigured : q.shared.Configured client.config)
    {usedFallback : Bool}
    {look later : List Accessed}
    {session : ChatRequest × Option String}
    (hOwn : ownPart i ls = look ++ later)
    (hLook :
      Yields
        (Concurrent.sessionLookup client req usedFallback)
        look session) :
    ∃ before after t u now created,
      Moment q p ls i later before after t u ∧
        t.shared.now ≤ now ∧ now ≤ created ∧
          created ≤ u.shared.now ∧
            LookUp client req usedFallback
              t.shared.sessionStore now created session := by
  rcases Concurrent.yields_sessionLookup.mp hLook with
    ⟨hOff, rfl, rfl⟩ | ⟨hOn, info, hTurns, rfl⟩
  · have hStart := moment_start (i := i) hRun
    rw [hOwn] at hStart
    exact ⟨[], ls, q, q, _, _, hStart, Nat.le_refl _,
      Nat.le_refl _, Nat.le_refl _, .off hOff⟩
  · have hThere : ∀ {w : World X},
        w.Configured client.config →
          ∃ store, w.sessionStore = some store := by
      intro w hWorld
      apply Option.isSome_iff_exists.mp
      rw [hWorld.sessions, hOn]
    cases hTurns with
    | found =>
        rcases moment_of_access hRun
            (show ownPart i ls = [] ++ _ :: later from hOwn)
          with ⟨before, after, t, u, hMoment, hFind⟩
        rcases hThere (configured_of_accesses
            (acts_of_run hMoment.reaches) hConfigured) with
          ⟨store, hStore⟩
        rcases hFind.of_findSession with
          ⟨now, hClock, hFound, hNext⟩
        unfold World.findSession at hFound
        rw [hStore] at hFound
        have hSame :
            (store.recheckOrInsert now now
                (SolvelaClient.sessionIdOf X req.messages)
                req.model).1 =
              info := by
          unfold SessionStore.recheckOrInsert
          rw [show store.lookup now
              (SolvelaClient.sessionIdOf X req.messages) =
                some info from hFound.symm]
        refine ⟨before, after, t, u, now, now, hMoment,
          hClock, Nat.le_refl _, ?_, ?_⟩
        · rw [hNext]
        · rw [← hSame]
          exact .on hOn hStore
    | opened =>
        rcases moment_of_access hRun
            (show ownPart i ls = [_] ++ _ :: later from hOwn)
          with ⟨before, after, t, u, hMoment, hOpen⟩
        rcases hThere (configured_of_accesses
            (acts_of_run hMoment.reaches) hConfigured) with
          ⟨store, hStore⟩
        rcases hOpen.of_openSession with
          ⟨now, created, hClock, hStamp, hInfo, hNext⟩
        rw [World.openSession_of_store hStore] at hInfo hNext
        refine ⟨before, after, t, u, now, created, hMoment,
          hClock, hStamp, ?_, ?_⟩
        · rw [hNext]
        · rw [hInfo]
          exact .on hOn hStore

/- What a look-up in the cache meets. -/
inductive CheckUp
    (client : SolvelaClient X)
    (req : ChatRequest)
    (cache : Option (ResponseCache X.LruCache))
    (now : Nat) :
    Option UInt64 × Option ChatResponse → Prop where
  | off
      (hOff : client.config.enableCache = false) :
      CheckUp client req cache now (none, none)
  | on
      {found : ResponseCache X.LruCache}
      (hOn : client.config.enableCache = true)
      (hCache : cache = some found) :
      CheckUp client req cache now
        (some (Concurrent.keyOf X req),
          (found.get X.lru now (Concurrent.keyOf X req)).1)

/- The cache that it takes effect in. -/
theorem check_moment
    (hRun : LabelledRun (PoolStep Accesses) q ls p)
    (hConfigured : q.shared.Configured client.config)
    {check later : List Accessed}
    {cache : Option UInt64 × Option ChatResponse}
    (hOwn : ownPart i ls = check ++ later)
    (hCheck :
      Yields (Concurrent.cacheCheck client req) check cache) :
    ∃ before after t u now,
      Moment q p ls i later before after t u ∧
        t.shared.now ≤ now ∧ now ≤ u.shared.now ∧
          CheckUp client req t.shared.cache now cache := by
  rcases Concurrent.yields_cacheCheck.mp hCheck with
    ⟨hOff, rfl, rfl⟩ | ⟨hOn, cached, rfl, rfl⟩
  · have hStart := moment_start (i := i) hRun
    rw [hOwn] at hStart
    exact ⟨[], ls, q, q, _, hStart, Nat.le_refl _,
      Nat.le_refl _, .off hOff⟩
  · rcases moment_of_access hRun
        (show ownPart i ls = [] ++ _ :: later from hOwn) with
      ⟨before, after, t, u, hMoment, hGet⟩
    have hAt := configured_of_accesses
      (acts_of_run hMoment.reaches) hConfigured
    have hSome : t.shared.cache.isSome = true := by
      rw [hAt.cache, hOn]
    rcases Option.isSome_iff_exists.mp hSome with
      ⟨store, hStore⟩
    rcases hGet.of_cacheGet with
      ⟨now, hClock, hCached, hNext⟩
    rw [World.cacheGet_of_cache hStore] at hCached hNext
    refine ⟨before, after, t, u, now, hMoment, hClock, ?_, ?_⟩
    · rw [hNext]
    · rw [hCached]
      exact .on hOn hStore

end Solvela

------------------------------------------------------------
-- The Same Steps Alone
------------------------------------------------------------

namespace Solvela

open Dialogues Transitions Effects

variable {X : Crates}
variable {client : SolvelaClient X}
variable {req : ChatRequest}

namespace Concurrent

/-
  What was met can be put together to a state in which the
  solitary call decides the same.  The clock is set so that
  the readings come out: three for the sessions, then one for
  the cache.
-/
theorem prelude_solitary
    {balance : UInt64}
    {store : Option SessionStore}
    {cache : Option (ResponseCache X.LruCache)}
    {now created checked : Nat}
    {guarded : ChatRequest × Bool}
    {session : ChatRequest × Option String}
    (hSessions : store.isSome = client.config.enableSessions)
    (hGuarded :
      guarded =
        SolvelaClient.balanceGuard client.config balance req)
    (hLook :
      LookUp client guarded.1 guarded.2 store now created
        session)
    (hStamp : now ≤ created)
    (hLater : created ≤ checked) :
    ∃ start : World X, ∃ delay : Nat → Nat,
      start.trace = [] ∧ start.balanceState = balance ∧
        start.sessionStore = store ∧ start.cache = cache ∧
          (start.now = now ∨ start.now = checked) ∧
            ∀ env : Env, env.delay = delay →
              ∃ looked,
                client.sessionStep env req start =
                    (session, looked) ∧
                  looked.trace = [] ∧ looked.cache = cache ∧
                    checked =
                      looked.now + env.delay looked.reads := by
  cases hLook with
  | off hOff =>
      let start : World X :=
        { trace := []
          now := checked
          reads := 0
          balanceState := balance
          cache := cache
          sessionStore := store }
      refine ⟨start, fun _ => 0, rfl, rfl, rfl, rfl, Or.inr rfl,
        ?_⟩
      intro env hDelay
      have hNone : store = none := by
        cases store with
        | none => rfl
        | some found =>
            rw [hOff] at hSessions
            cases hSessions
      refine ⟨start, ?_, rfl, rfl, ?_⟩
      · unfold SolvelaClient.sessionStep
        rw [← hGuarded]
        unfold SolvelaClient.sessionLookup
        rw [show start.sessionStore = none from hNone]
      · rw [hDelay]
        rfl
  | @on found hOn hStore =>
      let start : World X :=
        { trace := []
          now := now
          reads := 0
          balanceState := balance
          cache := cache
          sessionStore := store }
      let delay : Nat → Nat := fun n =>
        if n = 2 then created - now
        else if n = 3 then checked - created
        else 0
      refine ⟨start, delay, rfl, rfl, rfl, rfl, Or.inl rfl, ?_⟩
      intro env hDelay
      have hCreated : created = now + env.delay 2 := by
        rw [hDelay]
        exact (Nat.add_sub_cancel' hStamp).symm
      have hLooked : now = now + env.delay 0 := by
        rw [hDelay]
        rfl
      have hAgain : now = now + env.delay 1 := by
        rw [hDelay]
        rfl
      have hFound : start.sessionStore = some found := hStore
      have hStep :
          SolvelaClient.sessionLookup env guarded.1 guarded.2
              start = _ :=
        SolvelaClient.sessionLookup_eq hFound hLooked hAgain
          hCreated
      rw [SessionStore.getOrCreate_self] at hStep
      have hWhole :
          client.sessionStep env req start =
            SolvelaClient.sessionLookup env guarded.1 guarded.2
              start := by
        unfold SolvelaClient.sessionStep
        rw [← hGuarded]
      refine ⟨_, hWhole.trans hStep, rfl, rfl, ?_⟩
      change checked = created + env.delay 3
      rw [hDelay]
      exact (Nat.add_sub_cancel' hLater).symm

/- The cache is looked up as it was. -/
theorem cacheCheck_solitary
    {env : Env}
    {looked : World X}
    {store : Option (ResponseCache X.LruCache)}
    {checked : Nat}
    {cache : Option UInt64 × Option ChatResponse}
    (hCaches : store.isSome = client.config.enableCache)
    (hStore : looked.cache = store)
    (hChecked : checked = looked.now + env.delay looked.reads)
    (hCheck : CheckUp client req store checked cache) :
    (SolvelaClient.cacheCheck env req looked).1 = cache := by
  cases hCheck with
  | off hOff =>
      have hNone : looked.cache = none := by
        rw [hStore]
        cases store with
        | none => rfl
        | some found =>
            rw [hOff] at hCaches
            cases hCaches
      unfold SolvelaClient.cacheCheck
      rw [hNone]
  | on hOn hFound =>
      have hThere := hStore.trans hFound
      rw [SolvelaClient.cacheCheck_eq hThere hChecked]

/- The talk of a call, from where it began. -/
theorem talk_solitary
    {ε α : Type}
    {t : Talk ε α}
    {own : List (Turn Question Reply)}
    {r : Except ε α}
    {world : World X}
    (hTalk : Yields t.run own r)
    (delay : Nat → Nat)
    (hFresh : world.trace = []) :
    Runs
      (perform
        (answers (scripted 0 (exchangesOf own) delay)) t)
      world r (world.extend (exchangesOf own)) := by
  have hRun :=
    runs_scripted hTalk 0 [] [] delay world
      (by rw [hFresh]; rfl)
  rw [List.nil_append, List.append_nil] at hRun
  exact hRun

/- What follows the cache check goes as it did. -/
theorem chat_solitary
    {start : World X}
    {delay : Nat → Nat}
    {session : ChatRequest × Option String}
    {cache : Option UInt64 × Option ChatResponse}
    {rest : List Accessed}
    {r : Except ClientError ChatResponse}
    (hFresh : start.trace = [])
    (hSteps : ∀ env : Env, env.delay = delay →
      (client.sessionStep env { req with stream := false }
          start).1 = session ∧
        (client.cacheStep env req start).1 = cache)
    (hRest : ChatRest client session cache rest r) :
    ∃ env final, Runs (client.chat env req) start r final ∧
      final.trace = sentIn rest := by
  have hFresh' : ∀ env : Env,
      (client.cacheStep env req start).2.trace = [] := by
    intro env
    rw [SolvelaClient.cacheStep_trace, hFresh]
  have hTalked :
      ∀ {own : List (Turn Question Reply)}
        {r : Except ClientError ChatResponse},
        cache.2 = none →
          Yields (converse client client.chatUrl session.1).run
            own r →
            ∃ env final,
              Runs (client.chat env req) start r final ∧
                final.trace = exchangesOf own := by
    intro own r hMiss hTalk
    let env := scripted 0 (exchangesOf own) delay
    let spoken :=
      (client.cacheStep env req start).2.extend
        (exchangesOf own)
    rcases hSteps env rfl with ⟨hSession, hCache⟩
    have hRun :
        Runs
          (client.converse env client.chatUrl
            (client.effectiveRequest env req start))
          (client.cacheStep env req start).2 r spoken := by
      unfold SolvelaClient.effectiveRequest
      rw [hSession, ← perform_converse]
      exact talk_solitary hTalk delay (hFresh' env)
    have hMiss' :
        (client.cacheStep env req start).1.2 = none := by
      rw [hCache]
      exact hMiss
    refine ⟨env, client.finish env req start r spoken,
      SolvelaClient.runs_chat.mpr
        (Or.inr ⟨hMiss', spoken, hRun, rfl⟩), ?_⟩
    rw [SolvelaClient.finish_trace]
    change (client.cacheStep env req start).2.trace ++ _ = _
    rw [hFresh' env, List.nil_append]
  cases hRest with
  | cached hHit =>
      let env := scripted 0 [] delay
      refine ⟨env, _, SolvelaClient.runs_chat.mpr
        (Or.inl ⟨_, ?_, rfl, rfl⟩), hFresh' env⟩
      rw [(hSteps env rfl).2]
      exact hHit
  | failed hMiss hTalk =>
      rw [sentIn_talk]
      exact hTalked hMiss hTalk
  | answered hMiss hTalk =>
      rw [sentIn_append, sentIn_append, sentIn_talk,
        sentIn_storeTurns, sentIn_recordTurns,
        List.append_nil, List.append_nil]
      exact hTalked hMiss hTalk

/- So does a round of the monitor. -/
theorem poll_solitary
    {monitor : BalanceMonitor}
    {ata : Pubkey}
    {es : List Accessed}
    {state state' : MonitorState}
    (hYields : Yields (poll X monitor ata state) es state')
    (later : List Exchange)
    (delay : Nat → Nat)
    (world : World X) :
    ∃ final,
      Runs
        (monitor.poll
          (scripted 0 (world.trace ++ (sentIn es ++ later))
            delay)
          ata state)
        world (.ok state') final ∧
        final.trace = world.trace ++ sentIn es := by
  unfold poll at hYields
  rcases yields_bind.mp hYields with
    ⟨first, second, result, rfl, hTalk, hRest⟩
  rcases yields_talk.mp hTalk with ⟨own, rfl, hOwn⟩
  have hSecond : sentIn second = [] := by
    cases result with
    | error err =>
        rw [(yields_pure.mp hRest).1]
        rfl
    | ok uiAmount =>
        rcases yields_map.mp hRest with ⟨_, hStore, _⟩
        rw [yields_access.mp hStore]
        rfl
  rw [sentIn_append, hSecond, List.append_nil, sentIn_talk]
  have hRun :=
    runs_scripted hOwn 0 world.trace later delay world
      (Nat.zero_add _).symm
  rw [perform_fetchBalance] at hRun
  unfold BalanceMonitor.poll
  cases result with
  | error err =>
      rw [(yields_pure.mp hRest).2]
      exact ⟨_, runs_attempt_bind.mpr
        ⟨_, _, hRun, runs_pure.mpr ⟨rfl, rfl⟩⟩, rfl⟩
  | ok uiAmount =>
      rcases yields_map.mp hRest with ⟨_, _, hState⟩
      rw [hState]
      exact ⟨_, runs_attempt_bind.mpr ⟨_, _, hRun,
        runs_modify_bind.mpr (runs_pure.mpr ⟨rfl, rfl⟩)⟩, rfl⟩

/- And all of them, one after the other. -/
theorem monitorRounds_solitary
    {monitor : BalanceMonitor}
    {ata : Pubkey}
    {rounds : Nat}
    {es : List Accessed}
    {state state' : MonitorState}
    (hYields :
      Yields (monitorRounds X monitor ata rounds state) es
        state')
    (delay : Nat → Nat)
    (world : World X) :
    ∃ final,
      Runs
        (monitor.rounds
          (scripted 0 (world.trace ++ sentIn es) delay) ata
          rounds state)
        world (.ok state') final ∧
        final.trace = world.trace ++ sentIn es := by
  induction rounds generalizing es state world with
  | zero =>
      rcases yields_pure.mp hYields with ⟨rfl, rfl⟩
      exact ⟨world, runs_pure.mpr ⟨rfl, rfl⟩,
        (List.append_nil _).symm⟩
  | succ rounds ih =>
      rcases yields_bind.mp hYields with
        ⟨first, second, next, rfl, hPoll, hRest⟩
      rcases poll_solitary hPoll (sentIn second) delay world
        with ⟨polled, hPolled, hTrace⟩
      rcases ih hRest polled with ⟨final, hFinal, hEnd⟩
      rw [hTrace, List.append_assoc] at hFinal hEnd
      rw [sentIn_append]
      exact ⟨final, runs_bind_ok.mpr
        ⟨next, polled, hPolled, hFinal⟩, hEnd⟩

end Concurrent

end Solvela

------------------------------------------------------------
-- Snapshots
------------------------------------------------------------

namespace Solvela

open Dialogues Transitions Effects

variable {X : Crates} {ι : Type}
variable [DecidableEq ι]
variable {client : SolvelaClient X}
variable {q p : CallPool X ι}
variable {ls : List (ι × Accessed)}
variable {i : ι}

/-
  A state put together from three moments of a run, all
  before call `i` sends anything: the balance of the first,
  the sessions of the second and the cache of the third.
-/
structure Snapshot
    (i : ι)
    (q p : CallPool X ι)
    (ls : List (ι × Accessed))
    (start : World X) : Prop where
  moments : ∃ first second third rest p₁ p₂ p₃,
    ls = first ++ (second ++ (third ++ rest)) ∧
      LabelledRun (PoolStep Accesses) q first p₁ ∧
        LabelledRun (PoolStep Accesses) p₁ second p₂ ∧
          LabelledRun (PoolStep Accesses) p₂ third p₃ ∧
            LabelledRun (PoolStep Accesses) p₃ rest p ∧
              sentIn (ownPart i (first ++ (second ++ third))) =
                  [] ∧
                start.balanceState = p₁.shared.balanceState ∧
                  start.sessionStore =
                      p₂.shared.sessionStore ∧
                    start.cache = p₃.shared.cache
  fresh : start.trace = []
  notBefore : q.shared.now ≤ start.now
  notAfter : start.now ≤ p.shared.now

theorem Moment.now_le
    {later : List Accessed}
    {before after : List (ι × Accessed)}
    {t u : CallPool X ι}
    (hMoment : Moment q p ls i later before after t u) :
    q.shared.now ≤ t.shared.now ∧
      t.shared.now ≤ u.shared.now ∧
        u.shared.now ≤ p.shared.now := by
  rcases hMoment with ⟨hReaches, ⟨_, _, hLeaves⟩, hRest, _⟩
  exact ⟨now_le_of_accesses (acts_of_run hReaches),
    now_le_of_accesses (acts_of_run hLeaves),
    now_le_of_accesses (acts_of_run hRest)⟩

theorem Moment.configured
    {later : List Accessed}
    {before after : List (ι × Accessed)}
    {t u : CallPool X ι}
    (hMoment : Moment q p ls i later before after t u)
    (hConfigured : q.shared.Configured client.config) :
    t.shared.Configured client.config ∧
      u.shared.Configured client.config := by
  rcases hMoment with ⟨hReaches, ⟨_, _, hLeaves⟩, _, _⟩
  have hThere := configured_of_accesses
    (acts_of_run hReaches) hConfigured
  exact ⟨hThere,
    configured_of_accesses (acts_of_run hLeaves) hThere⟩

/- Three moments in a row make a snapshot. -/
theorem snapshot_of_moments
    {later₁ later₂ later₃ quiet : List Accessed}
    {before₁ before₂ before₃ : List (ι × Accessed)}
    {after₁ after₂ after₃ : List (ι × Accessed)}
    {t₁ t₂ t₃ u₁ u₂ u₃ : CallPool X ι}
    (hFirst : Moment q p ls i later₁ before₁ after₁ t₁ u₁)
    (hSecond : Moment u₁ p after₁ i later₂ before₂ after₂ t₂ u₂)
    (hThird : Moment u₂ p after₂ i later₃ before₃ after₃ t₃ u₃)
    (hOwn : ownPart i ls = quiet ++ later₃)
    (hQuiet : sentIn quiet = [])
    {start : World X}
    (hFresh : start.trace = [])
    (hBalance :
      start.balanceState = t₁.shared.balanceState)
    (hSessions :
      start.sessionStore = t₂.shared.sessionStore)
    (hCache : start.cache = t₃.shared.cache)
    (hAfter : q.shared.now ≤ start.now)
    (hBefore : start.now ≤ p.shared.now) :
    Snapshot i q p ls start := by
  rcases hFirst.leaves with ⟨between₁, hSplit₁, hLeaves₁⟩
  rcases hSecond.leaves with ⟨between₂, hSplit₂, hLeaves₂⟩
  rcases hThird.leaves with ⟨between₃, hSplit₃, hLeaves₃⟩
  have hCut :
      ls =
        before₁ ++ ((between₁ ++ before₂) ++
          ((between₂ ++ before₃) ++ (between₃ ++ after₃))) := by
    rw [hSplit₁, hSplit₂, hSplit₃]
    simp only [List.append_assoc]
  refine ⟨⟨before₁, between₁ ++ before₂, between₂ ++ before₃,
    between₃ ++ after₃, t₁, t₂, t₃, hCut, hFirst.reaches,
    labelledRun_append.mpr ⟨u₁, hLeaves₁, hSecond.reaches⟩,
    labelledRun_append.mpr ⟨u₂, hLeaves₂, hThird.reaches⟩,
    labelledRun_append.mpr ⟨u₃, hLeaves₃, hThird.rest⟩, ?_,
    hBalance, hSessions, hCache⟩, hFresh, hAfter, hBefore⟩
  -- What came before the third moment is a part of `quiet`.
  have hOwn' := hOwn
  rw [hCut, ← List.append_assoc, ← List.append_assoc,
    List.append_assoc before₁, ← List.append_assoc _ between₃,
    ownPart_append, hThird.own] at hOwn'
  have hPart := List.append_cancel_right hOwn'
  rw [ownPart_append] at hPart
  rw [← hPart, sentIn_append] at hQuiet
  exact (List.append_eq_nil_iff.mp hQuiet).1

end Solvela

------------------------------------------------------------
-- An Interleaved Call Is A Solitary One
------------------------------------------------------------

namespace Solvela

open Dialogues Transitions Effects

variable {X : Crates} {ι : Type}
variable [DecidableEq ι]
variable {client : SolvelaClient X}
variable {q p : CallPool X ι}
variable {ls : List (ι × Accessed)}
variable {i : ι}
variable {req : ChatRequest}

/- The moments that matter before a call sends. -/
structure PreludeMoments
    (client : SolvelaClient X)
    (q p : CallPool X ι)
    (ls : List (ι × Accessed))
    (i : ι)
    (req : ChatRequest)
    (session : ChatRequest × Option String)
    (look later : List Accessed)
    (after : List (ι × Accessed))
    (t₁ t₂ u₂ : CallPool X ι)
    (now created : Nat) : Prop where
  guard : ∃ before after₁ u₁,
    Moment q p ls i (look ++ later) before after₁ t₁ u₁ ∧
      ∃ before₂,
        Moment u₁ p after₁ i later before₂ after t₂ u₂
  look :
    let guarded := SolvelaClient.balanceGuard client.config
      t₁.shared.balanceState req
    LookUp client guarded.1 guarded.2 t₂.shared.sessionStore
      now created session
  there : t₂.shared.Configured client.config
  still : u₂.shared.Configured client.config
  notBefore : q.shared.now ≤ now
  stamp : now ≤ created
  notAfter : created ≤ u₂.shared.now

theorem exists_preludeMoments
    (hRun : LabelledRun (PoolStep Accesses) q ls p)
    (hConfigured : q.shared.Configured client.config)
    {guarded : ChatRequest × Bool}
    {session : ChatRequest × Option String}
    {guard look later : List Accessed}
    (hOwn : ownPart i ls = guard ++ (look ++ later))
    (hPrelude :
      Concurrent.Prelude client req guarded session guard
        look) :
    ∃ after t₁ t₂ u₂ now created,
      PreludeMoments client q p ls i req session look later
        after t₁ t₂ u₂ now created := by
  rcases guard_moment hRun hOwn hPrelude.guards with
    ⟨before₁, after₁, t₁, u₁, hFirst, hGuarded⟩
  have hConfigured₁ := (hFirst.configured hConfigured).2
  rcases look_moment hFirst.rest hConfigured₁ hFirst.own
      hPrelude.looks with
    ⟨before₂, after₂, t₂, u₂, now, created, hSecond, hAfter,
      hStamp, hBefore, hLook⟩
  rcases hSecond.configured hConfigured₁ with
    ⟨hThere, hStill⟩
  rw [hGuarded] at hLook
  exact ⟨after₂, t₁, t₂, u₂, now, created,
    { guard := ⟨before₁, after₁, u₁, hFirst, before₂, hSecond⟩
      look := hLook
      there := hThere
      still := hStill
      notBefore :=
        (hFirst.now_le.1.trans hFirst.now_le.2.1).trans
          (hSecond.now_le.1.trans hAfter)
      stamp := hStamp
      notAfter := hBefore }⟩

/- A chat call that is done, from what it met. -/
theorem chat_snapshot
    (hRun : LabelledRun (PoolStep Accesses) q ls p)
    (hConfigured : q.shared.Configured client.config)
    {r : Except ClientError ChatResponse}
    (hChat :
      Yields (Concurrent.chat client req) (ownPart i ls) r) :
    ∃ env start final,
      Runs (client.chat env req) start r final ∧
        final.trace = sentIn (ownPart i ls) ∧
          Snapshot i q p ls start := by
  rcases Concurrent.yields_chat.mp hChat with
    ⟨guard, look, check, rest, guarded, session, cache, hOwn,
      hPrelude, hCheck, hRest⟩
  rcases exists_preludeMoments hRun hConfigured hOwn hPrelude
    with ⟨after, t₁, t₂, u₂, now, created, hMoments⟩
  rcases hMoments.guard with
    ⟨before₁, after₁, u₁, hFirst, before₂, hSecond⟩
  rcases check_moment hSecond.rest hMoments.still hSecond.own
      hCheck with
    ⟨before₃, after₃, t₃, u₃, checked, hThird, hAfter₃,
      hBefore₃, hCheckUp⟩
  have hThere := (hThird.configured hMoments.still).1
  have hStamp := hMoments.stamp
  have hNotBefore := hMoments.notBefore
  have hNotAfter := hMoments.notAfter
  rcases hThird.now_le with ⟨hNow, _, hEnd⟩
  rcases Concurrent.prelude_solitary hMoments.there.sessions
      rfl hMoments.look hStamp
      (by omega : created ≤ checked) with
    ⟨start, delay, hFresh, hBalance, hSessions, hCache,
      hStart, hSteps⟩
  have hAlone : ∀ env : Env, env.delay = delay →
      (client.sessionStep env { req with stream := false }
          start).1 = session ∧
        (client.cacheStep env req start).1 = cache := by
    intro env hDelay
    rcases hSteps env hDelay with
      ⟨looked, hStep, _, hSame, hReading⟩
    refine ⟨congrArg Prod.fst hStep, ?_⟩
    unfold SolvelaClient.cacheStep
    rw [hStep]
    exact Concurrent.cacheCheck_solitary hThere.cache hSame
      hReading hCheckUp
  rcases Concurrent.chat_solitary hFresh hAlone hRest with
    ⟨env, final, hFinal, hTrace⟩
  have hQuiet :
      sentIn (guard ++ (look ++ check)) = [] := by
    rw [sentIn_append, sentIn_append,
      hPrelude.sentIn_eq_nil.1, hPrelude.sentIn_eq_nil.2,
      Concurrent.sentIn_cacheCheck hCheck]
    rfl
  have hCut :
      ownPart i ls = (guard ++ (look ++ check)) ++ rest := by
    rw [hOwn, List.append_assoc, List.append_assoc]
  refine ⟨env, start, final, hFinal, ?_,
    snapshot_of_moments hFirst hSecond hThird hCut hQuiet
      hFresh hBalance hSessions hCache ?_ ?_⟩
  · rw [hTrace, hCut, sentIn_append, hQuiet, List.nil_append]
  · rcases hStart with hStart | hStart
    · omega
    · omega
  · rcases hStart with hStart | hStart
    · omega
    · omega

/- A streaming call that is done, from what it met. -/
theorem chatStream_snapshot
    (hRun : LabelledRun (PoolStep Accesses) q ls p)
    (hConfigured : q.shared.Configured client.config)
    {r : Except ClientError
      (List (Except ClientError X.ChatChunk))}
    (hStream :
      Yields (Concurrent.chatStream client req) (ownPart i ls)
        r) :
    ∃ env start final,
      Runs (client.chatStream env req) start r final ∧
        final.trace = sentIn (ownPart i ls) ∧
          Snapshot i q p ls start := by
  rcases Concurrent.yields_chatStream.mp hStream with
    ⟨guard, look, own, guarded, session, hOwn, hPrelude,
      hTalk⟩
  rcases exists_preludeMoments hRun hConfigured hOwn hPrelude
    with ⟨after, t₁, t₂, u₂, now, created, hMoments⟩
  rcases hMoments.guard with
    ⟨before₁, after₁, u₁, hFirst, before₂, hSecond⟩
  have hThird := moment_start (i := i) hSecond.rest
  have hStamp := hMoments.stamp
  have hNotBefore := hMoments.notBefore
  have hNotAfter := hMoments.notAfter
  have hEnd := hSecond.now_le.2.2
  rcases Concurrent.prelude_solitary (X := X)
      hMoments.there.sessions rfl hMoments.look hStamp
      (Nat.le_refl created) with
    ⟨start, delay, hFresh, hBalance, hSessions, hCache,
      hStart, hSteps⟩
  let env := scripted 0 (exchangesOf own) delay
  rcases hSteps env rfl with ⟨looked, hStep, hEmpty, _, _⟩
  let recorded :=
    SolvelaClient.sessionUpdate session.2 session.1 looked
  have hRecorded : recorded.trace = [] := by
    unfold recorded
    rw [SolvelaClient.sessionUpdate_trace, hEmpty]
  have hFinal :
      Runs (client.chatStream env req) start r
        (recorded.extend (exchangesOf own)) := by
    apply SolvelaClient.runs_chatStream.mpr
    rw [hStep, ← Concurrent.perform_openStream]
    exact Concurrent.talk_solitary hTalk delay hRecorded
  have hQuiet : sentIn (guard ++ look) = [] := by
    rw [sentIn_append, hPrelude.sentIn_eq_nil.1,
      hPrelude.sentIn_eq_nil.2]
    rfl
  have hCut :
      ownPart i ls =
        (guard ++ look) ++ ownPart i after := by
    rw [hOwn, hSecond.own, List.append_assoc]
  refine ⟨env, start, _, hFinal, ?_,
    snapshot_of_moments hFirst hSecond hThird hCut hQuiet
      hFresh hBalance hSessions hCache ?_ ?_⟩
  · change recorded.trace ++ exchangesOf own = _
    rw [hRecorded, hCut, sentIn_append, hQuiet, hSecond.own,
      sentIn_append, Concurrent.sentIn_recordTurns,
      sentIn_talk]
    rfl
  · rcases hStart with hStart | hStart
    · omega
    · omega
  · rcases hStart with hStart | hStart
    · omega
    · omega

/- A call that meets no shared state, from any moment. -/
theorem snapshot_of_start
    (hRun : LabelledRun (PoolStep Accesses) q ls p) :
    Snapshot i q p ls { q.shared with trace := [], reads := 0 }
    where
  moments := ⟨[], [], [], ls, q, q, q, rfl, rfl, rfl, rfl, hRun,
    rfl, rfl, rfl, rfl⟩
  fresh := rfl
  notBefore := Nat.le_refl _
  notAfter := by
    have hLe := now_le_of_accesses (acts_of_run hRun)
    exact hLe

/-
  However the calls of a client are interleaved, each one
  that is done did what it does alone: with peers that reply
  as they did, from the balance, the sessions and the cache
  that it met, it has the same exchanges and returns the
  same.
-/
theorem interleaved_call_is_solitary
    (client : SolvelaClient X)
    (world : World X)
    (hConfigured : world.Configured client.config)
    (calls : ι → Call)
    (ls : List (ι × Accessed))
    (p : CallPool X ι)
    (hRun :
      LabelledRun (PoolStep Accesses)
        (startPool client world calls) ls p)
    (i : ι)
    (result : CallResult X)
    (hDone : p.tasks i = .done result) :
    ∃ env start final,
      SolitaryRun client env (calls i) start result final ∧
        final.trace = ownPart i (tagged ls) ∧
          Snapshot i (startPool client world calls) p ls
            start := by
  have hYields :
      Yields ((calls i).dialogue client) (ownPart i ls)
        result := by
    have hPlays := plays_of_run hRun i
    rw [hDone] at hPlays
    exact hPlays
  rw [tagged_own]
  generalize calls i = call at hYields
  cases call with
  | chat req =>
      rcases yields_map.mp hYields with ⟨r, hChat, rfl⟩
      rcases chat_snapshot hRun hConfigured hChat with
        ⟨env, start, final, hFinal, hTrace, hSnapshot⟩
      exact ⟨env, start, final, .chat hFinal, hTrace,
        hSnapshot⟩
  | chatStream req =>
      rcases yields_map.mp hYields with ⟨r, hStream, rfl⟩
      rcases chatStream_snapshot hRun hConfigured hStream with
        ⟨env, start, final, hFinal, hTrace, hSnapshot⟩
      exact ⟨env, start, final, .chatStream hFinal, hTrace,
        hSnapshot⟩
  | proxied gatewayUrl request =>
      rcases yields_map.mp hYields with ⟨r, hTalk, rfl⟩
      rcases Concurrent.yields_talk.mp hTalk with
        ⟨turns, hOwn, hTurns⟩
      have hSnapshot := snapshot_of_start (i := i) hRun
      have hAlone :=
        Concurrent.talk_solitary hTurns (fun _ => 0)
          hSnapshot.fresh
      rw [Concurrent.perform_proxyHandler] at hAlone
      refine ⟨_, _, _, .proxied hAlone, ?_, hSnapshot⟩
      rw [hOwn, sentIn_talk]
      rfl
  | monitored monitor ata rounds =>
      rcases yields_map.mp hYields with ⟨state, hRounds, rfl⟩
      have hSnapshot := snapshot_of_start (i := i) hRun
      rcases Concurrent.monitorRounds_solitary hRounds
          (fun _ => 0)
          { world with trace := [], reads := 0 } with
        ⟨final, hFinal, hTrace⟩
      exact ⟨_, _, final, .monitored hFinal, hTrace,
        hSnapshot⟩

/- The call that pays among two is a solitary one. -/
theorem sample_call_is_solitary :
    ∃ ls p r env start final,
      LabelledRun (PoolStep Accesses)
          (startPool (sampleClient .default)
            (World.new .default 0)
            (fun _ : Bool => .chat sampleRequest)) ls p ∧
        Runs
            ((sampleClient .default).chat env sampleRequest)
            start r final ∧
          p.tasks true = .done (.chat r) ∧
            final.trace = ownPart true (tagged ls) := by
  rcases exists_sample_payment with
    ⟨ls, p, r, _, _, _, hRun, hDone, _, _⟩
  rcases interleaved_call_is_solitary (sampleClient .default)
      (World.new .default 0) (World.configured_new .default 0)
      (fun _ : Bool => .chat sampleRequest) ls p hRun true
      (.chat r) hDone with
    ⟨env, start, final, hSolitary, hTrace, _⟩
  cases hSolitary with
  | chat hFinal =>
      exact ⟨ls, p, r, env, start, final, hRun, hFinal, hDone,
        hTrace⟩

end Solvela
