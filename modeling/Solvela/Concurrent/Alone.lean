import Solvela.Concurrent.Calls

/-
  A call alone.

  A run of the solitary model, with its environment, is also
  a run of accesses, construct by construct.  So whatever
  calls do one after the other, they do in an interleaving,
  whose clock may be behind.

  Main declarations:
    * `World.Configured`, `Lags`
    * `sessionLookup_eq`, `cacheCheck_eq`
    * `chat_alone`, `chatStream_alone`
    * `SolitaryRun`, `SerialRun`
    * `serial_run_is_interleaving`
-/

------------------------------------------------------------
-- Steps Of The Solitary Call
------------------------------------------------------------

namespace Solvela

open Dialogues Transitions

variable {X : Crates}

/- The stores are there exactly if they are asked for. -/
structure World.Configured
    (world : World X)
    (config : ClientConfig) : Prop where
  cache : world.cache.isSome = config.enableCache
  sessions : world.sessionStore.isSome = config.enableSessions

theorem World.configured_new
    (config : ClientConfig)
    (now : Nat) :
    (World.new (X := X) config now).Configured config := by
  unfold World.new
  constructor
  · cases config.enableCache with
    | true => rfl
    | false => rfl
  · cases config.enableSessions with
    | true => rfl
    | false => rfl

/- No access makes a store or drops one. -/
theorem Accesses.configured
    {config : ClientConfig}
    {world world' : World X}
    {e : Accessed}
    (hStep : Accesses world e world')
    (hConfigured : world.Configured config) :
    world'.Configured config := by
  rcases hConfigured with ⟨hCache, hSessions⟩
  cases hStep with
  | loadBalance => exact ⟨hCache, hSessions⟩
  | storeBalance => exact ⟨hCache, hSessions⟩
  | findSession _ => exact ⟨hCache, hSessions⟩
  | openSession _ _ =>
      unfold World.openSession
      cases hStore : world.sessionStore with
      | none => exact ⟨hCache, hSessions⟩
      | some store =>
          rw [hStore] at hSessions
          exact ⟨hCache, hSessions⟩
  | recordRequest =>
      refine ⟨hCache, ?_⟩
      unfold World.recordRequest
      rw [Option.isSome_map]
      exact hSessions
  | cacheGet _ =>
      unfold World.cacheGet
      cases hStore : world.cache with
      | none => exact ⟨hCache, hSessions⟩
      | some cache =>
          rw [hStore] at hCache
          exact ⟨hCache, hSessions⟩
  | cachePut _ _ =>
      unfold World.cachePut
      cases hStore : world.cache with
      | none => exact ⟨hCache, hSessions⟩
      | some cache =>
          rw [hStore] at hCache
          exact ⟨hCache, hSessions⟩
  | send => exact ⟨hCache, hSessions⟩

theorem configured_of_accesses
    {config : ClientConfig}
    {world world' : World X}
    {es : List Accessed}
    (hRun : LabelledRun Accesses world es world')
    (hConfigured : world.Configured config) :
    world'.Configured config :=
  hRun.invariant (fun _ w => w.Configured config) hConfigured
    (fun _ _ _ _ _ hPast hStep => hStep.configured hPast)

namespace SolvelaClient

open Concurrent

/- A look-up of a session, with its three clock readings. -/
theorem sessionLookup_eq
    {env : Env}
    {req : ChatRequest}
    {usedFallback : Bool}
    {world : World X}
    {store : SessionStore}
    {looked now created : Nat}
    (hStore : world.sessionStore = some store)
    (hLooked : looked = world.now + env.delay world.reads)
    (hNow : now = looked + env.delay (world.reads + 1))
    (hCreated :
      created = now + env.delay (world.reads + 2)) :
    sessionLookup env req usedFallback world =
      ((withSession req usedFallback
          (store.getOrCreate looked now created
            (sessionIdOf X req.messages) req.model).1,
        some (sessionIdOf X req.messages)),
        { world with
          now := created
          reads := world.reads + 3
          sessionStore :=
            some (store.getOrCreate looked now created
              (sessionIdOf X req.messages) req.model).2 }) := by
  subst hLooked hNow hCreated
  unfold sessionLookup
  rw [hStore]
  cases usedFallback with
  | true => rfl
  | false => rfl

/- A look-up in the cache, with its clock reading. -/
theorem cacheCheck_eq
    {env : Env}
    {req : ChatRequest}
    {world : World X}
    {cache : ResponseCache X.LruCache}
    {now : Nat}
    (hCache : world.cache = some cache)
    (hNow : now = world.now + env.delay world.reads) :
    cacheCheck env req world =
      ((some (keyOf X req),
          (cache.get X.lru now (keyOf X req)).1),
        { world with
          now := now
          reads := world.reads + 1
          cache :=
            some (cache.get X.lru now (keyOf X req)).2 }) := by
  subst hNow
  unfold cacheCheck
  rw [hCache]
  rfl

end SolvelaClient

end Solvela

------------------------------------------------------------
-- A Solitary Run Is An Interleaving
------------------------------------------------------------

namespace Solvela

open Dialogues Transitions Effects

variable {X : Crates}
variable {client : SolvelaClient X}
variable {env : Env}
variable {req : ChatRequest}
variable {world late : World X}

namespace World

variable {now created : Nat}

theorem openSession_of_store
    {store : SessionStore}
    (hStore : world.sessionStore = some store)
    (now created : Nat)
    (id defaultModel : String) :
    world.openSession now created id defaultModel =
      ((store.recheckOrInsert now created id
          defaultModel).1,
        { world with
          now := created
          sessionStore := some (store.recheckOrInsert now
            created id defaultModel).2 }) := by
  unfold openSession
  rw [hStore]

theorem cacheGet_of_cache
    {cache : ResponseCache X.LruCache}
    (hCache : world.cache = some cache)
    (now : Nat)
    (key : UInt64) :
    world.cacheGet now key =
      ((cache.get X.lru now key).1,
        { world with
          now := now
          cache := some (cache.get X.lru now key).2 }) := by
  unfold cacheGet
  rw [hCache]

theorem cachePut_of_cache
    {cache : ResponseCache X.LruCache}
    (hCache : world.cache = some cache)
    (now inserted : Nat)
    (key : UInt64)
    (response : ChatResponse) :
    world.cachePut now inserted key response =
      { world with
        now :=
          if cache.suppresses X.lru now key then
            now
          else
            inserted
        cache := some (cache.put X.lru now inserted key
          response) } := by
  unfold cachePut
  rw [hCache]

end World

/- Peers may reply as they did in any talk. -/
theorem accesses_talk
    (own : List (Turn Question Reply))
    (world : World X) :
    LabelledRun Accesses world (own.map sends.turn)
      (world.extend (exchangesOf own)) := by
  induction own generalizing world with
  | nil => exact (World.extend_nil world)
  | cons e own ih =>
      refine ⟨_, .send, ?_⟩
      have hRest := ih (world.extend [exchangeOf e])
      rw [World.extend_extend] at hRest
      exact hRest

/- An environment adds the exchanges of a talk. -/
theorem extend_of_handled
    {own : List (Turn Question Reply)}
    (hHandled :
      LabelledRun (Handles (answers env)) world own late) :
    late = world.extend (exchangesOf own) := by
  induction own generalizing world with
  | nil =>
      rw [labelledRun_nil.mp hHandled]
      exact (World.extend_nil world).symm
  | cons e own ih =>
      rcases labelledRun_cons.mp hHandled with
        ⟨next, hFirst, hRest⟩
      have hNext : next = world.extend [exchangeOf e] := by
        unfold Handles answers at hFirst
        injection hFirst with hReply hWorld
        rw [← hWorld]
        unfold exchangeOf
        rw [← hReply]
      rw [ih hRest, hNext, World.extend_extend]
      rfl

/- The same state, with a clock that is not behind. -/
structure Lags
    (world late : World X) : Prop where
  now : world.now ≤ late.now
  trace : late.trace = world.trace
  balanceState : late.balanceState = world.balanceState
  cache : late.cache = world.cache
  sessionStore : late.sessionStore = world.sessionStore

theorem Lags.refl
    (world : World X) :
    Lags world world :=
  ⟨Nat.le_refl _, rfl, rfl, rfl, rfl⟩

theorem Lags.extend
    (hLags : Lags world late)
    (es : List Exchange) :
    Lags (world.extend es) (late.extend es) where
  now := hLags.now
  trace := congrArg (· ++ es) hLags.trace
  balanceState := hLags.balanceState
  cache := hLags.cache
  sessionStore := hLags.sessionStore

namespace Concurrent

/- The guard of a solitary call. -/
theorem balanceGuard_alone
    (client : SolvelaClient X)
    (req : ChatRequest)
    (hLags : Lags world late) :
    ∃ es,
      Yields (balanceGuard client.config req) es
          (SolvelaClient.balanceGuard client.config
            late.balanceState req) ∧
        LabelledRun Accesses world es world := by
  cases hFallback : client.config.freeFallbackModel with
  | none =>
      refine ⟨[], yields_balanceGuard.mpr
        (Or.inl ⟨hFallback, rfl, ?_⟩), rfl⟩
      unfold SolvelaClient.balanceGuard
      rw [hFallback]
  | some model =>
      rw [hLags.balanceState]
      exact ⟨_, yields_balanceGuard.mpr
        (Or.inr ⟨model, _, hFallback, rfl, rfl⟩),
        world, .loadBalance, rfl⟩

/- Its look-up of a session. -/
theorem sessionLookup_alone
    (env : Env)
    (req : ChatRequest)
    (usedFallback : Bool)
    (hLags : Lags world late)
    (hConfigured : world.Configured client.config) :
    ∃ es world',
      Yields (sessionLookup client req usedFallback) es
          (SolvelaClient.sessionLookup env req usedFallback
            late).1 ∧
        LabelledRun Accesses world es world' ∧
          Lags world'
            (SolvelaClient.sessionLookup env req usedFallback
              late).2 := by
  have hSessions := hConfigured.sessions
  cases hStore : world.sessionStore with
  | none =>
      have hOff : client.config.enableSessions = false := by
        rw [← hSessions, hStore]
        rfl
      have hLate : late.sessionStore = none :=
        hLags.sessionStore.trans hStore
      have hLookup :
          SolvelaClient.sessionLookup env req usedFallback
              late =
            ((req, none), late) := by
        unfold SolvelaClient.sessionLookup
        rw [hLate]
      rw [hLookup]
      exact ⟨[], world, yields_sessionLookup.mpr
        (Or.inl ⟨hOff, rfl, rfl⟩), rfl, hLags⟩
  | some store =>
      have hOn : client.config.enableSessions = true := by
        rw [← hSessions, hStore]
        rfl
      have hLate : late.sessionStore = some store :=
        hLags.sessionStore.trans hStore
      let id := SolvelaClient.sessionIdOf X req.messages
      let looked := late.now + env.delay late.reads
      let now := looked + env.delay (late.reads + 1)
      let created := now + env.delay (late.reads + 2)
      have hLooked : world.now ≤ looked :=
        hLags.now.trans (Nat.le_add_right _ _)
      have hNow : looked ≤ now := Nat.le_add_right _ _
      have hCreated : now ≤ created := Nat.le_add_right _ _
      have hFind :
          world.findSession looked id =
            store.lookup looked id := by
        unfold World.findSession
        rw [hStore]
        rfl
      have hFirst :
          Accesses world
            ⟨.findSession id req.model,
              world.findSession looked id⟩
            { world with now := looked } :=
        .findSession hLooked
      rw [hFind] at hFirst
      rw [SolvelaClient.sessionLookup_eq hLate
        (rfl : looked = _) (rfl : now = _)
        (rfl : created = _)]
      unfold SessionStore.getOrCreate
      cases hFound : store.lookup looked id with
      | some info =>
          rw [hFound] at hFirst
          refine ⟨_, _, yields_sessionLookup.mpr (Or.inr ⟨hOn,
            info, .found, rfl⟩), ⟨_, hFirst, rfl⟩, ?_⟩
          exact
            { now := hNow.trans hCreated
              trace := hLags.trace
              balanceState := hLags.balanceState
              cache := hLags.cache
              sessionStore := hStore.symm }
      | none =>
          rw [hFound] at hFirst
          let found := { world with now := looked }
          have hSecond :
              Accesses found
                ⟨.openSession id req.model,
                  (found.openSession now created id
                    req.model).1⟩
                (found.openSession now created id
                  req.model).2 :=
            .openSession hNow hCreated
          have hThere : found.sessionStore = some store :=
            hStore
          rw [World.openSession_of_store hThere] at hSecond
          refine ⟨_, _, yields_sessionLookup.mpr (Or.inr ⟨hOn,
            _, .opened, rfl⟩),
            ⟨_, hFirst, _, hSecond, rfl⟩, ?_⟩
          exact
            { now := Nat.le_refl _
              trace := hLags.trace
              balanceState := hLags.balanceState
              cache := hLags.cache
              sessionStore := rfl }

/- Its look-up in the cache. -/
theorem cacheCheck_alone
    (env : Env)
    (req : ChatRequest)
    (hLags : Lags world late)
    (hConfigured : world.Configured client.config) :
    ∃ es world',
      Yields (cacheCheck client req) es
          (SolvelaClient.cacheCheck env req late).1 ∧
        LabelledRun Accesses world es world' ∧
          Lags world'
            (SolvelaClient.cacheCheck env req late).2 := by
  have hCaches := hConfigured.cache
  cases hCache : world.cache with
  | none =>
      have hOff : client.config.enableCache = false := by
        rw [← hCaches, hCache]
        rfl
      have hLate : late.cache = none :=
        hLags.cache.trans hCache
      have hCheck :
          SolvelaClient.cacheCheck env req late =
            ((none, none), late) := by
        unfold SolvelaClient.cacheCheck
        rw [hLate]
      rw [hCheck]
      exact ⟨[], world, yields_cacheCheck.mpr
        (Or.inl ⟨hOff, rfl, rfl⟩), rfl, hLags⟩
  | some cache =>
      have hOn : client.config.enableCache = true := by
        rw [← hCaches, hCache]
        rfl
      have hLate : late.cache = some cache :=
        hLags.cache.trans hCache
      let now := late.now + env.delay late.reads
      have hNow : world.now ≤ now :=
        hLags.now.trans (Nat.le_add_right _ _)
      have hGet :=
        World.cacheGet_of_cache hCache now (keyOf X req)
      have hStep :
          Accesses world
            ⟨.cacheGet (keyOf X req),
              (world.cacheGet now (keyOf X req)).1⟩
            (world.cacheGet now (keyOf X req)).2 :=
        .cacheGet hNow
      rw [hGet] at hStep
      rw [SolvelaClient.cacheCheck_eq hLate (rfl : now = _)]
      refine ⟨_, _, yields_cacheCheck.mpr
        (Or.inr ⟨hOn, _, rfl, rfl⟩), ⟨_, hStep, rfl⟩, ?_⟩
      exact
        { now := Nat.le_refl _
          trace := hLags.trace
          balanceState := hLags.balanceState
          cache := rfl
          sessionStore := hLags.sessionStore }

/- Its talk with the peers. -/
theorem talk_alone
    {ε α : Type}
    {t : Talk ε α}
    {late' : World X}
    {r : Except ε α}
    (hLags : Lags world late)
    (hRun : Runs (perform (answers env) t) late r late') :
    ∃ own world',
      Yields t.run own r ∧
        LabelledRun Accesses world (own.map sends.turn)
            world' ∧
          Lags world' late' := by
  rcases runs_perform.mp hRun with ⟨own, hYields, hHandled⟩
  refine ⟨own, world.extend (exchangesOf own), hYields,
    accesses_talk own world, ?_⟩
  rw [extend_of_handled hHandled]
  exact hLags.extend _

/- Its updates at the end. -/
theorem cacheStore_alone
    (env : Env)
    {key : Option UInt64}
    (response : ChatResponse)
    (hLags : Lags world late)
    (hKey : key.isSome = world.cache.isSome) :
    ∃ world',
      LabelledRun Accesses world (storeTurns key response)
          world' ∧
        Lags world'
          (SolvelaClient.cacheStore env key response
            late) := by
  cases hCache : world.cache with
  | none =>
      rw [hCache] at hKey
      cases key with
      | some k => cases hKey
      | none =>
          refine ⟨world, rfl, ?_⟩
          exact hLags
  | some cache =>
      rw [hCache] at hKey
      cases key with
      | none => cases hKey
      | some k =>
          have hLate : late.cache = some cache :=
            hLags.cache.trans hCache
          let now := late.now + env.delay late.reads
          let inserted := now + env.delay (late.reads + 1)
          have hNow : world.now ≤ now :=
            hLags.now.trans (Nat.le_add_right _ _)
          have hInserted : now ≤ inserted :=
            Nat.le_add_right _ _
          have hStep :
              Accesses world ⟨.cachePut k response, ()⟩
                (world.cachePut now inserted k response) :=
            .cachePut hNow hInserted
          rw [World.cachePut_of_cache hCache] at hStep
          refine ⟨_, ⟨_, hStep, rfl⟩, ?_⟩
          have hStored :
              SolvelaClient.cacheStore env (some k) response
                  late =
                { late with
                  now := inserted
                  reads := late.reads + 2
                  cache := some (cache.put X.lru now inserted
                    k response) } := by
            unfold SolvelaClient.cacheStore
            rw [hLate]
            rfl
          rw [hStored]
          exact
            { now := by
                split
                · exact hInserted
                · exact Nat.le_refl _
              trace := hLags.trace
              balanceState := hLags.balanceState
              cache := rfl
              sessionStore := hLags.sessionStore }

theorem sessionUpdate_alone
    {id : Option String}
    (req : ChatRequest)
    (hLags : Lags world late)
    (hId : id.isSome = world.sessionStore.isSome) :
    ∃ world',
      LabelledRun Accesses world (recordTurns X id req)
          world' ∧
        Lags world'
          (SolvelaClient.sessionUpdate id req late) := by
  cases hStore : world.sessionStore with
  | none =>
      rw [hStore] at hId
      cases id with
      | some sid => cases hId
      | none => exact ⟨world, rfl, hLags⟩
  | some store =>
      rw [hStore] at hId
      cases id with
      | none => cases hId
      | some sid =>
          have hLate : late.sessionStore = some store :=
            hLags.sessionStore.trans hStore
          refine ⟨_, ⟨_, .recordRequest, rfl⟩, ?_⟩
          have hRecorded :
              SolvelaClient.sessionUpdate (some sid) req late =
                { late with
                  sessionStore := some (store.recordRequest
                    sid (SolvelaClient.hashRequestContent X
                      req)) } := by
            unfold SolvelaClient.sessionUpdate
            rw [hLate]
          rw [hRecorded]
          exact
            { now := hLags.now
              trace := hLags.trace
              balanceState := hLags.balanceState
              cache := hLags.cache
              sessionStore := by
                unfold World.recordRequest
                rw [hStore]
                rfl }

/- The steps of a solitary call before it sends. -/
theorem prelude_alone
    (env : Env)
    (req : ChatRequest)
    (hLags : Lags world late)
    (hConfigured : world.Configured client.config) :
    ∃ guard look looked guarded,
      Prelude client req guarded
          (client.sessionStep env req late).1 guard look ∧
        LabelledRun Accesses world (guard ++ look) looked ∧
          Lags looked (client.sessionStep env req late).2 ∧
            (client.sessionStep env req late).1.2.isSome =
              client.config.enableSessions := by
  rcases balanceGuard_alone client req hLags with
    ⟨guard, hGuard, hGuards⟩
  let guarded := SolvelaClient.balanceGuard client.config
    late.balanceState req
  rcases sessionLookup_alone env guarded.1 guarded.2 hLags
      hConfigured with
    ⟨look, looked, hLook, hLooks, hLagsLooked⟩
  refine ⟨guard, look, looked, guarded, ⟨hGuard, hLook⟩,
    labelledRun_append.mpr ⟨world, hGuards, hLooks⟩,
    hLagsLooked, ?_⟩
  rcases yields_sessionLookup.mp hLook with
    ⟨hOff, _, hSession⟩ | ⟨hOn, _, _, hSession⟩
  · rw [hOff]
    exact congrArg (·.2.isSome) hSession
  · rw [hOn]
    exact congrArg (·.2.isSome) hSession

/- A solitary chat call is a run of its accesses. -/
theorem chat_alone
    {late' : World X}
    {r : Except ClientError ChatResponse}
    (hLags : Lags world late)
    (hConfigured : world.Configured client.config)
    (hRun : Runs (client.chat env req) late r late') :
    ∃ es last, Yields (chat client req) es r ∧
      LabelledRun Accesses world es last ∧
        Lags last late' := by
  let req₀ := { req with stream := false }
  rcases prelude_alone env req₀ hLags hConfigured with
    ⟨guard, look, looked, guarded, hPrelude, hLooks,
      hLagsLooked, hSessionId⟩
  let session := client.sessionStep env req₀ late
  rcases cacheCheck_alone env session.1.1 hLagsLooked
      (configured_of_accesses hLooks hConfigured) with
    ⟨check, checked, hCheck, hChecks, hLagsChecked⟩
  have hKey :
      (client.cacheStep env req late).1.1.isSome =
        client.config.enableCache := by
    rcases yields_cacheCheck.mp hCheck with
      ⟨hOff, _, hCache⟩ | ⟨hOn, _, _, hCache⟩
    · rw [hOff]
      exact congrArg (·.1.isSome) hCache
    · rw [hOn]
      exact congrArg (·.1.isSome) hCache
  have hBefore :
      LabelledRun Accesses world ((guard ++ look) ++ check)
        checked :=
    labelledRun_append.mpr ⟨looked, hLooks, hChecks⟩
  have hYields : ∀ rest,
      ChatRest client session.1
          (client.cacheStep env req late).1 rest r →
        Yields (chat client req)
          (((guard ++ look) ++ check) ++ rest) r := by
    intro rest hRest
    refine yields_chat.mpr ⟨guard, look, check, rest, guarded,
      session.1, _, ?_, hPrelude, hCheck, hRest⟩
    rw [List.append_assoc, List.append_assoc]
  rcases SolvelaClient.runs_chat.mp hRun with
    ⟨cached, hHit, rfl, rfl⟩ | ⟨hMiss, spoken, hTalk, rfl⟩
  · exact ⟨_, checked, hYields [] (.cached hHit),
      by rw [List.append_nil]; exact hBefore, hLagsChecked⟩
  · rw [← perform_converse] at hTalk
    rcases talk_alone hLagsChecked hTalk with
      ⟨own, said, hOwn, hSaid, hLagsSaid⟩
    have hSpoken :=
      labelledRun_append.mpr ⟨checked, hBefore, hSaid⟩
    cases r with
    | error err =>
        exact ⟨_, said, hYields _ (.failed hMiss hOwn),
          hSpoken, hLagsSaid⟩
    | ok response =>
        have hAtEnd :=
          configured_of_accesses hSpoken hConfigured
        rcases cacheStore_alone env response hLagsSaid
            (hKey.trans hAtEnd.cache.symm) with
          ⟨stored, hStores, hLagsStored⟩
        have hSessions :=
          (configured_of_accesses hStores hAtEnd).sessions
        rcases sessionUpdate_alone session.1.1 hLagsStored
            (hSessionId.trans hSessions.symm) with
          ⟨last, hRecords, hLagsLast⟩
        refine ⟨_, last, hYields _ (.answered hMiss hOwn), ?_,
          hLagsLast⟩
        rw [← List.append_assoc]
        exact labelledRun_append.mpr ⟨said, hSpoken,
          labelledRun_append.mpr ⟨stored, hStores, hRecords⟩⟩

/- So is a solitary streaming call. -/
theorem chatStream_alone
    {late' : World X}
    {r : Except ClientError
      (List (Except ClientError X.ChatChunk))}
    (hLags : Lags world late)
    (hConfigured : world.Configured client.config)
    (hRun : Runs (client.chatStream env req) late r late') :
    ∃ es last, Yields (chatStream client req) es r ∧
      LabelledRun Accesses world es last ∧
        Lags last late' := by
  rcases prelude_alone env req hLags hConfigured with
    ⟨guard, look, looked, guarded, hPrelude, hLooks,
      hLagsLooked, hSessionId⟩
  have hSessions :=
    (configured_of_accesses hLooks hConfigured).sessions
  let session := client.sessionStep env req late
  rcases sessionUpdate_alone session.1.1 hLagsLooked
      (hSessionId.trans hSessions.symm) with
    ⟨recorded, hRecords, hLagsRecorded⟩
  have hTalk := SolvelaClient.runs_chatStream.mp hRun
  rw [← perform_openStream] at hTalk
  rcases talk_alone hLagsRecorded hTalk with
    ⟨own, last, hOwn, hSaid, hLagsSaid⟩
  refine ⟨_, last, yields_chatStream.mpr ⟨guard, look, own,
    guarded, session.1, rfl, hPrelude, hOwn⟩, ?_, hLagsSaid⟩
  rw [← List.append_assoc]
  exact labelledRun_append.mpr ⟨looked, hLooks,
    labelledRun_append.mpr ⟨recorded, hRecords, hSaid⟩⟩

/- So is forwarding a request. -/
theorem proxyHandler_alone
    {state : ProxyState X}
    {request : CallerRequest}
    {late' : World X}
    {r : Except Empty ProxyResponse}
    (hLags : Lags world late)
    (hRun :
      Runs (ProxyState.proxyHandler state env request) late r
        late') :
    ∃ es last,
      Yields (talk (proxyHandler state request)) es r ∧
        LabelledRun Accesses world es last ∧
          Lags last late' := by
  rw [← perform_proxyHandler] at hRun
  rcases talk_alone hLags hRun with
    ⟨own, last, hOwn, hSaid, hLagsSaid⟩
  exact ⟨_, last, yields_talk.mpr ⟨own, rfl, hOwn⟩, hSaid,
    hLagsSaid⟩

end Concurrent

/- The monitor's loop, for some rounds. -/
def BalanceMonitor.rounds
    (monitor : BalanceMonitor)
    (env : Env)
    (ata : Pubkey) :
    Nat → MonitorState → Prog X Empty MonitorState
| 0, state => pure state
| rounds + 1, state => do
    let state ← monitor.poll env ata state
    BalanceMonitor.rounds monitor env ata rounds state

namespace Concurrent

variable {monitor : BalanceMonitor}
variable {ata : Pubkey}

/- A round of the monitor. -/
theorem poll_alone
    {state state' : MonitorState}
    {late' : World X}
    (hLags : Lags world late)
    (hRun :
      Runs (monitor.poll env ata state) late (.ok state')
        late') :
    ∃ es world',
      Yields (poll X monitor ata state) es state' ∧
        LabelledRun Accesses world es world' ∧
          Lags world' late' := by
  unfold BalanceMonitor.poll at hRun
  rcases runs_attempt_bind.mp hRun with
    ⟨result, fetched, hFetch, hRest⟩
  rw [← perform_fetchBalance] at hFetch
  rcases talk_alone hLags hFetch with
    ⟨own, said, hOwn, hSaid, hLagsSaid⟩
  have hTalk := yields_talk.mpr ⟨own, rfl, hOwn⟩
  cases result with
  | error err =>
      rcases runs_pure.mp hRest with ⟨hState, rfl⟩
      cases hState
      refine ⟨_, said, yields_bind.mpr ⟨_, [], .error err,
        rfl, hTalk, yields_pure.mpr ⟨rfl, rfl⟩⟩, ?_,
        hLagsSaid⟩
      rw [List.append_nil]
      exact hSaid
  | ok uiAmount =>
      rw [runs_modify_bind, runs_pure] at hRest
      rcases hRest with ⟨hState, rfl⟩
      cases hState
      refine ⟨_, _, yields_bind.mpr ⟨_, _, .ok uiAmount, rfl,
        hTalk, yields_bind.mpr ⟨_, [], (), rfl,
          yields_access.mpr rfl,
          yields_pure.mpr ⟨rfl, rfl⟩⟩⟩,
        labelledRun_append.mpr ⟨said, hSaid, _,
          .storeBalance, rfl⟩, ?_⟩
      exact
        { now := hLagsSaid.now
          trace := hLagsSaid.trace
          balanceState := rfl
          cache := hLagsSaid.cache
          sessionStore := hLagsSaid.sessionStore }

/- And so all of them. -/
theorem monitorRounds_alone
    {rounds : Nat}
    {state state' : MonitorState}
    {late' : World X}
    (hLags : Lags world late)
    (hRun :
      Runs (monitor.rounds env ata rounds state) late
        (.ok state') late') :
    ∃ es world',
      Yields (monitorRounds X monitor ata rounds state) es
          state' ∧
        LabelledRun Accesses world es world' ∧
          Lags world' late' := by
  induction rounds generalizing state world late with
  | zero =>
      rcases runs_pure.mp hRun with ⟨hState, rfl⟩
      cases hState
      exact ⟨[], world, yields_pure.mpr ⟨rfl, rfl⟩, rfl,
        hLags⟩
  | succ rounds ih =>
      rcases runs_bind_ok.mp hRun with
        ⟨next, polled, hPoll, hRest⟩
      rcases poll_alone hLags hPoll with
        ⟨first, mid, hFirst, hFirstRun, hMid⟩
      rcases ih hMid hRest with
        ⟨second, last, hSecond, hSecondRun, hLast⟩
      exact ⟨first ++ second, last,
        yields_bind.mpr ⟨first, second, next, rfl, hFirst,
          hSecond⟩,
        labelledRun_append.mpr ⟨mid, hFirstRun, hSecondRun⟩,
        hLast⟩

end Concurrent

/- A call in the solitary model. -/
inductive SolitaryRun
    (client : SolvelaClient X)
    (env : Env) :
    Call → World X → CallResult X → World X → Prop where
  | chat
      {req : ChatRequest}
      {r : Except ClientError ChatResponse}
      {world world' : World X}
      (hRun : Runs (client.chat env req) world r world') :
      SolitaryRun client env (.chat req) world (.chat r) world'
  | chatStream
      {req : ChatRequest}
      {r : Except ClientError
        (List (Except ClientError X.ChatChunk))}
      {world world' : World X}
      (hRun :
        Runs (client.chatStream env req) world r world') :
      SolitaryRun client env (.chatStream req) world
        (.chatStream r) world'
  | proxied
      {gatewayUrl : String}
      {request : CallerRequest}
      {r : Except Empty ProxyResponse}
      {world world' : World X}
      (hRun :
        Runs
          (ProxyState.proxyHandler
            { client := client, gatewayUrl := gatewayUrl } env
            request)
          world r world') :
      SolitaryRun client env (.proxied gatewayUrl request)
        world (.proxied r) world'
  | monitored
      {monitor : BalanceMonitor}
      {ata : Pubkey}
      {rounds : Nat}
      {state : MonitorState}
      {world world' : World X}
      (hRun :
        Runs
          (monitor.rounds env ata rounds
            BalanceMonitor.started)
          world (.ok state) world') :
      SolitaryRun client env (.monitored monitor ata rounds)
        world (.monitored state) world'

/- A solitary call is a run of its accesses. -/
theorem SolitaryRun.alone
    {call : Call}
    {result : CallResult X}
    {late' : World X}
    (hRun : SolitaryRun client env call late result late')
    (hLags : Lags world late)
    (hConfigured : world.Configured client.config) :
    ∃ es last, Yields (call.dialogue client) es result ∧
      LabelledRun Accesses world es last ∧
        Lags last late' := by
  cases hRun with
  | chat hRun =>
      rcases Concurrent.chat_alone hLags hConfigured hRun with
        ⟨es, last, hYields, hAccesses, hLast⟩
      exact ⟨es, last, hYields.map _, hAccesses, hLast⟩
  | chatStream hRun =>
      rcases Concurrent.chatStream_alone hLags hConfigured
          hRun with
        ⟨es, last, hYields, hAccesses, hLast⟩
      exact ⟨es, last, hYields.map _, hAccesses, hLast⟩
  | proxied hRun =>
      rcases Concurrent.proxyHandler_alone hLags hRun with
        ⟨es, last, hYields, hAccesses, hLast⟩
      exact ⟨es, last, hYields.map _, hAccesses, hLast⟩
  | monitored hRun =>
      rcases Concurrent.monitorRounds_alone hLags hRun with
        ⟨es, last, hYields, hAccesses, hLast⟩
      exact ⟨es, last, hYields.map _, hAccesses, hLast⟩

/- The clock may go on while nothing is called. -/
theorem Lags.trans
    {later : World X}
    (hFirst : Lags world late)
    (hSecond : Lags late later) :
    Lags world later where
  now := hFirst.now.trans hSecond.now
  trace := hSecond.trace.trans hFirst.trace
  balanceState :=
    hSecond.balanceState.trans hFirst.balanceState
  cache := hSecond.cache.trans hFirst.cache
  sessionStore :=
    hSecond.sessionStore.trans hFirst.sessionStore

/-
  Calls one after the other, each to its end, with their
  results.  Time may pass in between, and the peers of each
  call are its own.
-/
inductive SerialRun
    {ι : Type}
    (client : SolvelaClient X)
    (calls : ι → Call) :
    World X → List (ι × CallResult X) → World X → Prop where
  | nil
      {world : World X} :
      SerialRun client calls world [] world
  | cons
      {world start mid final : World X}
      {env : Env}
      {i : ι}
      {result : CallResult X}
      {rest : List (ι × CallResult X)}
      (hWaits : Lags world start)
      (hRun :
        SolitaryRun client env (calls i) start result mid)
      (hRest : SerialRun client calls mid rest final) :
      SerialRun client calls world ((i, result) :: rest) final

/- Calls that have had no turn can still run in series. -/
theorem SerialRun.interleaves
    {ι : Type}
    [DecidableEq ι]
    {calls : ι → Call}
    {results : List (ι × CallResult X)}
    {final : World X}
    (hSerial : SerialRun client calls late results final)
    {q : Pool (World X) ι SharedAccess SharedAccess.Answer
      (CallResult X)}
    (hLags : Lags q.shared late)
    (hConfigured : q.shared.Configured client.config)
    (hOnce : (results.map Prod.fst).Nodup)
    (hFresh : ∀ i ∈ results.map Prod.fst,
      q.tasks i = (calls i).dialogue client) :
    ∃ ls p, LabelledRun (PoolStep Accesses) q ls p ∧
      (∀ i result, (i, result) ∈ results →
        p.tasks i = .done result) ∧
        (∀ j, j ∉ results.map Prod.fst →
          p.tasks j = q.tasks j) ∧
          Lags p.shared final := by
  induction hSerial generalizing q with
  | nil =>
      refine ⟨[], q, rfl, ?_, fun _ _ => rfl, hLags⟩
      intro i result hNone
      cases hNone
  | @cons world start mid final env i result rest hWaits hRun
      _ ih =>
      rcases List.nodup_cons.mp hOnce with ⟨hOther, hLater⟩
      have hTask := hFresh i List.mem_cons_self
      rcases hRun.alone (hLags.trans hWaits) hConfigured with
        ⟨es, last, hYields, hAccesses, hLast⟩
      rw [← hTask] at hYields
      have hFirst := exists_run_of_plays hYields hAccesses
      let next : Pool (World X) ι SharedAccess
          SharedAccess.Answer (CallResult X) :=
        { shared := last
          tasks :=
            Function.update q.tasks i (.done result) }
      have hStill : ∀ j ∈ rest.map Prod.fst,
          next.tasks j = (calls j).dialogue client := by
        intro j hMem
        have hNe : j ≠ i := by
          rintro rfl
          exact hOther hMem
        exact (Function.update_of_ne hNe _ _).trans
          (hFresh j (List.mem_cons_of_mem _ hMem))
      rcases ih (q := next) hLast
          (configured_of_accesses hAccesses hConfigured)
          hLater hStill with
        ⟨ls, p, hRest, hDone, hIdle, hEnd⟩
      refine ⟨_, p, labelledRun_append.mpr
        ⟨_, hFirst, hRest⟩, ?_, ?_, hEnd⟩
      · intro j result' hMem
        rcases List.mem_cons.mp hMem with hSame | hIn
        · cases hSame
          rw [hIdle i hOther]
          exact Function.update_self _ _ _
        · exact hDone j result' hIn
      · intro j hNot
        rcases List.ne_and_not_mem_of_not_mem_cons hNot with
          ⟨hNe, hNotIn⟩
        rw [hIdle j hNotIn]
        exact Function.update_of_ne hNe _ _

/-
  Whatever some calls do in series, each alone with the
  client, they do in a pool, in which the other calls take no
  turn.
-/
theorem serial_run_is_interleaving
    {ι : Type}
    [DecidableEq ι]
    (client : SolvelaClient X)
    (world final : World X)
    (hConfigured : world.Configured client.config)
    (calls : ι → Call)
    (results : List (ι × CallResult X))
    (hOnce : (results.map Prod.fst).Nodup)
    (hSerial : SerialRun client calls world results final) :
    ∃ ls p,
      LabelledRun (PoolStep Accesses)
          (startPool client world calls) ls p ∧
        (∀ i result, (i, result) ∈ results →
          p.tasks i = .done result) ∧
          (∀ j, j ∉ results.map Prod.fst →
            p.tasks j = (calls j).dialogue client) ∧
            Lags p.shared final :=
  hSerial.interleaves (Lags.refl world) hConfigured hOnce
    (fun _ _ => rfl)

/- Any two calls can be made one after the other. -/
theorem serialRun_twice
    (client : SolvelaClient X)
    (env : Env)
    (req : ChatRequest)
    (world : World X) :
    SerialRun client (fun _ : Bool => .chat req) world
      [(false, .chat (outcome (client.chat env req) world)),
        (true,
          .chat
            (outcome (client.chat env req)
              (final (client.chat env req) world)))]
      (final (client.chat env req)
        (final (client.chat env req) world)) :=
  .cons (Lags.refl _) (.chat (runs_outcome _ _))
    (.cons (Lags.refl _) (.chat (runs_outcome _ _)) .nil)

/- The default configuration with a cache and sessions. -/
def sharingConfig : ClientConfig :=
  { ClientConfig.default with
    enableCache := true
    enableSessions := true }

/-
  The second of two equal calls is answered from the cache:
  one probe, one block hash and one payment are all that is
  sent for both.
-/
theorem sample_series_is_interleaving :
    ∃ first second ls p,
      LabelledRun (PoolStep Accesses)
          (startPool (sampleClient sharingConfig)
            (World.new sharingConfig 0)
            (fun _ : Bool => .chat sampleRequest)) ls p ∧
        p.tasks false = .done (.chat first) ∧
          p.tasks true = .done (.chat second) ∧
            first.toOption.isSome = true ∧
              second.toOption.isSome = true ∧
                p.shared.trace.length = 3 ∧
                  p.shared.cache.map
                      (ResponseCache.len sampleCrates.lru) =
                    some 1 := by
  have hFrom :
      ∀ (client : SolvelaClient sampleCrates)
        (world mid last : World sampleCrates)
        (first second : Except ClientError ChatResponse),
        world.Configured client.config →
          mid =
              final (client.chat sampleEnv sampleRequest)
                world →
            last =
                final (client.chat sampleEnv sampleRequest)
                  mid →
              first =
                  outcome
                    (client.chat sampleEnv sampleRequest)
                    world →
                second =
                    outcome
                      (client.chat sampleEnv sampleRequest)
                      mid →
                  ∃ ls p,
                    LabelledRun (PoolStep Accesses)
                        (startPool client world
                          (fun _ : Bool =>
                            .chat sampleRequest)) ls p ∧
                      p.tasks false = .done (.chat first) ∧
                        p.tasks true = .done (.chat second) ∧
                          Lags p.shared last := by
    rintro client world mid last first second hConfigured rfl
      rfl rfl rfl
    rcases serial_run_is_interleaving client world _
        hConfigured (fun _ : Bool => .chat sampleRequest) _
        (by simp)
        (serialRun_twice client sampleEnv sampleRequest
          world) with
      ⟨ls, p, hRun, hDone, _, hLags⟩
    exact ⟨ls, p, hRun, hDone false _ List.mem_cons_self,
      hDone true _
        (List.mem_cons_of_mem _ List.mem_cons_self), hLags⟩
  have hSent :
      ∀ last : World sampleCrates,
        last.trace.length = 3 →
          last.cache.map
              (ResponseCache.len sampleCrates.lru) =
            some 1 →
            ∀ shared : World sampleCrates, Lags shared last →
              shared.trace.length = 3 ∧
                shared.cache.map
                    (ResponseCache.len sampleCrates.lru) =
                  some 1 := by
    intro last hTrace hCache shared hLags
    rw [← hLags.trace, ← hLags.cache]
    exact ⟨hTrace, hCache⟩
  rcases hFrom (sampleClient sharingConfig)
      (World.new sharingConfig 0) _ _ _ _
      (World.configured_new sharingConfig 0) rfl rfl rfl rfl
    with ⟨ls, p, hRun, hFirst, hSecond, hLags⟩
  rcases hSent _ (by decide +kernel) (by decide +kernel)
      p.shared hLags with ⟨hTrace, hCache⟩
  exact ⟨_, _, ls, p, hRun, hFirst, hSecond,
    by decide +kernel, by decide +kernel, hTrace, hCache⟩

end Solvela
