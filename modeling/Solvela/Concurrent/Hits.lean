import Solvela.Cache.Correctness
import Solvela.Client.Replay
import Solvela.Concurrent.Snapshots

/-
  Where a cached answer comes from.

  Seen from its cache, a run of a pool is a run of stores and
  look-ups, so a hit has a store behind it.  The store belongs
  to a turn of some call, and that call had the response from
  the gateway itself.

  Main declarations:
    * `TimedRun`, `ShowsCache`
    * `Accesses.cacheStep`, `cacheRun_of_run`
    * `interleaved_hits_were_answered`
-/

------------------------------------------------------------
-- Timed Runs
------------------------------------------------------------

namespace Solvela

open Dialogues Transitions

variable {X : Crates} {ι : Type}

/- A turn of a call, with the clock after it. -/
abbrev Timed (ι : Type) :=
  (ι × Accessed) × Nat

/- A run that notes the clock after each turn. -/
def TimedRun
    [DecidableEq ι] :
    CallPool X ι → List (Timed ι) → CallPool X ι → Prop :=
  LabelledRun
    (Observed (PoolStep Accesses) (fun p => p.shared.now))

/- The cache event that a turn shows, if it shows one. -/
inductive ShowsCache :
    Timed ι → Option CacheEvent → Prop where
  | hit
      {i : ι}
      {key : UInt64}
      {result : Option ChatResponse}
      {now : Nat} :
      ShowsCache ((i, ⟨.cacheGet key, result⟩), now)
        (some (.get now key result))
  | stored
      {i : ι}
      {key : UInt64}
      {response : ChatResponse}
      {now inserted : Nat} :
      ShowsCache ((i, ⟨.cachePut key response, ()⟩), inserted)
        (some (.put now inserted key response true))
  | dropped
      {i : ι}
      {key : UInt64}
      {response : ChatResponse}
      {now inserted : Nat} :
      ShowsCache ((i, ⟨.cachePut key response, ()⟩), now)
        (some (.put now inserted key response false))
  | other
      {i : ι}
      {e : Accessed}
      {now : Nat}
      (hCheck : e.1.phase ≠ .cacheCheck)
      (hStore : e.1.phase ≠ .cacheStore) :
      ShowsCache ((i, e), now) none

/- Only a store shows a store. -/
theorem ShowsCache.put_spec
    {l : Timed ι}
    {now inserted : Nat}
    {key : UInt64}
    {response : ChatResponse}
    {effective : Bool}
    (hShows :
      ShowsCache l
        (some (.put now inserted key response effective))) :
    ∃ i, l = ((i, ⟨.cachePut key response, ()⟩),
      if effective then inserted else now) := by
  cases hShows with
  | stored => exact ⟨_, rfl⟩
  | dropped => exact ⟨_, rfl⟩

/- A store shows whether it took effect. -/
theorem ShowsCache.of_cachePut
    {i : ι}
    {key : UInt64}
    {response : ChatResponse}
    {stamp : Nat}
    {o : Option CacheEvent}
    (hShows :
      ShowsCache ((i, ⟨.cachePut key response, ()⟩), stamp) o) :
    ∃ now inserted effective,
      o = some (.put now inserted key response effective) ∧
        stamp = if effective then inserted else now := by
  cases hShows with
  | stored => exact ⟨_, _, true, rfl, rfl⟩
  | dropped => exact ⟨_, _, false, rfl, rfl⟩
  | other _ hStore => exact absurd rfl hStore

/- And a look-up shows what it found. -/
theorem ShowsCache.of_cacheGet
    {i : ι}
    {key : UInt64}
    {result : Option ChatResponse}
    {now : Nat}
    {o : Option CacheEvent}
    (hShows : ShowsCache ((i, ⟨.cacheGet key, result⟩), now) o) :
    o = some (.get now key result) := by
  cases hShows with
  | hit => rfl
  | other hCheck _ => exact absurd rfl hCheck

end Solvela

------------------------------------------------------------
-- The Cache Of A Pool
------------------------------------------------------------

namespace Solvela

open Dialogues Transitions

variable {X : Crates} {ι : Type}

/- The cache of a world, under a clock that is not ahead. -/
structure HasCache
    (world : World X)
    (s : TimedCache X.LruCache) : Prop where
  cache : world.cache = some s.cache
  clock : s.clock ≤ world.now

/- Seen from the cache, an access is a step or nothing. -/
theorem Accesses.cacheStep
    {world world' : World X}
    {e : Accessed}
    {s : TimedCache X.LruCache}
    (hStep : Accesses world e world')
    (hCache : HasCache world s)
    (i : ι) :
    (ShowsCache ((i, e), world'.now) none ∧
        HasCache world' s) ∨
      ∃ k t, ShowsCache ((i, e), world'.now) (some k) ∧
        CacheStep X.lru s k t ∧ HasCache world' t := by
  have hLater := hCache.clock.trans hStep.now_le
  rcases hCache with ⟨hThere, hClock⟩
  cases hStep with
  | loadBalance =>
      exact Or.inl ⟨.other nofun nofun,
        hThere, hLater⟩
  | storeBalance =>
      exact Or.inl ⟨.other nofun nofun,
        hThere, hLater⟩
  | findSession _ =>
      exact Or.inl ⟨.other nofun nofun,
        hThere, hLater⟩
  | openSession _ _ =>
      refine Or.inl ⟨.other nofun nofun, ?_,
        hLater⟩
      unfold World.openSession
      cases world.sessionStore with
      | none => exact hThere
      | some store => exact hThere
  | recordRequest =>
      exact Or.inl ⟨.other nofun nofun,
        hThere, hLater⟩
  | @cacheGet key now hNow =>
      right
      rw [World.cacheGet_of_cache hThere]
      exact ⟨_, _, .hit, .get (hClock.trans hNow), rfl,
        Nat.le_refl _⟩
  | @cachePut key response now inserted hNow hStamp =>
      right
      rw [World.cachePut_of_cache hThere]
      refine ⟨_, _, ?_, .put (hClock.trans hNow) hStamp, rfl,
        Nat.le_refl _⟩
      cases s.cache.suppresses X.lru now key with
      | true => exact .dropped
      | false => exact .stored
  | send =>
      exact Or.inl ⟨.other nofun nofun,
        hThere, hLater⟩

/- Seen from the cache, a run of a pool is a run on it. -/
theorem cacheRun_of_run
    [DecidableEq ι]
    {q p : CallPool X ι}
    {history : List (Timed ι)}
    {s : TimedCache X.LruCache}
    (hRun : TimedRun q history p)
    (hCache : HasCache q.shared s) :
    ∃ ks t, Shown ShowsCache history ks ∧
      LabelledRun (CacheStep X.lru) s ks t ∧
        HasCache p.shared t := by
  apply hRun.follows (fun p s => HasCache p.shared s) hCache
  rintro v ⟨⟨i, e⟩, now⟩ w s' hThere ⟨hStep, rfl⟩
  cases hStep with
  | turn _ hActs => exact hActs.cacheStep hThere i

end Solvela

------------------------------------------------------------
-- Hits
------------------------------------------------------------

namespace Solvela

open Dialogues Transitions Histories

variable {X : Crates} {ι : Type}
variable [DecidableEq ι]
variable {client : SolvelaClient X}
variable {calls : ι → Call}
variable {p : CallPool X ι}

/- A turn that stores ends a conversation of its call. -/
theorem conversation_of_turn
    {world : World X}
    {ls rest : List (ι × Accessed)}
    {j : ι}
    {key : UInt64}
    {response : ChatResponse}
    (hRun :
      LabelledRun (PoolStep Accesses)
        (startPool client world calls)
        (ls ++ (j, ⟨.cachePut key response, ()⟩) :: rest) p) :
    ∃ req sent, calls j = .chat req ∧
      key = Concurrent.keyOf X sent ∧
        Conversation client client.chatUrl sent
          (ownPart j (tagged ls)) (.ok response) := by
  have hPlays := plays_of_run hRun j
  rw [ownPart_append, ownPart_cons_self] at hPlays
  rcases hPlays.completes someAnswer with
    ⟨later, result, hYields⟩
  rw [List.append_assoc, List.cons_append] at hYields
  rcases Concurrent.exists_chat_of_mem hYields
      (List.mem_append_right _ List.mem_cons_self)
      (Or.inr rfl) with
    ⟨req, r, hCall, _, hChat⟩
  rcases Concurrent.conversation_of_put hChat with
    ⟨sent, hKey, hTalk⟩
  rw [tagged_own]
  exact ⟨req, sent, hCall, hKey, hTalk⟩

/- A turn that hits ends its call. -/
theorem done_of_turn
    {world : World X}
    {ls rest : List (ι × Accessed)}
    {i : ι}
    {key : UInt64}
    {response : ChatResponse}
    (hRun :
      LabelledRun (PoolStep Accesses)
        (startPool client world calls)
        (ls ++ (i, ⟨.cacheGet key, some response⟩) :: rest)
        p) :
    ∃ req sent, calls i = .chat req ∧
      key = Concurrent.keyOf X sent ∧
        ownPart i (tagged ls) = [] ∧ ownPart i rest = [] ∧
          p.tasks i = .done (.chat (.ok response)) := by
  have hPlays := plays_of_run hRun i
  rw [ownPart_append, ownPart_cons_self] at hPlays
  rcases hPlays.completes someAnswer with
    ⟨later, result, hYields⟩
  have hChats := hYields
  rw [List.append_assoc, List.cons_append] at hChats
  rcases Concurrent.exists_chat_of_mem hChats
      (List.mem_append_right _ List.mem_cons_self)
      (Or.inl rfl) with
    ⟨req, r, hCall, rfl, hChat⟩
  rcases Concurrent.done_of_hit hChat with
    ⟨sent, hKey, hQuiet, hRest, rfl⟩
  rcases List.append_eq_nil_iff.mp hRest with ⟨hOwn, rfl⟩
  rw [tagged_own]
  refine ⟨req, sent, hCall, hKey, hQuiet, hOwn, ?_⟩
  rw [List.append_nil] at hYields
  exact hPlays.unique hYields

/- A hit on a cache that was run has a store behind it. -/
theorem exists_store_of_hit
    (laws : X.lru.Laws)
    {maxEntries ttl dedupWindow start now : Nat}
    {ks : List CacheEvent}
    {s t : TimedCache X.LruCache}
    {key : UInt64}
    {response : ChatResponse}
    (hRun :
      LabelledRun (CacheStep X.lru)
        (TimedCache.init X.lru maxEntries ttl dedupWindow
          start) ks s)
    (hStep :
      CacheStep X.lru s (.get now key (some response)) t) :
    ∃ first stamp since,
      LastAt (CacheEvent.Stores key) ks
          (.put first stamp key response true) since ∧
        stamp ≤ now ∧ now ≤ stamp + ttl ∧
          ∀ read stamp' response',
            .put read stamp' key response' false ∈ since →
              stamp ≤ read ∧ read < stamp + dedupWindow := by
  rcases cacheInvariant_of_run laws hRun with
    ⟨hSettings, hBacked, _⟩
  have hTtl : s.cache.ttl = ttl :=
    congrArg ResponseCache.Settings.ttl hSettings
  have hWindow : s.cache.dedupWindow = dedupWindow :=
    congrArg ResponseCache.Settings.dedupWindow hSettings
  rcases hStep.entry_of_hit laws with
    ⟨entry, rfl, hFound, hClock, hAge⟩
  rcases hBacked key entry hFound with
    ⟨first, since, hLast, hStamp, hLater⟩
  rw [hTtl] at hAge
  rw [hWindow] at hLater
  exact ⟨first, entry.inserted, since, hLast,
    hStamp.trans hClock, by omega, hLater⟩

/- A new world has the cache it is configured for. -/
theorem hasCache_new
    {config : ClientConfig}
    (hOn : config.enableCache = true)
    (start : Nat) :
    HasCache (World.new (X := X) config start)
      (TimedCache.init X.lru ResponseCache.defaultMaxEntries
        (durationFromSecs ResponseCache.defaultTtlSecs)
        (durationFromSecs
          ResponseCache.defaultDedupWindowSecs)
        start) where
  cache := by
    unfold World.new
    rw [hOn]
    rfl
  clock := Nat.le_refl _

/- Without a cache no look-up hits. -/
theorem enableCache_of_hit
    {world world' : World X}
    {config : ClientConfig}
    {key : UInt64}
    {response : ChatResponse}
    (hConfigured : world.Configured config)
    (hStep :
      Accesses world ⟨.cacheGet key, some response⟩ world') :
    config.enableCache = true := by
  rcases hStep.of_cacheGet with ⟨now, _, hFound, _⟩
  rw [← hConfigured.cache]
  unfold World.cacheGet at hFound
  cases hCache : world.cache with
  | none =>
      rw [hCache] at hFound
      cases hFound
  | some cache => rfl

/-
  Wherever a chat call of a pool hits the cache, it is done
  at once, with a response that a chat call of the pool got
  from the gateway in its own conversation, for a request
  with the same key, and then stored no longer than the
  lifetime ago.  What calls tried to store under the key in
  between was dropped, each time within the window.
-/
theorem interleaved_hits_were_answered
    (laws : X.lru.Laws)
    (client : SolvelaClient X)
    (start : Nat)
    (calls : ι → Call)
    (history : List (Timed ι))
    (p : CallPool X ι)
    (hRun :
      TimedRun
        (startPool client (World.new client.config start)
          calls)
        history p)
    (past later : List (Timed ι))
    (i : ι)
    (key : UInt64)
    (response : ChatResponse)
    (now : Nat)
    (hHit :
      history =
        past ++ ((i, ⟨.cacheGet key, some response⟩), now) ::
          later) :
    (∃ req sent, calls i = .chat req ∧
      key = Concurrent.keyOf X sent ∧
        ownPart i (tagged (past.map Prod.fst)) = [] ∧
          p.tasks i = .done (.chat (.ok response))) ∧
      ∃ before j stamp between req sent,
        past =
            before ++ ((j, ⟨.cachePut key response, ()⟩),
              stamp) :: between ∧
          stamp ≤ now ∧
            now ≤ stamp + durationFromSecs
              ResponseCache.defaultTtlSecs ∧
          (∀ k response' stamp',
            ((k, ⟨.cachePut key response', ()⟩), stamp') ∈
                between →
              stamp ≤ stamp' ∧
                stamp' < stamp + durationFromSecs
                  ResponseCache.defaultDedupWindowSecs) ∧
          calls j = .chat req ∧
            key = Concurrent.keyOf X sent ∧
              Conversation client client.chatUrl sent
                (ownPart j (tagged (before.map Prod.fst)))
                (.ok response) := by
  subst hHit
  rcases labelledRun_append.mp hRun with
    ⟨t, hPast, v, ⟨hTurn, rfl⟩, hLater⟩
  have hTurns := unobserved hRun
  rw [List.map_append, List.map_cons] at hTurns
  rcases done_of_turn hTurns with
    ⟨req, sent, hCall, hKey, hQuiet, _, hDone⟩
  refine ⟨⟨req, sent, hCall, hKey, hQuiet, hDone⟩, ?_⟩
  have hGet :
      Accesses t.shared ⟨.cacheGet key, some response⟩
        v.shared := by
    generalize hLabel :
      (i, (⟨.cacheGet key, some response⟩ : Accessed)) = l
        at hTurn
    cases hTurn with
    | turn _ hActs =>
        cases hLabel
        exact hActs
  have hConfigured :=
    configured_of_accesses (acts_of_run (unobserved hPast))
      (World.configured_new client.config start)
  have hOn := enableCache_of_hit hConfigured hGet
  rcases cacheRun_of_run hPast (hasCache_new hOn start) with
    ⟨ks, s, hShown, hCacheRun, hCache⟩
  rcases hGet.cacheStep hCache i with
    ⟨hNone, _⟩ | ⟨k, s', hShows, hStep, _⟩
  · cases hNone.of_cacheGet
  cases hShows.of_cacheGet
  rcases exists_store_of_hit laws hCacheRun hStep with
    ⟨first, stamp, since, ⟨early, rfl, _, hSince⟩, hAfter,
      hAge, hDropped⟩
  rcases hShown.split with
    ⟨before, l, between, rfl, hShows, _, hBetween⟩
  rcases hShows.put_spec with ⟨j, rfl⟩
  have hStores := hTurns
  rw [List.map_append, List.map_cons, List.append_assoc]
    at hStores
  rcases conversation_of_turn hStores with
    ⟨req', sent', hCall', hKey', hTalk⟩
  refine ⟨before, j, stamp, between, req', sent', rfl, hAfter,
    hAge, ?_, hCall', hKey', hTalk⟩
  intro j' response' stamp' hMem
  rcases hBetween.of_mem hMem with hNone | ⟨k, hIn, hShows'⟩
  · rcases hNone.of_cachePut with ⟨_, _, _, hNo, _⟩
    cases hNo
  · rcases hShows'.of_cachePut with
      ⟨read, inserted, effective, hEvent, rfl⟩
    cases hEvent
    cases effective with
    | true => exact absurd rfl (hSince _ hIn)
    | false => exact hDropped read inserted response' hIn

end Solvela

------------------------------------------------------------
-- A Repeated Call
------------------------------------------------------------

namespace Solvela

open Dialogues Transitions Effects

variable {X : Crates}
variable {client : SolvelaClient X}
variable {env : Env}
variable {req : ChatRequest}

theorem CallStep.chat_spec
    {before after : World X}
    {c : ChatCall X}
    (hStep : CallStep client env before c after)
    (hChat : c.streaming = false) :
    ∃ r, Runs (client.chat env c.request) c.start r after ∧
      c.answer = r.toOption ∧
        after.trace = c.start.trace ++ c.sent := by
  cases hStep with
  | chat _ hRun hSent => exact ⟨_, hRun, rfl, hSent⟩
  | stream _ _ _ => cases hChat

/- A chat call that sends nothing and answers has hit. -/
theorem exists_hit_of_quiet
    {es : List Accessed}
    {response : ChatResponse}
    (hYields :
      Yields (Concurrent.chat client req) es (.ok response))
    (hQuiet : sentIn es = []) :
    ∃ first key later,
      es = first ++ ⟨.cacheGet key, some response⟩ ::
        later := by
  rcases Concurrent.yields_chat.mp hYields with
    ⟨guard, look, check, rest, guarded, session, cache, rfl,
      hPrelude, hCheck, hRest⟩
  cases hRest with
  | cached hHit =>
      rcases Concurrent.yields_cacheCheck.mp hCheck with
        ⟨_, _, rfl⟩ | ⟨_, cached, rfl, rfl⟩
      · cases hHit
      · cases hHit
        refine ⟨guard ++ look, Concurrent.keyOf X session.1, [],
          ?_⟩
        rw [List.append_assoc]
        rfl
  | @answered own _ _ hTalk =>
      have hSilent : exchangesOf own = [] := by
        rw [sentIn_append, sentIn_append, sentIn_append,
          sentIn_append, sentIn_talk] at hQuiet
        simp only [List.append_eq_nil_iff] at hQuiet
        exact hQuiet.2.2.2.1
      rcases (Concurrent.conversation_of_yields hTalk).gave
        with ⟨e, hMem, _⟩
      rw [hSilent] at hMem
      cases hMem

/-
  With a steady gateway, a call in a pool hits the cache
  after another call with the same request.
-/
theorem Steady.exists_interleaved_hit
    {response : ChatResponse}
    (hSteady : Steady X env response)
    (laws : X.lru.Laws)
    (client : SolvelaClient X)
    (hCache : client.config.enableCache = true)
    (hSessions : client.config.enableSessions = false)
    (hFallback : client.config.freeFallbackModel = none)
    {limit : Nat}
    (hQuick : ∀ n, env.delay n ≤ limit)
    (hLimit :
      4 * limit ≤
        durationFromSecs ResponseCache.defaultTtlSecs)
    (start : Nat)
    (req : ChatRequest) :
    ∃ past key now later p,
      TimedRun
        (startPool client (World.new client.config start)
          (fun _ : Bool => .chat req))
        (past ++ ((true, ⟨.cacheGet key, some response⟩),
          now) :: later) p := by
  let world := World.new (X := X) client.config start
  have hNoStore : world.sessionStore = none := by
    change (World.new client.config start).sessionStore = _
    unfold World.new
    rw [hSessions]
    rfl
  rcases hSteady.exists_step client req world
      (cachedAnswer_new laws hCache start req) with
    ⟨first, mid, hFirst, hAsked, hChat, hBegin, hSent,
      hAnswer⟩
  have hKey :
      SolvelaClient.requestKey X
          (client.effectiveRequest env req mid) =
        first.cacheKey client env := by
    unfold ChatCall.cacheKey
    rw [ChatCall.effective_of_plain hFallback hChat
        (by rw [hBegin]; exact hNoStore),
      SolvelaClient.effectiveRequest_of_plain hFallback
        (hFirst.keeps_no_sessions hNoStore), hAsked]
  rcases exists_repeatStep laws hFirst
      (World.cache_new hCache start) hSent hAnswer hQuick
      hLimit hKey with
    ⟨second, hSecond, hRepeats, hChat', hBegin', hNone,
      hAnswer'⟩
  rcases hFirst.chat_spec hChat with ⟨r₁, hRun₁, _, _⟩
  rcases hSecond.chat_spec hChat' with
    ⟨r₂, hRun₂, hFound, hTrace⟩
  rw [hBegin, hAsked] at hRun₁
  rw [hBegin', hRepeats] at hRun₂
  rw [hBegin', hNone, List.append_nil] at hTrace
  rw [hAnswer'] at hFound
  cases r₂ with
  | error err => cases hFound
  | ok found =>
      cases hFound
      have hConfigured : world.Configured client.config :=
        World.configured_new client.config start
      rcases Concurrent.chat_alone (Lags.refl world)
          hConfigured hRun₁ with
        ⟨es₁, last₁, hYields₁, hAccesses₁, hLags₁⟩
      rcases Concurrent.chat_alone hLags₁
          (configured_of_accesses hAccesses₁ hConfigured)
          hRun₂ with
        ⟨es₂, last₂, hYields₂, hAccesses₂, hLags₂⟩
      have hQuiet : sentIn es₂ = [] := by
        have hSame := trace_of_accesses hAccesses₂
        rw [← hLags₂.trace, hTrace, hLags₁.trace] at hSame
        exact List.append_right_eq_self.mp hSame.symm
      rcases exists_hit_of_quiet hYields₂ hQuiet with
        ⟨before, key, after, rfl⟩
      let q := startPool client world
        (fun _ : Bool => Call.chat req)
      have hFirstRun :=
        exists_run_of_plays (p := q) (i := false)
          (hYields₁.map CallResult.chat) hAccesses₁
      have hSecondRun :=
        exists_run_of_plays
          (p :=
            { shared := last₁
              tasks := Function.update q.tasks false
                (.done (.chat r₁)) })
          (i := true) (hYields₂.map CallResult.chat)
          hAccesses₂
      rcases (labelledRun_append.mpr
          ⟨_, hFirstRun, hSecondRun⟩).observed
          (fun p : CallPool X Bool => p.shared.now) with
        ⟨history, hSame, hTimed⟩
      rw [List.map_append, List.map_cons,
        ← List.append_assoc] at hSame
      rcases List.map_eq_append_iff.mp hSame with
        ⟨past, rest, rfl, _, hRest⟩
      rcases List.map_eq_cons_iff.mp hRest with
        ⟨⟨_, now⟩, later, rfl, rfl, _⟩
      exact ⟨past, key, now, later, _, hTimed⟩

/- The second of two equal calls hits. -/
theorem steady_hit_was_answered :
    ∃ past key now later p,
      TimedRun
          (startPool (sampleClient cachedConfig)
            (World.new cachedConfig 0)
            (fun _ : Bool => .chat sampleRequest))
          (past ++ ((true, ⟨.cacheGet key,
            some (Sample.emptyResponse "answer")⟩), now) ::
              later) p ∧
        ∃ before j stamp between,
          past =
            before ++ ((j, ⟨.cachePut key
              (Sample.emptyResponse "answer"), ()⟩),
                stamp) :: between := by
  have hSteady :
      Steady sampleCrates
        (steadyEnv (.ok (responseOf 200 "answer")))
        (Sample.emptyResponse "answer") :=
    ⟨"answer", rfl, fun _ _ => rfl⟩
  rcases hSteady.exists_interleaved_hit
      Recency.RecencyList.laws (sampleClient cachedConfig) rfl
      rfl rfl (fun _ => Nat.le_refl 1) (by decide) 0
      sampleRequest with
    ⟨past, key, now, later, p, hRun⟩
  rcases (interleaved_hits_were_answered
      Recency.RecencyList.laws (sampleClient cachedConfig) 0
      (fun _ : Bool => .chat sampleRequest) _ p hRun past later
      true key (Sample.emptyResponse "answer") now rfl).2 with
    ⟨before, j, stamp, between, _, _, hPast, _⟩
  exact ⟨past, key, now, later, p, hRun, before, j, stamp,
    between, hPast⟩

end Solvela
