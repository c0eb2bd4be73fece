import Solvela.Cache.Operations
import Solvela.Client.Recording

/-
  Chat calls that fail.

  A call fails only in its conversation, and a conversation
  touches neither the cache nor the session store.  So every
  failure leaves both as the look-ups before the first
  request left them.

  Main declarations:
    * `runs_failed_chat`
    * `CacheLooked`, `SessionLooked`
    * `failed_chat_leaves`
-/

------------------------------------------------------------
-- What Look-Ups Leave
------------------------------------------------------------

namespace Solvela

open Recency

/-
  A cache after a look-up of `key` that found nothing at some
  moment of a call: what is left was there before, and at
  most an entry under the key, too old at that moment, was
  removed.
-/
structure CacheLooked
    {C : Type}
    {ops : LruOps C UInt64 CacheEntry}
    (laws : ops.Laws)
    (key : UInt64)
    (started ended : Nat)
    (before after : ResponseCache C) : Prop where
  settings : after.settings laws = before.settings laws
  kept : ∀ other entry,
    (after.entries laws).lookup other = some entry →
      (before.entries laws).lookup other = some entry
  entries :
    after.entries laws = before.entries laws ∨
      ∃ entry now,
        (before.entries laws).lookup key = some entry ∧
          started ≤ now ∧ now ≤ ended ∧
            before.ttl < now - entry.inserted ∧
              after.entries laws =
                dropKey key (before.entries laws)

/-
  A store after the look-up of a session: it is as it was, or
  there was none, or an expired one, and a new one is there.
-/
structure SessionLooked
    (sid : String)
    (started ended : Nat)
    (before after : SessionStore) : Prop where
  ttl : after.ttl = before.ttl
  others : ∀ id, id ≠ sid →
    after.sessions id = before.sessions id
  own :
    after.sessions sid = before.sessions sid ∨
      ∃ now created model,
        started ≤ now ∧ now ≤ created ∧ created ≤ ended ∧
          before.live now sid = none ∧
            after.sessions sid =
              some (.fresh created model)

variable {C : Type}
variable {ops : LruOps C UInt64 CacheEntry}

/- A look-up that misses leaves the cache so. -/
theorem cacheLooked_of_miss
    (laws : ops.Laws)
    {cache : ResponseCache C}
    {key : UInt64}
    {started now ended : Nat}
    (hMiss : (cache.get ops now key).1 = none)
    (hStarted : started ≤ now)
    (hEnded : now ≤ ended) :
    CacheLooked laws key started ended cache
      (cache.get ops now key).2 := by
  refine ⟨ResponseCache.settings_get laws cache now key,
    fun _ _ hEntry => ResponseCache.lookup_of_get laws hEntry,
    ?_⟩
  rcases ResponseCache.get_cases laws cache now key with
    ⟨_, _, hSame⟩ | ⟨entry, hFound, hOld, _, hEntries⟩ |
      ⟨entry, _, _, hHit, _⟩
  · rw [hSame]
    exact Or.inl rfl
  · exact Or.inr
      ⟨entry, now, hFound, hStarted, hEnded, hOld, hEntries⟩
  · rw [hMiss] at hHit
    cases hHit

end Solvela

------------------------------------------------------------
-- The Look-Ups Of A Call
------------------------------------------------------------

namespace Solvela

open Effects

namespace SolvelaClient

variable {X : Crates}
variable {client : SolvelaClient X}
variable {env : Env}
variable {req : ChatRequest}
variable {world world' : World X}

/-
  A chat call fails only after a look-up that found no
  answer, and then only exchanges messages.
-/
theorem runs_failed_chat
    {e : ClientError}
    (hRun : Runs (client.chat env req) world (.error e) world') :
    client.cachedAnswer env req world = none ∧
      ∃ es,
        world' = (client.cacheStep env req world).2.extend es ∧
          Conversation client client.chatUrl
            (client.effectiveRequest env req world) es
            (.error e) := by
  rcases runs_chat.mp hRun with
    ⟨_, _, hNo, _⟩ | ⟨hMissed, spoken, hSpeak, rfl⟩
  · cases hNo
  · rcases converse_spec hSpeak with ⟨es, rfl, hTalk⟩
    exact ⟨hMissed, es, rfl, hTalk⟩

/- A look-up in the cache may take time. -/
theorem cacheCheck_now_le
    (env : Env)
    (req : ChatRequest)
    (world : World X) :
    world.now ≤ (cacheCheck env req world).2.now := by
  unfold cacheCheck
  cases world.cache with
  | none => exact Nat.le_refl _
  | some cache => exact Nat.le_add_right _ _

/- A call does not start to keep a cache. -/
theorem cacheStep_no_cache
    (client : SolvelaClient X)
    (env : Env)
    (req : ChatRequest)
    (hCache : world.cache = none) :
    (client.cacheStep env req world).2.cache = none := by
  have hKept :
      (client.sessionStep env { req with stream := false }
        world).2.cache = none := by
    unfold sessionStep
    rw [sessionLookup_cache]
    exact hCache
  unfold cacheStep cacheCheck
  dsimp only
  rw [hKept]
  exact hKept

/- The session look-up leaves the store as said above. -/
theorem sessionLookup_looked
    {store : SessionStore}
    (hStore : world.sessionStore = some store)
    (env : Env)
    (req : ChatRequest)
    (usedFallback : Bool) :
    ∃ looked,
      (sessionLookup env req usedFallback
          world).2.sessionStore = some looked ∧
        ∀ ended,
          (sessionLookup env req usedFallback
              world).2.now ≤ ended →
            SessionLooked (sessionIdOf X req.messages)
              world.now ended store looked := by
  cases hLive :
      store.live (world.readClock env).1
        (sessionIdOf X req.messages) with
  | some entry =>
      refine ⟨store,
        (sessionLookup_of_live hStore hLive
          usedFallback).2, ?_⟩
      intro ended _
      exact
        { ttl := rfl
          others := fun _ _ => rfl
          own := Or.inl rfl }
  | none =>
      refine ⟨_,
        (sessionLookup_of_not_live hStore hLive
          usedFallback).2, ?_⟩
      have hFirst : world.now ≤ (world.readClock env).1 :=
        Nat.le_add_right _ _
      have hLast :
          (world.readClock env).1 ≤
            (sessionLookup env req usedFallback
              world).2.now := by
        unfold sessionLookup
        rw [hStore]
        exact (Nat.le_add_right _ _).trans
          (Nat.le_add_right _ _)
      intro ended hEnded
      exact
        { ttl := rfl
          others := fun _ hNe =>
            SessionStore.sessions_insert_of_ne _ hNe _
          own := Or.inr
            ⟨_, _, _, hFirst, hLast, hEnded, hLive,
              SessionStore.sessions_insert_self _ _ _⟩ }

end SolvelaClient

end Solvela

------------------------------------------------------------
-- Failed Calls
------------------------------------------------------------

namespace Solvela

open Effects

variable {X : Crates}

/- A failed call leaves the cache as its look-up left it. -/
theorem SolvelaClient.cacheLooked_of_failed
    {client : SolvelaClient X}
    {env : Env}
    {req : ChatRequest}
    {world world' : World X}
    {e : ClientError}
    (laws : X.lru.Laws)
    (hRun :
      Runs (client.chat env req) world (.error e) world') :
    Option.Rel
      (CacheLooked laws
        (SolvelaClient.requestKey X
          (client.effectiveRequest env req world))
        world.now world'.now)
      world.cache world'.cache := by
  rcases runs_failed_chat hRun with ⟨hMissed, es, rfl, _⟩
  change Option.Rel _ _ (client.cacheStep env req world).2.cache
  cases hCache : world.cache with
  | none =>
      have hNone :
          (client.cacheStep env req world).2.cache = none :=
        cacheStep_no_cache client env req hCache
      rw [hNone]
      exact .none
  | some cache =>
      rcases cacheStep_of_cache client env req hCache with
        ⟨hFirst, hAfter, hLater⟩
      have hMiss := congrArg Prod.snd hFirst
      rw [show (client.cacheStep env req world).1.2 = none
        from hMissed] at hMiss
      rw [hAfter]
      exact .some
        (cacheLooked_of_miss laws hMiss.symm hLater
          (Nat.le_refl _))

/- It leaves the session store as its look-up left it. -/
theorem SolvelaClient.sessionLooked_of_failed
    {client : SolvelaClient X}
    {env : Env}
    {req : ChatRequest}
    {world world' : World X}
    {e : ClientError}
    (hRun :
      Runs (client.chat env req) world (.error e) world') :
    Option.Rel
      (SessionLooked
        (SolvelaClient.sessionIdOf X req.messages)
        world.now world'.now)
      world.sessionStore world'.sessionStore := by
  rw [chat_sessionStore_of_unrecorded hRun (Or.inr ⟨e, rfl⟩)]
  rcases runs_failed_chat hRun with ⟨_, es, rfl, _⟩
  let guarded :=
    balanceGuard client.config world.balanceState
      { req with stream := false }
  change Option.Rel _ _
    (sessionLookup env guarded.1 guarded.2
      world).2.sessionStore
  cases hStore : world.sessionStore with
  | none =>
      rw [sessionLookup_of_no_sessions hStore]
      change Option.Rel _ _ world.sessionStore
      rw [hStore]
      exact .none
  | some store =>
      rcases sessionLookup_looked hStore env guarded.1
          guarded.2 with ⟨looked, hLooked, hLeaves⟩
      have hSid : guarded.1.messages = req.messages :=
        balanceGuard_messages _ _ _
      rw [hSid] at hLeaves
      rw [hLooked]
      exact .some (hLeaves _ (cacheCheck_now_le env _ _))

/-
  Every failed chat call leaves the cache and the session
  store as a look-up at some moment of the call leaves them,
  and the balance as it was.
-/
theorem failed_chat_leaves
    (laws : X.lru.Laws)
    (client : SolvelaClient X)
    (env : Env)
    (req : ChatRequest)
    (world world' : World X)
    (e : ClientError)
    (hRun :
      Runs (client.chat env req) world (.error e) world') :
    Option.Rel
        (CacheLooked laws
          (SolvelaClient.requestKey X
            (client.effectiveRequest env req world))
          world.now world'.now)
        world.cache world'.cache ∧
      Option.Rel
        (SessionLooked
          (SolvelaClient.sessionIdOf X req.messages)
          world.now world'.now)
        world.sessionStore world'.sessionStore ∧
        world'.balanceState = world.balanceState :=
  ⟨SolvelaClient.cacheLooked_of_failed laws hRun,
    SolvelaClient.sessionLooked_of_failed hRun,
    SolvelaClient.chat_balanceState hRun⟩

/- A cache, sessions, and a retry that is too expensive. -/
def strictConfig : ClientConfig :=
  { recordedConfig with enableQualityCheck := true }

/- A request that starts another conversation. -/
def otherRequest : ChatRequest :=
  { sampleRequest with
    messages :=
      [{ role := .user
         content := "Goodbye"
         name := none
         toolCalls := none
         toolCallId := none }] }

/- What a call leaves that a gateway answered for free. -/
def usedWorld : World sampleCrates :=
  final
    ((sampleClient strictConfig).chat
      (steadyEnv (.ok (responseOf 200 "answer")))
      sampleRequest)
    (World.new strictConfig 0)

/- One answer is cached, and its session is open. -/
def Used
    (world : World sampleCrates) : Prop :=
  world.cache.map (ResponseCache.len sampleCrates.lru) =
      some 1 ∧
    world.sessionStore.map (fun store =>
        (store.sessions
          (SolvelaClient.sessionIdOf sampleCrates
            sampleRequest.messages)).isSome) =
      some true

/-
  A call that fails after two payments leaves the answer and
  the session of the call before.
-/
theorem failed_chat_leaves_exceeded :
    Used usedWorld ∧
      ∃ world',
        Runs
            ((sampleClient strictConfig).chat sampleEnv
              otherRequest)
            usedWorld
            (.error (.budgetExceeded 20000000 10000000))
            world' ∧
          (∃ e ∈ world'.trace, e.request.payments ≠ []) ∧
            Option.Rel
                (CacheLooked Recency.RecencyList.laws
                  (SolvelaClient.requestKey sampleCrates
                    ((sampleClient
                        strictConfig).effectiveRequest
                      sampleEnv otherRequest usedWorld))
                  usedWorld.now world'.now)
                usedWorld.cache world'.cache ∧
              Option.Rel
                (SessionLooked
                  (SolvelaClient.sessionIdOf sampleCrates
                    otherRequest.messages)
                  usedWorld.now world'.now)
                usedWorld.sessionStore world'.sessionStore ∧
                world'.balanceState =
                  usedWorld.balanceState := by
  have hFrom :
      ∀ (client : SolvelaClient sampleCrates)
        (world spoken : World sampleCrates) (e : ClientError),
        spoken =
            final (client.chat sampleEnv otherRequest)
              world →
          thrown (client.chat sampleEnv otherRequest) world =
              some e →
            (∃ x ∈ spoken.trace, x.request.payments ≠ []) →
              ∃ world',
                Runs (client.chat sampleEnv otherRequest)
                    world (.error e) world' ∧
                  (∃ x ∈ world'.trace,
                    x.request.payments ≠ []) ∧
                    Option.Rel
                        (CacheLooked Recency.RecencyList.laws
                          (SolvelaClient.requestKey
                            sampleCrates
                            (client.effectiveRequest sampleEnv
                              otherRequest world))
                          world.now world'.now)
                        world.cache world'.cache ∧
                      Option.Rel
                        (SessionLooked
                          (SolvelaClient.sessionIdOf
                            sampleCrates
                            otherRequest.messages)
                          world.now world'.now)
                        world.sessionStore
                        world'.sessionStore ∧
                        world'.balanceState =
                          world.balanceState := by
    intro client world spoken e hSpoken hThrown hPaid
    have hRun := runs_of_thrown hThrown
    rw [← hSpoken] at hRun
    exact ⟨spoken, hRun, hPaid,
      failed_chat_leaves Recency.RecencyList.laws client
        sampleEnv otherRequest world spoken e hRun⟩
  have hUsed : Used usedWorld := by
    unfold Used
    decide +kernel
  exact ⟨hUsed,
    hFrom (sampleClient strictConfig) usedWorld _
      (.budgetExceeded 20000000 10000000) rfl
      (by decide +kernel) (by decide +kernel)⟩

end Solvela
