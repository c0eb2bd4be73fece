import Solvela.Cache.Operations
import Solvela.Client.Charging
import Solvela.Client.Runs

/-
  Answers from the cache.

  The cache key covers the model and the role and content of
  each message.  So a cached answer was given to a request
  that agrees in these; the other fields of a request do not
  count.

  Main declarations:
    * `Gave`, `Conversation.gave`
    * `CacheUse`, `CallStep.cacheUse`
    * `SameConversation`
    * `cache_transparent`
    * `cache_not_transparent`
-/

------------------------------------------------------------
-- Answers Of The Gateway
------------------------------------------------------------

namespace Solvela

variable {X : Crates}

/- The gateway answered the request with the response. -/
def Gave
    (X : Crates)
    (req : ChatRequest)
    (response : ChatResponse)
    (e : Exchange) : Prop :=
  e.peer = .gateway ∧ e.request.body = .chat req ∧
    ∃ resp text, e.reply = .ok resp ∧ resp.status = 200 ∧
      resp.body = .ok text ∧
        X.chatResponseFromStr text = .ok response

variable {client : SolvelaClient X}
variable {url : String}
variable {headers : List Header}
variable {req : ChatRequest}
variable {response : ChatResponse}

theorem Posts.gave_of_probe
    {e : Exchange}
    (hPosts : Posts url headers req e)
    (hAnswer : probeOutcome X e = .ok (.inl response)) :
    Gave X req response e := by
  refine ⟨hPosts.peer, by rw [hPosts.request]; rfl, ?_⟩
  rcases probeOutcome_ok hAnswer with
    ⟨resp, hReply, ⟨hOk, _, hSame, hRead⟩ | ⟨_, _, hNo, _⟩⟩
  · cases hSame
    rcases Effects.bind_eq_ok_iff.mp hRead with
      ⟨text, hText, hParsed⟩
    exact ⟨resp, text, hReply, hOk,
      Effects.mapError_eq_ok_iff.mp hText,
      Effects.mapError_eq_ok_iff.mp hParsed⟩
  · cases hNo

theorem Posts.gave_of_payment
    {e : Exchange}
    (hPosts : Posts url headers req e)
    (hAnswer : paidOutcome X e = .ok response) :
    Gave X req response e := by
  refine ⟨hPosts.peer, by rw [hPosts.request]; rfl, ?_⟩
  unfold paidOutcome replyOutcome at hAnswer
  cases hReply : e.reply with
  | error err =>
      rw [hReply] at hAnswer
      cases hAnswer
  | ok resp =>
      rw [hReply] at hAnswer
      rcases Effects.bind_eq_ok_iff.mp hAnswer with
        ⟨text, hText, hRest⟩
      by_cases hOk : resp.status = 200
      · rw [if_pos hOk] at hRest
        exact ⟨resp, text, rfl, hOk,
          Effects.mapError_eq_ok_iff.mp hText,
          Effects.mapError_eq_ok_iff.mp hRest⟩
      · rw [if_neg hOk] at hRest
        by_cases hPay : resp.status = 402
        · rw [if_pos hPay] at hRest
          cases hRest
        · rw [if_neg hPay] at hRest
          cases hRest

/- A successful attempt ends with an answer. -/
theorem Attempt.gave
    {es : List Exchange}
    {amount : Option UInt64}
    (hAttempt :
      Attempt client url headers req es
        (.ok (response, amount))) :
    ∃ e ∈ es, Gave X req response e := by
  generalize hOutcome :
    (Except.ok (response, amount) :
      Except ClientError (ChatResponse × Option UInt64)) =
        r at hAttempt
  cases hAttempt with
  | answered hProbe hAnswer =>
      cases hOutcome
      exact ⟨_, List.mem_cons_self,
        hProbe.gave_of_probe hAnswer⟩
  | failed _ _ => cases hOutcome
  | refused _ _ _ _ => cases hOutcome
  | @paid probe payment required rpcs paid header _ _ _ _
      hPayment =>
      rcases Effects.map_eq_ok_iff.mp hOutcome.symm with
        ⟨found, hPaid, hSame⟩
      cases hSame
      exact ⟨payment, by simp,
        hPayment.gave_of_payment hPaid⟩

/-
  The retry loop returns the response it started from, or an
  answer to a retry.
-/
theorem Retries.gave
    {attempts : Nat}
    {first last : ChatResponse}
    {total : UInt64}
    {es : List Exchange}
    {r : Except ClientError ChatResponse}
    (hRetries :
      Retries client url req attempts first total es r)
    (hDone : r = .ok last) :
    last = first ∨ ∃ e ∈ es, Gave X req last e := by
  induction hRetries with
  | exhausted =>
      cases hDone
      exact Or.inl rfl
  | accepted _ =>
      cases hDone
      exact Or.inl rfl
  | failed _ _ => cases hDone
  | overspent _ _ _ => cases hDone
  | answered _ hAttempt _ ih =>
      right
      rcases ih hDone with rfl | ⟨e, hMem, hGave⟩
      · rcases hAttempt.gave with ⟨e, hMem, hGave⟩
        exact ⟨e, List.mem_append_left _ hMem, hGave⟩
      · exact ⟨e, List.mem_append_right _ hMem, hGave⟩
  | paid _ hAttempt _ _ ih =>
      right
      rcases ih hDone with rfl | ⟨e, hMem, hGave⟩
      · rcases hAttempt.gave with ⟨e, hMem, hGave⟩
        exact ⟨e, List.mem_append_left _ hMem, hGave⟩
      · exact ⟨e, List.mem_append_right _ hMem, hGave⟩

/- A conversation returns an answer of the gateway. -/
theorem Conversation.gave
    {es : List Exchange}
    (hTalk :
      Conversation client url req es (.ok response)) :
    ∃ e ∈ es, Gave X req response e := by
  cases hTalk with
  | unchecked _ hAttempt => exact hAttempt.gave
  | checked _ hAttempt hRetries =>
      rcases hRetries.gave rfl with rfl | ⟨e, hMem, hGave⟩
      · rcases hAttempt.gave with ⟨e, hMem, hGave⟩
        exact ⟨e, List.mem_append_left _ hMem, hGave⟩
      · exact ⟨e, List.mem_append_right _ hMem, hGave⟩

end Solvela

------------------------------------------------------------
-- The Cache During A Run
------------------------------------------------------------

namespace Solvela

open Effects

variable {X : Crates}

/- The key that the call looks for in the cache. -/
def ChatCall.cacheKey
    (client : SolvelaClient X)
    (env : Env)
    (c : ChatCall X) : UInt64 :=
  SolvelaClient.requestKey X (c.effective client env)

/-
  What a call did with the cache: a streaming call nothing; a
  chat call returned a hit, or failed after a miss, or stored
  the gateway's answer after a miss.
-/
inductive CacheUse
    (client : SolvelaClient X)
    (env : Env)
    (c : ChatCall X)
    (cache : ResponseCache X.LruCache) :
    ResponseCache X.LruCache → Prop where
  | streamed
      (hStreaming : c.streaming = true)
      (hAnswer : c.answer = none) :
      CacheUse client env c cache cache
  | hit
      {response : ChatResponse}
      (hChat : c.streaming = false)
      (hFound :
        (cache.get X.lru c.ended
          (c.cacheKey client env)).1 = some response)
      (hAnswer : c.answer = some response)
      (hSent : c.sent = []) :
      CacheUse client env c cache
        (cache.get X.lru c.ended (c.cacheKey client env)).2
  | failed
      {now : Nat}
      (hChat : c.streaming = false)
      (hMiss :
        (cache.get X.lru now (c.cacheKey client env)).1 =
          none)
      (hAnswer : c.answer = none) :
      CacheUse client env c cache
        (cache.get X.lru now (c.cacheKey client env)).2
  | stored
      {now later : Nat}
      {response : ChatResponse}
      (hChat : c.streaming = false)
      (hMiss :
        (cache.get X.lru now (c.cacheKey client env)).1 =
          none)
      (hAnswer : c.answer = some response)
      (hGave : ∃ e ∈ c.sent,
        Gave X (c.effective client env) response e) :
      CacheUse client env c cache
        ((cache.get X.lru now
          (c.cacheKey client env)).2.put X.lru later c.ended
            (c.cacheKey client env) response)

/- A call uses the cache so, and the clock does not go back. -/
theorem CallStep.cacheUse
    {client : SolvelaClient X}
    {env : Env}
    {before after : World X}
    {c : ChatCall X}
    {cache : ResponseCache X.LruCache}
    (hStep : CallStep client env before c after)
    (hCache : before.cache = some cache) :
    before.now ≤ c.ended ∧ after.now = c.ended ∧
      ∃ cache', after.cache = some cache' ∧
        CacheUse client env c cache cache' := by
  have hStart : c.start.cache = some cache :=
    hStep.between.cache.trans hCache
  cases hStep with
  | @stream start _ req sent r hBetween hRun hSent =>
      refine ⟨?_, rfl, cache, ?_, .streamed rfl rfl⟩
      · apply hBetween.now_le.trans
        change start.now ≤ after.now
        rw [SolvelaClient.chatStream_now hRun]
        exact SolvelaClient.sessionLookup_now_le env _ _ _
      · exact (SolvelaClient.chatStream_cache hRun).trans
          hStart
  | @chat start _ req sent r hBetween hRun hSent =>
      have hEarlier : before.now ≤ start.now :=
        hBetween.now_le
      rcases SolvelaClient.cacheStep_of_cache client env req
          hStart with
        ⟨hLooked, hLeft, hLater⟩
      rcases SolvelaClient.runs_chat.mp hRun with
        ⟨cached, hCached, rfl, rfl⟩ |
          ⟨hMissed, spoken, hSpeak, rfl⟩
      · rw [hLooked] at hCached
        rw [SolvelaClient.cacheStep_trace] at hSent
        refine ⟨hEarlier.trans hLater, rfl, _, hLeft,
          .hit rfl hCached rfl ?_⟩
        simpa using hSent
      · rw [hLooked] at hMissed
        rcases SolvelaClient.converse_spec hSpeak with
          ⟨es, rfl, hTalk⟩
        rw [SolvelaClient.finish_trace] at hSent
        change (client.cacheStep env req start).2.trace ++
          es = _ at hSent
        rw [SolvelaClient.cacheStep_trace] at hSent
        cases List.append_cancel_left hSent
        cases r with
        | error err =>
            exact ⟨hEarlier.trans hLater, rfl, _, hLeft,
              .failed rfl hMissed rfl⟩
        | ok response =>
            have hSpoken :
                ((client.cacheStep env req start).2.extend
                  sent).cache = _ :=
              hLeft
            rcases SolvelaClient.finish_cache
                (congrArg Prod.fst hLooked) hSpoken
                response with
              ⟨now, hNow, hEnd, hStored⟩
            exact ⟨(hEarlier.trans hLater).trans
                (hNow.trans hEnd), rfl, _, hStored,
              .stored rfl hMissed rfl hTalk.gave⟩

end Solvela

------------------------------------------------------------
-- Cached Answers Were Given
------------------------------------------------------------

namespace Solvela

open Transitions

variable {X : Crates}
variable {client : SolvelaClient X}
variable {env : Env}

/- An earlier call that asked for a key and was answered. -/
structure AnsweredFor
    (client : SolvelaClient X)
    (env : Env)
    (key : UInt64)
    (entry : CacheEntry)
    (c : ChatCall X) : Prop where
  chat : c.streaming = false
  key_eq : c.cacheKey client env = key
  ended_eq : c.ended = entry.inserted
  answer_eq : c.answer = some entry.response
  gave : ∃ e ∈ c.sent,
    Gave X (c.effective client env) entry.response e

/- Each cached response was given to an earlier call. -/
def CacheGiven
    (laws : X.lru.Laws)
    (client : SolvelaClient X)
    (env : Env)
    (past : List (ChatCall X))
    (world : World X) : Prop :=
  ∃ cache, world.cache = some cache ∧
    cache.settings laws =
        (ResponseCache.new X.lru).settings laws ∧
      ∀ key entry,
        (cache.entries laws).lookup key = some entry →
          entry.inserted ≤ world.now ∧
            ∃ c ∈ past, AnsweredFor client env key entry c

theorem cacheGiven_new
    (laws : X.lru.Laws)
    (hCache : client.config.enableCache = true)
    (now : Nat) :
    CacheGiven laws client env []
      (World.new client.config now) := by
  refine ⟨ResponseCache.new X.lru, ?_, rfl, ?_⟩
  · unfold World.new
    rw [hCache]
    rfl
  · intro key entry hEntry
    unfold ResponseCache.new at hEntry
    rw [ResponseCache.entries_withConfig] at hEntry
    cases hEntry

/- Every call keeps this. -/
theorem CacheGiven.step
    {laws : X.lru.Laws}
    {past : List (ChatCall X)}
    {before after : World X}
    {c : ChatCall X}
    (hGiven : CacheGiven laws client env past before)
    (hStep : CallStep client env before c after) :
    CacheGiven laws client env (past ++ [c]) after := by
  rcases hGiven with ⟨cache, hCache, hSettings, hEntries⟩
  rcases hStep.cacheUse hCache with
    ⟨hLater, hNow, cache', hAfter, hUse⟩
  have hKept :
      ∀ key entry,
        (cache.entries laws).lookup key = some entry →
          entry.inserted ≤ after.now ∧
            ∃ c' ∈ past ++ [c],
              AnsweredFor client env key entry c' := by
    intro key entry hEntry
    rcases hEntries key entry hEntry with
      ⟨hStamp, c', hMem, hAnswered⟩
    rw [hNow]
    exact ⟨hStamp.trans hLater, c',
      List.mem_append_left _ hMem, hAnswered⟩
  refine ⟨cache', hAfter, ?_, ?_⟩
  · cases hUse with
    | streamed _ _ => exact hSettings
    | hit _ _ _ _ =>
        rw [ResponseCache.settings_get]
        exact hSettings
    | failed _ _ _ =>
        rw [ResponseCache.settings_get]
        exact hSettings
    | stored _ _ _ _ =>
        rw [ResponseCache.settings_put,
          ResponseCache.settings_get]
        exact hSettings
  · intro key entry hEntry
    cases hUse with
    | streamed _ _ => exact hKept key entry hEntry
    | hit _ _ _ _ =>
        exact hKept key entry
          (ResponseCache.lookup_of_get laws hEntry)
    | failed _ _ _ =>
        exact hKept key entry
          (ResponseCache.lookup_of_get laws hEntry)
    | stored hChat _ hAnswer hGave =>
        rcases ResponseCache.lookup_of_put laws hEntry with
          hOld | ⟨hKey, hNew⟩
        · exact hKept key entry
            (ResponseCache.lookup_of_get laws hOld)
        · rw [hNew, hNow, hKey]
          exact ⟨Nat.le_refl _, c,
            List.mem_append_right _
              (List.mem_singleton.mpr rfl),
            { chat := hChat
              key_eq := rfl
              ended_eq := rfl
              answer_eq := hAnswer
              gave := hGave }⟩

theorem cacheGiven_of_run
    (laws : X.lru.Laws)
    (hCache : client.config.enableCache = true)
    {now : Nat}
    {calls : List (ChatCall X)}
    {world : World X}
    (hRun :
      LabelledRun (CallStep client env)
        (World.new client.config now) calls world) :
    CacheGiven laws client env calls world :=
  hRun.invariant (CacheGiven laws client env)
    (cacheGiven_new laws hCache now)
    (fun _ _ _ _ _ hPast hStep => hPast.step hStep)

/- An answer without an exchange is a hit of a live entry. -/
theorem CallStep.entry_of_hit
    (laws : X.lru.Laws)
    {before after : World X}
    {c : ChatCall X}
    {cache : ResponseCache X.LruCache}
    {response : ChatResponse}
    (hStep : CallStep client env before c after)
    (hCache : before.cache = some cache)
    (hSent : c.sent = [])
    (hAnswer : c.answer = some response) :
    before.now ≤ c.ended ∧ c.streaming = false ∧
      ∃ entry, entry.response = response ∧
        (cache.entries laws).lookup
            (c.cacheKey client env) = some entry ∧
          c.ended - entry.inserted ≤ cache.ttl := by
  rcases hStep.cacheUse hCache with
    ⟨hLater, _, cache', _, hUse⟩
  cases hUse with
  | streamed _ hNone =>
      rw [hNone] at hAnswer
      cases hAnswer
  | hit hChat hFound hHit _ =>
      rw [hAnswer] at hHit
      cases hHit
      refine ⟨hLater, hChat, ?_⟩
      rcases ResponseCache.get_cases laws cache c.ended
          (c.cacheKey client env) with
        ⟨_, hMiss, _⟩ | ⟨_, _, _, hMiss, _⟩ |
          ⟨entry, hEntry, hAge, hGot, _⟩
      · rw [hMiss] at hFound
        cases hFound
      · rw [hMiss] at hFound
        cases hFound
      · rw [hGot] at hFound
        cases hFound
        exact ⟨entry, rfl, hEntry, hAge⟩
  | failed _ _ hNone =>
      rw [hNone] at hAnswer
      cases hAnswer
  | stored _ _ _ hGave =>
      rcases hGave with ⟨e, hMem, _⟩
      rw [hSent] at hMem
      cases hMem

end Solvela

------------------------------------------------------------
-- Transparency
------------------------------------------------------------

namespace Solvela

open Transitions

variable {X : Crates}

/-
  Two requests for the same model, with the same authors and
  texts in turn.
-/
structure SameConversation
    (a b : ChatRequest) : Prop where
  model : a.model = b.model
  messages : List.Forall₂ SameMessage a.messages b.messages

/- The bytes that a call hashes for its cache key. -/
def ChatCall.keyStream
    (client : SolvelaClient X)
    (env : Env)
    (c : ChatCall X) : List UInt8 :=
  ResponseCache.cacheKeyStream X.roleToString
    (c.effective client env).model
    (c.effective client env).messages

/- No two hashed streams of the calls collide. -/
def CollisionFree
    (client : SolvelaClient X)
    (env : Env)
    (calls : List (ChatCall X)) : Prop :=
  ∀ c ∈ calls, ∀ c' ∈ calls,
    c.streaming = false → c'.streaming = false →
      X.aHasher (c.keyStream client env) =
          X.aHasher (c'.keyStream client env) →
        c.keyStream client env = c'.keyStream client env

/-
  In every run, an answer from the cache was given by the
  gateway to an earlier call without streaming, which stored
  it no longer than the lifetime ago, for the same model and
  messages with the same authors and texts.
-/
theorem cache_transparent
    (laws : X.lru.Laws)
    (hRoles : Function.Injective X.roleToString)
    (client : SolvelaClient X)
    (hCache : client.config.enableCache = true)
    (env : Env)
    (now : Nat)
    (calls : List (ChatCall X))
    (world : World X)
    (hRun :
      LabelledRun (CallStep client env)
        (World.new client.config now) calls world)
    (hCollisionFree : CollisionFree client env calls) :
    ∀ past c rest response,
      calls = past ++ c :: rest →
        c.sent = [] → c.answer = some response →
          ∃ earlier ∈ past,
            earlier.streaming = false ∧
            (∃ e ∈ earlier.sent,
              Gave X (earlier.effective client env) response
                e) ∧
            SameConversation (earlier.effective client env)
              (c.effective client env) ∧
            earlier.ended ≤ c.ended ∧
            c.ended ≤ earlier.ended +
              durationFromSecs
                ResponseCache.defaultTtlSecs := by
  intro past c rest response hCalls hSent hAnswer
  rw [hCalls] at hRun hCollisionFree
  rcases labelledRun_append.mp hRun with
    ⟨before, hBefore, after, hStep, _⟩
  rcases cacheGiven_of_run laws hCache hBefore with
    ⟨cache, hHas, hSettings, hEntries⟩
  have hTtl :
      cache.ttl =
        durationFromSecs ResponseCache.defaultTtlSecs :=
    congrArg ResponseCache.Settings.ttl hSettings
  rcases hStep.entry_of_hit laws hHas hSent hAnswer with
    ⟨hLater, hChat, entry, rfl, hFound, hAge⟩
  rcases hEntries _ entry hFound with
    ⟨hStamp, earlier, hMem, hAnswered⟩
  have hStreams :
      earlier.keyStream client env =
        c.keyStream client env :=
    hCollisionFree earlier (List.mem_append_left _ hMem) c
      (List.mem_append_right _ List.mem_cons_self)
      hAnswered.chat hChat hAnswered.key_eq
  rcases ResponseCache.cacheKeyStream_injective hRoles
      hStreams with ⟨hModel, hMessages⟩
  rw [hTtl] at hAge
  refine ⟨earlier, hMem, hAnswered.chat, hAnswered.gave,
    { model := hModel, messages := hMessages }, ?_, ?_⟩
  · rw [hAnswered.ended_eq]
    exact hStamp.trans hLater
  · rw [hAnswered.ended_eq]
    omega

end Solvela

------------------------------------------------------------
-- Requests That Share An Answer
------------------------------------------------------------

namespace Solvela

open Effects Transitions

variable {X : Crates}
variable {client : SolvelaClient X}
variable {env : Env}

/- An answered call leaves its answer in the cache. -/
theorem CallStep.caches
    (laws : X.lru.Laws)
    {before after : World X}
    {c : ChatCall X}
    {cache : ResponseCache X.LruCache}
    {response : ChatResponse}
    (hStep : CallStep client env before c after)
    (hCache : before.cache = some cache)
    (hCapacity : 0 < (cache.settings laws).capacity)
    (hSent : c.sent ≠ [])
    (hAnswer : c.answer = some response) :
    ∃ cache', after.cache = some cache' ∧
      cache'.settings laws = cache.settings laws ∧
        (cache'.entries laws).lookup
            (c.cacheKey client env) =
          some
            { response := response, inserted := after.now } := by
  rcases hStep.cacheUse hCache with
    ⟨_, hNow, cache', hAfter, hUse⟩
  cases hUse with
  | streamed _ hNone =>
      rw [hNone] at hAnswer
      cases hAnswer
  | hit _ _ _ hNone => exact absurd hNone hSent
  | failed _ _ hNone =>
      rw [hNone] at hAnswer
      cases hAnswer
  | @stored now later found _ hMiss hFound _ =>
      rw [hAnswer] at hFound
      cases hFound
      refine ⟨_, hAfter, ?_, ?_⟩
      · rw [ResponseCache.settings_put,
          ResponseCache.settings_get]
      · have hAbsent :=
          ResponseCache.lookup_of_miss laws hMiss
        have hStored :
            (cache.get X.lru now
              (c.cacheKey client env)).2.suppresses X.lru
                later (c.cacheKey client env) = false := by
          apply Bool.eq_false_iff.mpr
          intro hDropped
          rcases (ResponseCache.suppresses_iff laws _ _
            _).mp hDropped with ⟨entry, hEntry, _⟩
          rw [hAbsent] at hEntry
          cases hEntry
        rw [ResponseCache.entries_put laws hStored, hNow]
        apply Recency.lookup_touch_self
        rw [ResponseCache.settings_get]
        exact hCapacity

/- A call that finds a live entry returns it. -/
theorem exists_hitStep
    (laws : X.lru.Laws)
    {world : World X}
    {cache : ResponseCache X.LruCache}
    {entry : CacheEntry}
    {req : ChatRequest}
    (hCache : world.cache = some cache)
    (hFound :
      (cache.entries laws).lookup
          (SolvelaClient.requestKey X
            (client.effectiveRequest env req world)) =
        some entry)
    (hLive :
      (client.cacheStep env req world).2.now -
          entry.inserted ≤ cache.ttl) :
    ∃ c,
      CallStep client env world c
          (client.cacheStep env req world).2 ∧
        c.request = req ∧ c.streaming = false ∧
          c.start = world ∧ c.sent = [] ∧
            c.answer = some entry.response := by
  rcases SolvelaClient.cacheStep_of_cache client env req
      hCache with ⟨hLooked, _, _⟩
  have hHit :
      (client.cacheStep env req world).1.2 =
        some entry.response := by
    rw [hLooked]
    exact ResponseCache.get_of_live laws hFound hLive
  have hRun :
      Runs (client.chat env req) world (.ok entry.response)
        (client.cacheStep env req world).2 :=
    SolvelaClient.runs_chat.mpr
      (Or.inl ⟨_, hHit, rfl, rfl⟩)
  have hTrace :
      (client.cacheStep env req world).2.trace =
        world.trace ++ [] := by
    rw [SolvelaClient.cacheStep_trace, List.append_nil]
  exact ⟨_, .chat (Between.refl world) hRun hTrace, rfl,
    rfl, rfl, rfl, rfl⟩

/-
  After an answered call on a new cache, a quick call with
  the same key is answered alike, without an exchange.
-/
theorem exists_repeatStep
    (laws : X.lru.Laws)
    {start mid : World X}
    {first : ChatCall X}
    {response : ChatResponse}
    (hFirst : CallStep client env start first mid)
    (hCache : start.cache = some (ResponseCache.new X.lru))
    (hSent : first.sent ≠ [])
    (hAnswer : first.answer = some response)
    {limit : Nat}
    (hQuick : ∀ n, env.delay n ≤ limit)
    (hLimit :
      4 * limit ≤
        durationFromSecs ResponseCache.defaultTtlSecs)
    {req : ChatRequest}
    (hKey :
      SolvelaClient.requestKey X
          (client.effectiveRequest env req mid) =
        first.cacheKey client env) :
    ∃ second,
      CallStep client env mid second
          (client.cacheStep env req mid).2 ∧
        second.request = req ∧ second.streaming = false ∧
          second.start = mid ∧ second.sent = [] ∧
            second.answer = some response := by
  have hCapacity :
      0 < ((ResponseCache.new X.lru).settings
        laws).capacity := by
    have hSettings :
        (ResponseCache.new X.lru).settings laws = _ :=
      ResponseCache.settings_withConfig laws _ _ _
    rw [hSettings]
    exact Nat.le_max_left 1 _
  rcases hFirst.caches laws hCache hCapacity hSent hAnswer with
    ⟨cache, hMidCache, hSettings, hEntry⟩
  have hTtl :
      cache.ttl =
        durationFromSecs ResponseCache.defaultTtlSecs :=
    congrArg ResponseCache.Settings.ttl hSettings
  rw [← hKey] at hEntry
  have hNow :=
    SolvelaClient.cacheStep_now_quick client hQuick req mid
  apply exists_hitStep laws hMidCache hEntry
  rw [hTtl]
  exact Nat.sub_le_iff_le_add'.mpr
    (hNow.trans (Nat.add_le_add_left hLimit _))

/- A call without sessions sends the request as it is. -/
theorem ChatCall.effective_of_plain
    (hFallback : client.config.freeFallbackModel = none)
    {c : ChatCall X}
    (hChat : c.streaming = false)
    (hStore : c.start.sessionStore = none) :
    c.effective client env =
      { c.request with stream := false } := by
  unfold ChatCall.effective ChatCall.given
  rw [hChat,
    SolvelaClient.sessionStep_of_plain hFallback hStore]
  rfl

theorem World.cache_new
    (hCache : client.config.enableCache = true)
    (now : Nat) :
    (World.new (X := X) client.config now).cache =
      some (ResponseCache.new X.lru) := by
  unfold World.new
  rw [hCache]
  rfl

/- A new client has no answer to any request. -/
theorem cachedAnswer_new
    (laws : X.lru.Laws)
    (hCache : client.config.enableCache = true)
    (now : Nat)
    (req : ChatRequest) :
    client.cachedAnswer env req
      (World.new client.config now) = none := by
  unfold SolvelaClient.cachedAnswer
  rw [(SolvelaClient.cacheStep_of_cache client env req
    (World.cache_new hCache now)).1]
  apply ResponseCache.get_of_lookup_none laws
  have hEntries :
      (ResponseCache.new X.lru).entries laws = [] :=
    ResponseCache.entries_withConfig laws _ _ _
  rw [hEntries]
  rfl

/-
  With the cache on, a request shares the answer to an
  earlier one that has the same model and messages.
-/
theorem exists_shared_answer
    {payTo : String}
    {amount : UInt64}
    {demand : Demand X payTo amount}
    (laws : X.lru.Laws)
    (P : Payable X)
    (hAcceptable : demand.Acceptable client.config)
    (hReply : env.reply = demand.reply)
    (hCache : client.config.enableCache = true)
    (hSessions : client.config.enableSessions = false)
    (hFallback : client.config.freeFallbackModel = none)
    (hOff : client.config.enableQualityCheck = false)
    {limit : Nat}
    (hQuick : ∀ n, env.delay n ≤ limit)
    (hLimit :
      4 * limit ≤
        durationFromSecs ResponseCache.defaultTtlSecs)
    (now : Nat)
    (req req' : ChatRequest)
    (hModel : req.model = req'.model)
    (hMessages : req.messages = req'.messages) :
    ∃ first second world,
      LabelledRun (CallStep client env)
          (World.new client.config now) [first, second]
          world ∧
        first.streaming = false ∧
          first.effective client env =
            { req with stream := false } ∧
          second.streaming = false ∧
            second.effective client env =
              { req' with stream := false } ∧
              second.sent = [] ∧
                second.answer = some demand.response := by
  let start := World.new (X := X) client.config now
  have hStart :
      start.cache = some (ResponseCache.new X.lru) :=
    World.cache_new hCache now
  have hNoStore : start.sessionStore = none := by
    change (World.new client.config now).sessionStore = _
    unfold World.new
    rw [hSessions]
    rfl
  rcases hAcceptable.exists_paid_answer P env hReply req start
      (cachedAnswer_new laws hCache now req) hOff with
    ⟨mid, es, hRun, hTrace, hSent⟩
  let first : ChatCall X :=
    { streaming := false
      request := req
      start := start
      sent := es
      answer := some demand.response
      ended := mid.now }
  have hFirst : CallStep client env start first mid :=
    .chat (Between.refl start) hRun hTrace
  have hMidStore : mid.sessionStore = none :=
    SolvelaClient.chat_keeps_no_sessions hRun hNoStore
  have hEffective :
      first.effective client env =
        { req with stream := false } :=
    ChatCall.effective_of_plain hFallback rfl hNoStore
  have hKey :
      SolvelaClient.requestKey X
          (client.effectiveRequest env req' mid) =
        first.cacheKey client env := by
    unfold ChatCall.cacheKey SolvelaClient.requestKey
    rw [hEffective, SolvelaClient.effectiveRequest_of_plain
      hFallback hMidStore]
    simp only [hModel, hMessages]
  rcases exists_repeatStep laws hFirst hStart hSent rfl hQuick
      hLimit hKey with
    ⟨second, hSecond, hRequest, hChat, hBegin, hNone,
      hAnswer⟩
  have hShared :
      second.effective client env =
        { req' with stream := false } := by
    rw [← hRequest]
    apply ChatCall.effective_of_plain hFallback hChat
    rw [hBegin]
    exact hMidStore
  exact ⟨first, second, _,
    ⟨mid, hFirst, _, hSecond, rfl⟩, rfl, hEffective,
    hChat, hShared, hNone, hAnswer⟩

/- The default configuration with the cache on. -/
def cachedConfig : ClientConfig :=
  { ClientConfig.default with enableCache := true }

/- A run of the sample client with a cache. -/
def cachedRun
    (calls : List (ChatCall sampleCrates))
    (world : World sampleCrates) : Prop :=
  LabelledRun
    (CallStep (sampleClient cachedConfig) sampleEnv)
    (World.new cachedConfig 0) calls world

/- The sample request, with more tokens to be generated. -/
def longerRequest : ChatRequest :=
  { sampleRequest with maxTokens := some 4096 }

theorem exists_cachedRun :
    ∃ first second world,
      cachedRun [first, second] world ∧
        first.streaming = false ∧
          first.effective (sampleClient cachedConfig)
              sampleEnv = sampleRequest ∧
            second.streaming = false ∧
              second.effective (sampleClient cachedConfig)
                  sampleEnv = longerRequest ∧
                second.sent = [] ∧
                  second.answer =
                    some sampleDemand.response := by
  have hAcceptable :
      sampleDemand.Acceptable
        (sampleClient cachedConfig).config :=
    sampleDemand_acceptable rfl rfl
  have hLimit :
      4 * 1 ≤
        durationFromSecs ResponseCache.defaultTtlSecs := by
    decide
  exact exists_shared_answer Recency.RecencyList.laws
    sampleCrates_payable hAcceptable rfl rfl rfl rfl rfl
    (fun _ => Nat.le_refl 1) hLimit 0 sampleRequest longerRequest rfl rfl

/- Both calls of such a run hash the same stream. -/
theorem collisionFree_pair
    {first second : ChatCall sampleCrates}
    (hFirst :
      first.effective (sampleClient cachedConfig) sampleEnv =
        sampleRequest)
    (hSecond :
      second.effective (sampleClient cachedConfig)
        sampleEnv = longerRequest) :
    CollisionFree (sampleClient cachedConfig) sampleEnv
      [first, second] := by
  have hStream :
      ∀ c ∈ [first, second],
        c.keyStream (sampleClient cachedConfig) sampleEnv =
          ResponseCache.cacheKeyStream
            sampleCrates.roleToString sampleRequest.model
            sampleRequest.messages := by
    intro c hMem
    unfold ChatCall.keyStream
    rcases List.mem_pair.mp hMem with rfl | rfl
    · rw [hFirst]
    · rw [hSecond]
      rfl
  intro c hMem c' hMem' _ _ _
  rw [hStream c hMem, hStream c' hMem']

/- Such a run shares the answer to the same conversation. -/
theorem cache_transparent_default :
    ∃ first second world,
      cachedRun [first, second] world ∧ second.sent = [] ∧
        first.streaming = false ∧
        (∃ e ∈ first.sent,
          Gave sampleCrates
            (first.effective (sampleClient cachedConfig)
              sampleEnv)
            sampleDemand.response e) ∧
          SameConversation
            (first.effective (sampleClient cachedConfig)
              sampleEnv)
            (second.effective (sampleClient cachedConfig)
              sampleEnv) := by
  rcases exists_cachedRun with
    ⟨first, second, world, hRun, _, hFirst, _, hSecond,
      hSent, hAnswer⟩
  rcases cache_transparent Recency.RecencyList.laws
      sampleCrates_roles (sampleClient cachedConfig) rfl
      sampleEnv 0 [first, second] world hRun
      (collisionFree_pair hFirst hSecond) [first] second []
      sampleDemand.response rfl hSent hAnswer with
    ⟨earlier, hMem, hChat, hGave, hSame, _, _⟩
  rw [List.mem_singleton.mp hMem] at hChat hGave hSame
  exact ⟨first, second, world, hRun, hSent, hChat, hGave,
    hSame⟩

/-
  The second request asks for more tokens.  It is answered
  from the cache, and the gateway never saw its body.
-/
theorem cache_not_transparent :
    ∃ first second world,
      cachedRun [first, second] world ∧
        CollisionFree (sampleClient cachedConfig) sampleEnv
          [first, second] ∧
          second.sent = [] ∧
            second.answer = some sampleDemand.response ∧
              ∀ e ∈ first.sent ++ second.sent,
                e.peer = .gateway →
                  e.request.body ≠
                    .chat (second.effective
                      (sampleClient cachedConfig)
                      sampleEnv) := by
  rcases exists_cachedRun with
    ⟨first, second, world, hRun, hChat, hFirst, _, hSecond,
      hSent, hAnswer⟩
  refine ⟨first, second, world, hRun,
    collisionFree_pair hFirst hSecond, hSent, hAnswer, ?_⟩
  intro e hMem hPeer hBody
  rw [hSent, List.append_nil] at hMem
  rcases hRun with ⟨mid, hStep, _⟩
  rcases hStep.carries e hMem hPeer with ⟨stream, hCarried⟩
  rw [hBody, hFirst, hSecond] at hCarried
  injection hCarried with hSame
  have hTokens := congrArg ChatRequest.maxTokens hSame
  cases hTokens

end Solvela
