import Solvela.Balance.Reply
import Solvela.Client.Accounting
import Solvela.Client.Transparency

/-
  Degraded answers in the cache.

  A call stores its answer whatever the quality check said
  about it, and an answer from the cache is not checked.  So
  an answer is replayed as good as it was stored: it is good
  when the retries of the call that stored it sufficed.

  Main declarations:
    * `RetriesSuffice`
    * `Conversation.retriesSuffice_iff`
    * `Steady.exists_replay`
    * `no_degraded_replay`
    * `degraded_replayed`
-/

------------------------------------------------------------
-- Retries That Suffice
------------------------------------------------------------

namespace Solvela

variable {X : Crates}

/- Each probe and each payment was answered in the end. -/
structure AllAnswered
    (X : Crates)
    (es : List Exchange) : Prop where
  payments : AllDelivered X es
  probes : (delivered X es).length = probeCount es

theorem AllAnswered.append
    {es es' : List Exchange}
    (hFirst : AllAnswered X es)
    (hRest : AllAnswered X es') :
    AllAnswered X (es ++ es') where
  payments := allDelivered_append.mpr
    ⟨hFirst.payments, hRest.payments⟩
  probes := by
    rw [delivered_append, List.length_append, hFirst.probes,
      hRest.probes, probeCount_append]

variable {client : SolvelaClient X}
variable {url : String}
variable {headers : List Header}
variable {req : ChatRequest}

theorem Attempt.allAnswered
    {es : List Exchange}
    {answer : ChatResponse × Option UInt64}
    (hAttempt :
      Attempt client url headers req es (.ok answer))
    (hUnpaid : Unpaid headers) :
    AllAnswered X es where
  payments := hAttempt.allDelivered hUnpaid
  probes := by
    rw [hAttempt.delivered_eq,
      hAttempt.probeCount_eq_one hUnpaid]
    rfl

theorem Retries.allAnswered
    {attempts : Nat}
    {response last : ChatResponse}
    {total : UInt64}
    {es : List Exchange}
    {r : Except ClientError ChatResponse}
    (hRetries :
      Retries client url req attempts response total es r)
    (hDone : r = .ok last) :
    AllAnswered X es := by
  have hNone : AllAnswered X [] :=
    { payments := allDelivered_of_unpaid (by simp)
      probes := rfl }
  induction hRetries with
  | exhausted => exact hNone
  | accepted _ => exact hNone
  | failed _ _ => cases hDone
  | answered _ hAttempt _ ih =>
      exact (hAttempt.allAnswered
        unpaid_retryReasonHeader).append (ih hDone)
  | overspent _ _ _ => cases hDone
  | paid _ hAttempt _ _ ih =>
      exact (hAttempt.allAnswered
        unpaid_retryReasonHeader).append (ih hDone)

theorem Conversation.allAnswered
    {es : List Exchange}
    {last : ChatResponse}
    (hTalk : Conversation client url req es (.ok last)) :
    AllAnswered X es := by
  cases hTalk with
  | unchecked _ hAttempt =>
      exact hAttempt.allAnswered unpaid_nil
  | checked _ hAttempt hRetries =>
      exact (hAttempt.allAnswered unpaid_nil).append
        (hRetries.allAnswered rfl)

/- The number of degraded responses that were delivered. -/
def degradedCount
    (X : Crates)
    (es : List Exchange) : Nat :=
  (delivered X es).countP
    (fun response => (isDegraded X.unicode response).isSome)

/-
  There are retries enough for the degraded responses, or the
  payments exceed a maximum that the running total can pass.
-/
def RetriesSuffice
    (R : PaymentReader X)
    (client : SolvelaClient X)
    (es : List Exchange) : Prop :=
  degradedCount X es ≤ client.config.maxQualityRetries ∨
    ∃ cap, client.config.maxPaymentAmount = some cap ∧
      cap < maxU64 ∧ cap.toNat < R.spent es

/-
  The answer of a checked conversation is good exactly when
  the retries sufficed.
-/
theorem Conversation.retriesSuffice_iff
    (R : PaymentReader X)
    {es : List Exchange}
    {last : ChatResponse}
    (hTalk : Conversation client url req es (.ok last))
    (hOn : client.config.enableQualityCheck = true) :
    RetriesSuffice R client es ↔
      isDegraded X.unicode last = none := by
  rcases hTalk.settles hOn with
    ⟨rejected, hAll, hRejected, hLast⟩
  have hLength :
      rejected.length + 1 = probeCount es := by
    rw [← hTalk.allAnswered.probes, hAll, List.length_append]
    rfl
  have hBad :
      rejected.countP (fun response =>
          (isDegraded X.unicode response).isSome) =
        rejected.length := by
    apply List.countP_eq_length.mpr
    intro bad hMem
    exact Option.isSome_iff_ne_none.mpr (hRejected bad hMem)
  have hCount :
      degradedCount X es =
        rejected.length +
          [last].countP (fun response =>
            (isDegraded X.unicode response).isSome) := by
    unfold degradedCount
    rw [hAll, List.countP_append, hBad]
  constructor
  · intro hSuffice
    rcases hSuffice with
      hFew | ⟨cap, hCap, hBelow, hOver⟩
    · rcases hLast with hGood | hUsedUp
      · exact hGood
      · by_contra hDegraded
        have hOne :
            [last].countP (fun response =>
              (isDegraded X.unicode response).isSome) = 1 := by
          simp [Option.isSome_iff_ne_none, hDegraded]
        omega
    · have hAccounted :=
        hTalk.accounted (R := R) hCap hBelow
      rcases hAccounted.exceeded hTalk.allAnswered.payments
          (by omega) with ⟨spent, hNo⟩
      cases hNo
  · intro hGood
    left
    have hNone :
        [last].countP (fun response =>
          (isDegraded X.unicode response).isSome) = 0 := by
      simp [hGood]
    have hBound := hTalk.counts_le.1
    omega

end Solvela

------------------------------------------------------------
-- A Gateway That Repeats Itself
------------------------------------------------------------

namespace Solvela

open Effects Transitions

variable {X : Crates}
variable {env : Env}
variable {response : ChatResponse}

/- The gateway answers every request with `response`. -/
def Steady
    (X : Crates)
    (env : Env)
    (response : ChatResponse) : Prop :=
  ∃ text, X.chatResponseFromStr text = .ok response ∧
    ∀ trace request,
      env.reply trace .gateway request =
        .ok (responseOf 200 text)

/- A handshake with it ends after the probe. -/
theorem Steady.runs_handshake
    (hSteady : Steady X env response)
    (client : SolvelaClient X)
    (url : String)
    (headers : List Header)
    (req : ChatRequest)
    (world : World X) :
    ∃ world',
      Runs (client.handshake env url headers req) world
        (.ok (response, none)) world' := by
  rcases hSteady with ⟨text, hParse, hReply⟩
  have hRead :
      SolvelaClient.readProbe X (responseOf 200 text) =
        .ok (.inl response) := by
    apply map_eq_ok_iff.mpr
    exact ⟨response, bind_eq_ok_iff.mpr
      ⟨text, rfl, mapError_eq_ok_iff.mpr hParse⟩, rfl⟩
  have hAsk :
      ∃ mid,
        Runs
          (exchange env .gateway
            (.post url headers (.chat req))
            ClientError.network (SolvelaClient.readProbe X))
          world (.ok (.inl response)) mid := by
    refine ⟨_, runs_exchange.mpr
      ⟨_, (hReply _ _).symm, hRead.symm, rfl⟩⟩
  rcases hAsk with ⟨mid, hProbed⟩
  exact ⟨mid, hProbed.bind (runs_pure.mpr ⟨rfl, rfl⟩)⟩

/- Retries do not change its answer. -/
theorem Steady.runs_retryLoop
    (hSteady : Steady X env response)
    (client : SolvelaClient X)
    (url : String)
    (req : ChatRequest)
    (attempts : Nat)
    (total : UInt64)
    (world : World X) :
    ∃ world',
      Runs
        (client.retryLoop env url req attempts response total)
        world (.ok response) world' := by
  induction attempts generalizing world with
  | zero => exact ⟨world, runs_pure.mpr ⟨rfl, rfl⟩⟩
  | succ attempts ih =>
      unfold SolvelaClient.retryLoop
      cases isDegraded X.unicode response with
      | none => exact ⟨world, runs_pure.mpr ⟨rfl, rfl⟩⟩
      | some reason =>
          rcases hSteady.runs_handshake client url
              [SolvelaClient.retryReasonHeader] req world with
            ⟨mid, hShake⟩
          rcases ih mid with ⟨world', hLoop⟩
          exact ⟨world', hShake.bind hLoop⟩

/- A call that reaches it returns its answer. -/
theorem Steady.exists_chat
    (hSteady : Steady X env response)
    (client : SolvelaClient X)
    (req : ChatRequest)
    (world : World X)
    (hMissed : client.cachedAnswer env req world = none) :
    ∃ es after, es ≠ [] ∧
      Runs (client.chat env req) world (.ok response) after ∧
        after.trace = world.trace ++ es := by
  let start := (client.cacheStep env req world).2
  let sent := client.effectiveRequest env req world
  rcases hSteady.runs_handshake client client.chatUrl []
      sent start with
    ⟨mid, hShake⟩
  have hSend :
      Runs (client.sendChatRequest env client.chatUrl sent)
        start (.ok (response, 0)) mid :=
    runs_bind_pure.mpr ⟨_, hShake, rfl⟩
  have hTalk :
      ∃ spoken,
        Runs (client.converse env client.chatUrl sent) start
          (.ok response) spoken := by
    unfold SolvelaClient.converse
    cases hCheck : client.config.enableQualityCheck with
    | false =>
        exact ⟨mid, hSend.bind (runs_pure.mpr ⟨rfl, rfl⟩)⟩
    | true =>
        rcases hSteady.runs_retryLoop client client.chatUrl sent
            client.config.maxQualityRetries 0 mid with
          ⟨spoken, hLoop⟩
        exact ⟨spoken, hSend.bind hLoop⟩
  rcases hTalk with ⟨spoken, hSpeak⟩
  rcases SolvelaClient.converse_spec hSpeak with
    ⟨es, rfl, hConversation⟩
  rcases hConversation.gave with ⟨e, hMem, _⟩
  exact ⟨es, _, List.ne_nil_of_mem hMem,
    SolvelaClient.runs_chat.mpr
      (Or.inr ⟨hMissed, _, hSpeak, rfl⟩),
    Demand.finish_extend_trace client env req world _ es⟩

theorem Steady.exists_step
    (hSteady : Steady X env response)
    (client : SolvelaClient X)
    (req : ChatRequest)
    (world : World X)
    (hMissed : client.cachedAnswer env req world = none) :
    ∃ c after,
      CallStep client env world c after ∧
        c.request = req ∧ c.streaming = false ∧
          c.start = world ∧ c.sent ≠ [] ∧
            c.answer = some response := by
  rcases hSteady.exists_chat client req world hMissed with
    ⟨es, after, hSent, hRun, hTrace⟩
  exact ⟨_, _, .chat (Between.refl world) hRun hTrace,
    rfl, rfl, rfl, hSent, rfl⟩

/- A stream opens as well. -/
theorem Steady.exists_stream
    (hSteady : Steady X env response)
    (client : SolvelaClient X)
    (req : ChatRequest)
    (world : World X) :
    ∃ items es after,
      Runs (client.chatStream env req) world (.ok items)
          after ∧
        after.trace = world.trace ++ es := by
  rcases hSteady with ⟨text, _, hReply⟩
  have hProbed :
      ∃ mid,
        Runs
          (exchange env .gateway
            (.post client.chatUrl []
              (.chat
                { (client.sessionStep env req world).1.1 with
                  stream := false }))
            ClientError.network
            (SolvelaClient.readStreamProbe X))
          (SolvelaClient.sessionUpdate
            (client.sessionStep env req world).1.2
            (client.sessionStep env req world).1.1
            (client.sessionStep env req world).2)
          (.ok none) mid :=
    ⟨_, runs_exchange.mpr ⟨_, (hReply _ _).symm, rfl, rfl⟩⟩
  rcases hProbed with ⟨mid, hProbed⟩
  have hOpened :
      ∃ items after,
        Runs
          (exchange env .gateway
            (.post client.chatUrl []
              (.chat
                { (client.sessionStep env req world).1.1 with
                  stream := true }))
            ClientError.network
            (SolvelaClient.readStream X))
          mid (.ok items) after :=
    ⟨_, _, runs_exchange.mpr ⟨_, (hReply _ _).symm, rfl, rfl⟩⟩
  rcases hOpened with ⟨items, after, hOpened⟩
  have hRun :
      Runs (client.chatStream env req) world (.ok items)
        after :=
    SolvelaClient.runs_chatStream.mpr (hProbed.bind hOpened)
  rcases SolvelaClient.chatStream_trace hRun with
    ⟨es, hTrace, _⟩
  exact ⟨items, es, after, hRun, hTrace⟩

/- The cache repeats the answer, whatever it is. -/
theorem Steady.exists_replay
    (hSteady : Steady X env response)
    (client : SolvelaClient X)
    (laws : X.lru.Laws)
    (hCache : client.config.enableCache = true)
    (hSessions : client.config.enableSessions = false)
    (hFallback : client.config.freeFallbackModel = none)
    {limit : Nat}
    (hQuick : ∀ n, env.delay n ≤ limit)
    (hLimit :
      4 * limit ≤
        durationFromSecs ResponseCache.defaultTtlSecs)
    (now : Nat)
    (req : ChatRequest) :
    ∃ first second world,
      LabelledRun (CallStep client env)
          (World.new client.config now) [first, second]
          world ∧
        first.streaming = false ∧
          first.request = req ∧
            first.sent ≠ [] ∧
              first.answer = some response ∧
          second.streaming = false ∧
            second.request = req ∧
              second.sent = [] ∧
                second.answer = some response := by
  let start := World.new (X := X) client.config now
  have hNoStore : start.sessionStore = none := by
    change (World.new client.config now).sessionStore = _
    unfold World.new
    rw [hSessions]
    rfl
  rcases hSteady.exists_step client req start
      (cachedAnswer_new laws hCache now req) with
    ⟨first, mid, hFirst, hAsked, hChat, hBegin, hSent,
      hAnswer⟩
  have hMidStore : mid.sessionStore = none :=
    hFirst.keeps_no_sessions hNoStore
  have hKey :
      SolvelaClient.requestKey X
          (client.effectiveRequest env req mid) =
        first.cacheKey client env := by
    unfold ChatCall.cacheKey
    rw [ChatCall.effective_of_plain hFallback hChat
        (by rw [hBegin]; exact hNoStore),
      SolvelaClient.effectiveRequest_of_plain hFallback
        hMidStore, hAsked]
  rcases exists_repeatStep laws hFirst
      (World.cache_new hCache now) hSent hAnswer hQuick hLimit
      hKey with
    ⟨second, hSecond, hRequest, hChat', _, hNone, hAnswer'⟩
  exact ⟨first, second, _,
    ⟨mid, hFirst, _, hSecond, rfl⟩, hChat, hAsked, hSent,
    hAnswer, hChat', hRequest, hNone, hAnswer'⟩

end Solvela

------------------------------------------------------------
-- Replayed Answers
------------------------------------------------------------

namespace Solvela

open Transitions

variable {X : Crates}
variable {client : SolvelaClient X}
variable {env : Env}

/- An answer that was not cached ends a conversation. -/
theorem CallStep.conversation
    {before after : World X}
    {c : ChatCall X}
    {response : ChatResponse}
    (hStep : CallStep client env before c after)
    (hSent : c.sent ≠ [])
    (hAnswer : c.answer = some response) :
    Conversation client client.chatUrl
      (c.effective client env) c.sent (.ok response) := by
  cases hStep with
  | stream _ _ _ => cases hAnswer
  | @chat _ _ _ _ r _ hRun hTrace =>
      cases r with
      | error err => cases hAnswer
      | ok found =>
          cases hAnswer
          rcases SolvelaClient.chat_trace hRun with
            hSame | ⟨es, hAdded, hTalk⟩
          · rw [hTrace] at hSame
            exact absurd (by simpa using hSame) hSent
          · rw [hTrace] at hAdded
            cases List.append_cancel_left hAdded
            exact hTalk

/-
  In every run of a client with the cache and the quality
  check on, no call answers from the cache with a degraded
  response, if the retries suffice in each chat call.
-/
theorem no_degraded_replay
    (laws : X.lru.Laws)
    (R : PaymentReader X)
    (client : SolvelaClient X)
    (hCache : client.config.enableCache = true)
    (hOn : client.config.enableQualityCheck = true)
    (env : Env)
    (now : Nat)
    (calls : List (ChatCall X))
    (world : World X)
    (hRun :
      LabelledRun (CallStep client env)
        (World.new client.config now) calls world)
    (hSuffice : ∀ c ∈ calls, c.streaming = false →
      RetriesSuffice R client c.sent) :
    ∀ c ∈ calls, c.sent = [] →
      ∀ response, c.answer = some response →
        isDegraded X.unicode response = none := by
  intro c hMem hSent response hAnswer
  rcases hRun.of_mem hMem with
    ⟨past, rest, before, after, rfl, hPast, hStep, _⟩
  rcases cacheGiven_of_run laws hCache hPast with
    ⟨cache, hHas, _, hEntries⟩
  rcases hStep.entry_of_hit laws hHas hSent hAnswer with
    ⟨_, _, entry, rfl, hFound, _⟩
  rcases hEntries _ entry hFound with
    ⟨_, earlier, hEarlier, hAnswered⟩
  rcases hPast.of_mem hEarlier with
    ⟨_, _, _, _, _, _, hStored, _⟩
  rcases hAnswered.gave with ⟨e, hGave, _⟩
  have hTalk :=
    hStored.conversation (List.ne_nil_of_mem hGave)
      hAnswered.answer_eq
  exact (hTalk.retriesSuffice_iff R hOn).mp
    (hSuffice earlier (List.mem_append_left _ hEarlier)
      hAnswered.chat)

/- The cache and the quality check are both on. -/
def replayConfig : ClientConfig :=
  { cachedConfig with enableQualityCheck := true }

/- A response with one short answer. -/
def wordyResponse
    (id : String) : ChatResponse :=
  { Sample.emptyResponse id with
    choices :=
      [{ index := 0
         message :=
           { role := .assistant
             content := "Hello."
             name := none
             toolCalls := none
             toolCallId := none }
         finishReason := none }] }

/- The sample bundle, where every text is an answer. -/
def wordyCrates : Crates :=
  { sampleCrates with
    chatResponseFromStr := fun text =>
      .ok (wordyResponse text) }

/- Its payments are read as in the sample bundle. -/
noncomputable def wordyReader :
    PaymentReader wordyCrates where
  transfers := sampleReader.transfers
  keypairPubkey_eq := sampleReader.keypairPubkey_eq
  transfers_signed := sampleReader.transfers_signed
  readPayload := sampleReader.readPayload
  readTransaction := sampleReader.readTransaction
  readPayload_encode := sampleReader.readPayload_encode
  readTransaction_encode := sampleReader.readTransaction_encode

/- A client of the wordy gateway. -/
def wordyClient : SolvelaClient wordyCrates where
  wallet :=
    { keypairBytes := Vector.replicate 64 1
      valid := by
        rfl }
  config := replayConfig

/- A good answer is replayed, and it is still good. -/
theorem no_degraded_replay_wordy :
    ∃ first second world,
      LabelledRun
          (CallStep wordyClient
            (steadyEnv (.ok (responseOf 200 "answer"))))
          (World.new replayConfig 0) [first, second] world ∧
        second.sent = [] ∧
          ∃ response, second.answer = some response ∧
            isDegraded wordyCrates.unicode response = none := by
  have hSteady :
      Steady wordyCrates
        (steadyEnv (.ok (responseOf 200 "answer")))
        (wordyResponse "answer") :=
    ⟨"answer", rfl, fun _ _ => rfl⟩
  rcases hSteady.exists_replay wordyClient
      Recency.RecencyList.laws rfl rfl rfl
      (fun _ => Nat.le_refl 1) (by decide) 0
      sampleRequest with
    ⟨first, second, world, hRun, _, _, hSent, hFirst, _, _,
      hNone, hAnswer⟩
  have hGood :
      isDegraded wordyCrates.unicode
          (wordyResponse "answer") = none := by
    decide
  have hSuffice : ∀ c ∈ [first, second],
      c.streaming = false →
        RetriesSuffice wordyReader wordyClient c.sent := by
    rcases hRun with ⟨mid, hStep, _⟩
    have hTalk := hStep.conversation hSent hFirst
    intro c hMem _
    rcases List.mem_pair.mp hMem with rfl | rfl
    · exact (hTalk.retriesSuffice_iff wordyReader rfl).mpr
        hGood
    · rw [hNone]
      exact Or.inl (Nat.zero_le _)
  exact ⟨first, second, world, hRun, hNone, _, hAnswer,
    no_degraded_replay Recency.RecencyList.laws wordyReader
      wordyClient rfl rfl
      (steadyEnv (.ok (responseOf 200 "answer"))) 0
      [first, second] world hRun hSuffice second (by simp)
      hNone _ hAnswer⟩

/-
  A gateway sends an answer without content.  One retry later
  the call returns it, and the next call finds it cached.
-/
theorem degraded_replayed :
    ∃ first second world,
      LabelledRun
          (CallStep (sampleClient replayConfig)
            (steadyEnv (.ok (responseOf 200 "answer"))))
          (World.new replayConfig 0) [first, second] world ∧
        first.streaming = false ∧
          second.streaming = false ∧
            second.sent = [] ∧
              ∃ response, second.answer = some response ∧
                isDegraded sampleCrates.unicode response ≠
                  none := by
  have hSteady :
      Steady sampleCrates
        (steadyEnv (.ok (responseOf 200 "answer")))
        (Sample.emptyResponse "answer") :=
    ⟨"answer", rfl, fun _ _ => rfl⟩
  rcases hSteady.exists_replay (sampleClient replayConfig)
      Recency.RecencyList.laws rfl rfl rfl
      (fun _ => Nat.le_refl 1) (by decide) 0
      sampleRequest with
    ⟨first, second, world, hRun, hFirst, _, _, _, hSecond, _,
      hNone, hAnswer⟩
  refine ⟨first, second, world, hRun, hFirst, hSecond, hNone,
    _, hAnswer, ?_⟩
  rw [isDegraded_of_choices_nil sampleCrates.unicode rfl]
  simp

end Solvela
