import Solvela.Client.Budget

/-
  The answers that the gateway delivers during a call.

  With the quality check on, each retry follows an answer that
  was judged degraded.  A call returns the last answer, and
  that one is good unless every retry was used.

  Main declarations:
    * `deliveredBy`, `delivered`
    * `probeCount`, `paymentCount`
    * `Attempt.delivered_eq`, `Retries.settles`
    * `Conversation.settles`
    * `retries_bounded`
-/

------------------------------------------------------------
-- Delivered Answers
------------------------------------------------------------

namespace Solvela

variable {X : Crates}

/- The chat response that an exchange delivered, if any. -/
def deliveredBy
    (X : Crates)
    (e : Exchange) : Option ChatResponse :=
  match e.peer with
  | .rpc => none
  | .gateway =>
      match e.reply with
      | .error _ => none
      | .ok resp =>
          if resp.status = 200 then
            (SolvelaClient.readChatResponse X resp).toOption
          else
            none

/- The chat responses that the gateway delivered, in order. -/
def delivered
    (X : Crates)
    (es : List Exchange) : List ChatResponse :=
  es.filterMap (deliveredBy X)

theorem delivered_append
    (es es' : List Exchange) :
    delivered X (es ++ es') =
      delivered X es ++ delivered X es' :=
  List.filterMap_append

theorem delivered_singleton
    (e : Exchange) :
    delivered X [e] = (deliveredBy X e).toList := by
  unfold delivered
  cases hDelivered : deliveredBy X e with
  | none => simp [hDelivered]
  | some response => simp [hDelivered]

theorem delivered_of_forall_isRpc
    {rpcs : List Exchange}
    (hRpcs : ∀ e ∈ rpcs, IsRpc e) :
    delivered X rpcs = [] := by
  apply List.filterMap_eq_nil_iff.mpr
  intro e hMem
  unfold deliveredBy
  rw [(hRpcs e hMem).1]

/- A probe delivers what it was answered with directly. -/
theorem deliveredBy_eq_probe
    {e : Exchange}
    (hPeer : e.peer = .gateway) :
    deliveredBy X e =
      (probeOutcome X e).toOption.bind Sum.getLeft? := by
  unfold deliveredBy probeOutcome replyOutcome
  rw [hPeer]
  cases e.reply with
  | error err => rfl
  | ok resp =>
      simp only [SolvelaClient.readProbe]
      by_cases hOk : resp.status = 200
      · rw [if_pos hOk, if_pos hOk]
        cases SolvelaClient.readChatResponse X resp with
        | error err => rfl
        | ok response => rfl
      · rw [if_neg hOk, if_neg hOk]
        by_cases hPay : resp.status = 402
        · rw [if_pos hPay]
          cases SolvelaClient.readPaymentRequired X resp with
          | error err => rfl
          | ok required => rfl
        · rw [if_neg hPay]
          rfl

/- A paid request delivers what it was answered with. -/
theorem deliveredBy_eq_paid
    {e : Exchange}
    (hPeer : e.peer = .gateway) :
    deliveredBy X e = (paidOutcome X e).toOption := by
  unfold deliveredBy paidOutcome replyOutcome
  rw [hPeer]
  cases e.reply with
  | error err => rfl
  | ok resp =>
      simp only [SolvelaClient.readPaidResponse,
        SolvelaClient.readChatResponse]
      cases SolvelaClient.readText resp with
      | error err =>
          by_cases hOk : resp.status = 200
          · rw [if_pos hOk]
            rfl
          · rw [if_neg hOk]
            rfl
      | ok body =>
          by_cases hOk : resp.status = 200
          · simp only [if_pos hOk]
          · simp only [if_neg hOk]
            by_cases hPay : resp.status = 402
            · simp only [if_pos hPay]
              rfl
            · simp only [if_neg hPay]
              rfl

end Solvela

------------------------------------------------------------
-- Counting Requests
------------------------------------------------------------

namespace Solvela

/- The number of requests to the gateway without a payment. -/
def probeCount
    (es : List Exchange) : Nat :=
  es.countP (fun e =>
    decide (e.peer = .gateway ∧ e.request.payments = []))

/- The number of requests with a payment. -/
def paymentCount
    (es : List Exchange) : Nat :=
  es.countP (fun e => decide (e.request.payments ≠ []))

theorem probeCount_append
    (es es' : List Exchange) :
    probeCount (es ++ es') =
      probeCount es + probeCount es' :=
  List.countP_append

theorem paymentCount_append
    (es es' : List Exchange) :
    paymentCount (es ++ es') =
      paymentCount es + paymentCount es' :=
  List.countP_append

theorem probeCount_of_forall_isRpc
    {rpcs : List Exchange}
    (hRpcs : ∀ e ∈ rpcs, IsRpc e) :
    probeCount rpcs = 0 := by
  apply List.countP_eq_zero.mpr
  intro e hMem
  simp [(hRpcs e hMem).1]

theorem paymentCount_of_unpaid
    {es : List Exchange}
    (hUnpaid : ∀ e ∈ es, e.request.payments = []) :
    paymentCount es = 0 := by
  apply List.countP_eq_zero.mpr
  intro e hMem
  simp [hUnpaid e hMem]

variable {X : Crates}
variable {client : SolvelaClient X}
variable {url : String}
variable {headers : List Header}
variable {req : ChatRequest}

theorem Posts.probeCount_eq_one
    {e : Exchange}
    (hPosts : Posts url headers req e)
    (hUnpaid : Unpaid headers) :
    probeCount [e] = 1 := by
  unfold probeCount
  simp [hPosts.peer, hPosts.payments_eq_nil hUnpaid]

theorem Posts.probeCount_eq_zero
    {e : Exchange}
    {header : String}
    (hPosts :
      Posts url [(paymentSignature, header)] req e) :
    probeCount [e] = 0 := by
  unfold probeCount
  simp [hPosts.payments_eq_singleton]

/- An attempt probes once. -/
theorem Attempt.probeCount_eq_one
    {es : List Exchange}
    {r : Except ClientError (ChatResponse × Option UInt64)}
    (hAttempt : Attempt client url headers req es r)
    (hUnpaid : Unpaid headers) :
    probeCount es = 1 := by
  cases hAttempt with
  | answered hProbe _ => exact hProbe.probeCount_eq_one hUnpaid
  | failed hProbe _ => exact hProbe.probeCount_eq_one hUnpaid
  | @refused probe _ rpcs _ hProbe _ hRpcs _ =>
      have hSplit := probeCount_append [probe] rpcs
      rw [hProbe.probeCount_eq_one hUnpaid,
        probeCount_of_forall_isRpc hRpcs] at hSplit
      exact hSplit
  | @paid probe payment _ rpcs _ _ hProbe _ hRpcs _
      hPayment =>
      have hSplit :=
        probeCount_append [probe] (rpcs ++ [payment])
      rw [hProbe.probeCount_eq_one hUnpaid,
        probeCount_append rpcs,
        probeCount_of_forall_isRpc hRpcs,
        hPayment.probeCount_eq_zero] at hSplit
      exact hSplit

/- An attempt pays at most once. -/
theorem Attempt.paymentCount_le_one
    {es : List Exchange}
    {r : Except ClientError (ChatResponse × Option UInt64)}
    (hAttempt : Attempt client url headers req es r)
    (hUnpaid : Unpaid headers) :
    paymentCount es ≤ 1 := by
  have hFree :
      ∀ {probe : Exchange} {rpcs : List Exchange},
        Posts url headers req probe →
          (∀ e ∈ rpcs, IsRpc e) →
            paymentCount (probe :: rpcs) = 0 := by
    intro probe rpcs hProbe hRpcs
    exact paymentCount_of_unpaid
      (payments_eq_nil_of_unpaid
        (hProbe.payments_eq_nil hUnpaid) hRpcs)
  cases hAttempt with
  | answered hProbe _ =>
      rw [hFree hProbe (by simp)]
      exact Nat.zero_le _
  | failed hProbe _ =>
      rw [hFree hProbe (by simp)]
      exact Nat.zero_le _
  | refused hProbe _ hRpcs _ =>
      rw [hFree hProbe hRpcs]
      exact Nat.zero_le _
  | @paid probe payment _ rpcs _ _ hProbe _ hRpcs _ _ =>
      have hSplit :=
        paymentCount_append (probe :: rpcs) [payment]
      rw [hFree hProbe hRpcs, Nat.zero_add] at hSplit
      exact hSplit.le.trans List.countP_le_length

end Solvela

------------------------------------------------------------
-- Settling On An Answer
------------------------------------------------------------

namespace Solvela

variable {X : Crates}
variable {client : SolvelaClient X}
variable {url : String}
variable {headers : List Header}
variable {req : ChatRequest}

/- An attempt delivers its answer and no other. -/
theorem Attempt.delivered_eq
    {es : List Exchange}
    {r : Except ClientError (ChatResponse × Option UInt64)}
    (hAttempt : Attempt client url headers req es r) :
    delivered X es = (r.toOption.map Prod.fst).toList := by
  cases hAttempt with
  | answered hProbe hAnswer =>
      rw [delivered_singleton,
        deliveredBy_eq_probe hProbe.peer, hAnswer]
      rfl
  | failed hProbe hAnswer =>
      rw [delivered_singleton,
        deliveredBy_eq_probe hProbe.peer, hAnswer]
      rfl
  | @refused probe _ rpcs _ hProbe hAnswer hRpcs _ =>
      have hSplit := delivered_append (X := X) [probe] rpcs
      rw [delivered_singleton,
        deliveredBy_eq_probe hProbe.peer, hAnswer,
        delivered_of_forall_isRpc hRpcs] at hSplit
      exact hSplit
  | @paid probe payment _ rpcs _ _ hProbe hAnswer hRpcs _
      hPayment =>
      have hSplit :=
        delivered_append (X := X) [probe]
          (rpcs ++ [payment])
      rw [delivered_append rpcs, delivered_singleton,
        delivered_singleton,
        deliveredBy_eq_probe hProbe.peer, hAnswer,
        delivered_of_forall_isRpc hRpcs,
        deliveredBy_eq_paid hPayment.peer] at hSplit
      refine Eq.trans hSplit ?_
      cases paidOutcome X payment with
      | ok response => rfl
      | error err => rfl

/-
  `last` is the last of `responses`, the ones before it were
  degraded, and so is it only when the attempts are used up.
-/
def Settles
    (X : Crates)
    (responses : List ChatResponse)
    (last : ChatResponse)
    (usedUp : Prop) : Prop :=
  ∃ rejected, responses = rejected ++ [last] ∧
    (∀ bad ∈ rejected, isDegraded X.unicode bad ≠ none) ∧
      (isDegraded X.unicode last = none ∨ usedUp)

/- A retry adds one rejected response and one probe. -/
theorem Settles.retry
    {attempts : Nat}
    {response next last : ChatResponse}
    {amount : Option UInt64}
    {es rest : List Exchange}
    (hSettles :
      Settles X (next :: delivered X rest) last
        (probeCount rest = attempts))
    (hBad : isDegraded X.unicode response ≠ none)
    (hAttempt :
      Attempt client url headers req es
        (.ok (next, amount)))
    (hUnpaid : Unpaid headers) :
    Settles X (response :: delivered X (es ++ rest)) last
      (probeCount (es ++ rest) = attempts + 1) := by
  rcases hSettles with ⟨rejected, hAll, hRejected, hLast⟩
  refine ⟨response :: rejected, ?_,
    List.forall_mem_cons.mpr ⟨hBad, hRejected⟩, ?_⟩
  · have hNext : delivered X es = [next] :=
      hAttempt.delivered_eq
    rw [delivered_append, hNext, List.singleton_append, hAll]
    rfl
  · apply hLast.imp_right
    intro hCount
    rw [probeCount_append, hAttempt.probeCount_eq_one hUnpaid,
      hCount, Nat.add_comm]

/- The retries settle on the response they return. -/
theorem Retries.settles
    {attempts : Nat}
    {response : ChatResponse}
    {total : UInt64}
    {es : List Exchange}
    {r : Except ClientError ChatResponse}
    (hRetries :
      Retries client url req attempts response total es r)
    {last : ChatResponse}
    (hLast : r = .ok last) :
    Settles X (response :: delivered X es) last
      (probeCount es = attempts) := by
  induction hRetries with
  | exhausted =>
      cases hLast
      exact ⟨[], rfl, by simp, Or.inr rfl⟩
  | accepted hGood =>
      cases hLast
      exact ⟨[], rfl, by simp, Or.inl hGood⟩
  | failed _ _ => cases hLast
  | answered hBad hAttempt _ ih =>
      exact (ih hLast).retry hBad hAttempt
        unpaid_retryReasonHeader
  | overspent _ _ _ => cases hLast
  | paid hBad hAttempt _ _ ih =>
      exact (ih hLast).retry hBad hAttempt
        unpaid_retryReasonHeader

/- Each retry probes once and pays at most once. -/
theorem Retries.counts_le
    {attempts : Nat}
    {response : ChatResponse}
    {total : UInt64}
    {es : List Exchange}
    {r : Except ClientError ChatResponse}
    (hRetries :
      Retries client url req attempts response total es r) :
    probeCount es ≤ attempts ∧ paymentCount es ≤ attempts := by
  have hCounts :=
    fun {es} {r}
        (hAttempt : Attempt client url
          [SolvelaClient.retryReasonHeader] req es r) =>
      And.intro
        (hAttempt.probeCount_eq_one unpaid_retryReasonHeader)
        (hAttempt.paymentCount_le_one
          unpaid_retryReasonHeader)
  induction hRetries with
  | exhausted => exact ⟨Nat.le_refl _, Nat.le_refl _⟩
  | accepted _ => exact ⟨Nat.zero_le _, Nat.zero_le _⟩
  | failed _ hAttempt =>
      have hOne := hCounts hAttempt
      omega
  | answered _ hAttempt _ ih =>
      have hOne := hCounts hAttempt
      rw [probeCount_append, paymentCount_append]
      omega
  | overspent _ hAttempt _ =>
      have hOne := hCounts hAttempt
      omega
  | paid _ hAttempt _ _ ih =>
      have hOne := hCounts hAttempt
      rw [probeCount_append, paymentCount_append]
      omega

/- A conversation has one attempt more. -/
theorem Conversation.counts_le
    {es : List Exchange}
    {r : Except ClientError ChatResponse}
    (hTalk : Conversation client url req es r) :
    probeCount es ≤ 1 + client.config.maxQualityRetries ∧
      paymentCount es ≤
        1 + client.config.maxQualityRetries := by
  have hCounts :=
    fun {es} {r} (hAttempt : Attempt client url [] req es r) =>
      And.intro (hAttempt.probeCount_eq_one unpaid_nil)
        (hAttempt.paymentCount_le_one unpaid_nil)
  cases hTalk with
  | failed hAttempt =>
      have hOne := hCounts hAttempt
      omega
  | unchecked _ hAttempt =>
      have hOne := hCounts hAttempt
      omega
  | checked _ hAttempt hRetries =>
      have hOne := hCounts hAttempt
      have hMore := hRetries.counts_le
      rw [probeCount_append, paymentCount_append]
      omega

/- A conversation sends one body throughout. -/
theorem Conversation.body_eq
    {es : List Exchange}
    {r : Except ClientError ChatResponse}
    (hTalk : Conversation client url req es r) :
    ∀ e ∈ es, e.peer = .gateway →
      e.request.body = .chat req := by
  apply hTalk.forall_mem
    (P := fun e => e.peer = .gateway →
      e.request.body = .chat req)
  · intro headers e hPosts _
    rw [hPosts.request]
    rfl
  · intro e hRpc hPeer
    rw [hRpc.1] at hPeer
    cases hPeer

/- A checked conversation settles on its answer. -/
theorem Conversation.settles
    {es : List Exchange}
    {last : ChatResponse}
    (hTalk : Conversation client url req es (.ok last))
    (hOn : client.config.enableQualityCheck = true) :
    Settles X (delivered X es) last
      (probeCount es =
        1 + client.config.maxQualityRetries) := by
  cases hTalk with
  | unchecked hOff _ =>
      rw [hOn] at hOff
      cases hOff
  | @checked es rest response _ _ _ hAttempt hRetries =>
      have hFirst : delivered X es = [response] :=
        hAttempt.delivered_eq
      rw [delivered_append, hFirst, probeCount_append,
        hAttempt.probeCount_eq_one unpaid_nil]
      rcases hRetries.settles rfl with
        ⟨rejected, hAll, hRejected, hLast⟩
      refine ⟨rejected, hAll, hRejected, ?_⟩
      exact hLast.imp_right (congrArg (1 + ·))

end Solvela

------------------------------------------------------------
-- Checked Calls
------------------------------------------------------------

namespace Solvela

open Effects

variable {X : Crates}

/-
  With the quality check on, a call makes at most one attempt
  more than the retries allow, all with one body.  It returns
  a live cached answer, or it settles on the last answer that
  the gateway delivered.
-/
theorem retries_bounded
    (client : SolvelaClient X)
    (hOn : client.config.enableQualityCheck = true)
    (env : Env)
    (req : ChatRequest)
    (world world' : World X)
    (r : Except ClientError ChatResponse)
    (hRun : Runs (client.chat env req) world r world') :
    ∃ es, world'.trace = world.trace ++ es ∧
      probeCount es ≤ 1 + client.config.maxQualityRetries ∧
      paymentCount es ≤ 1 + client.config.maxQualityRetries ∧
      (∀ e ∈ es, e.peer = .gateway →
        e.request.body =
          .chat (client.effectiveRequest env req world)) ∧
      ∀ last, r = .ok last →
        client.cachedAnswer env req world = some last ∧
            es = [] ∨
          Settles X (delivered X es) last
            (probeCount es =
              1 + client.config.maxQualityRetries) := by
  rcases SolvelaClient.runs_chat.mp hRun with
    ⟨cached, hCached, rfl, rfl⟩ | ⟨_, spoken, hSpeak, rfl⟩
  · refine ⟨[], by simp, Nat.zero_le _, Nat.zero_le _, by simp,
      ?_⟩
    intro last hLast
    cases hLast
    exact Or.inl ⟨hCached, rfl⟩
  · rcases SolvelaClient.converse_spec hSpeak with
      ⟨es, rfl, hTalk⟩
    have hCounts := hTalk.counts_le
    refine ⟨es, ?_, hCounts.1, hCounts.2,
      hTalk.body_eq, ?_⟩
    · exact Demand.finish_extend_trace client env req world r
        es
    · intro last hLast
      cases hLast
      exact Or.inr (hTalk.settles hOn)

/- One retry, and enough to pay for it. -/
def patientConfig : ClientConfig :=
  { checkedConfig with maxPaymentAmount := some 20000000 }

/- The call pays for both attempts and returns the second. -/
theorem retries_bounded_checked :
    ∃ last world' es,
      Runs
          ((sampleClient patientConfig).chat sampleEnv
            sampleRequest)
          (World.new patientConfig 0) (.ok last) world' ∧
        world'.trace = es ∧
          probeCount es = 2 ∧ paymentCount es = 2 ∧
            Settles sampleCrates (delivered sampleCrates es)
              last (probeCount es = 2) := by
  have hFrom :
      ∀ (client : SolvelaClient sampleCrates)
        (world spoken : World sampleCrates),
        client.config.enableQualityCheck = true →
          client.config.maxQualityRetries = 1 →
            world.trace = [] →
              spoken =
                  final (client.chat sampleEnv sampleRequest)
                    world →
                returns (client.chat sampleEnv sampleRequest)
                    world = true →
                  probeCount spoken.trace = 2 →
                    paymentCount spoken.trace = 2 →
                      ∃ last world' es,
                        Runs
                            (client.chat sampleEnv
                              sampleRequest)
                            world (.ok last) world' ∧
                          world'.trace = es ∧
                            probeCount es = 2 ∧
                              paymentCount es = 2 ∧
                                Settles sampleCrates
                                  (delivered sampleCrates es)
                                  last (probeCount es = 2) := by
    intro client world spoken hOn hOne hNew hSpoken hReturns
      hProbes hPayments
    rcases exists_runs_ok hReturns with ⟨last, hRun⟩
    rw [← hSpoken] at hRun
    rcases retries_bounded client hOn sampleEnv sampleRequest
        world spoken (.ok last) hRun with
      ⟨es, hTrace, _, _, _, hLast⟩
    rw [hNew, List.nil_append] at hTrace
    rw [hTrace] at hProbes hPayments
    refine ⟨last, spoken, es, hRun, hTrace, hProbes,
      hPayments, ?_⟩
    rcases hLast last rfl with ⟨_, hNone⟩ | hSettles
    · rw [hNone] at hProbes
      cases hProbes
    · rw [hOne] at hSettles
      exact hSettles
  exact hFrom (sampleClient patientConfig)
    (World.new patientConfig 0) _ rfl rfl rfl rfl
    (by decide +kernel) (by decide +kernel)
    (by decide +kernel)

end Solvela
