import Solvela.Client.Charging

/-
  What one chat call spends.

  The amount of each payment is checked before it is signed,
  and their sum only after the payment was sent.  So the sum
  stays within the maximum when at most one payment can be
  made, and otherwise a gateway can take more.

  Main declarations:
    * `PaymentReader.amountOf`, `PaymentReader.spent`
    * `spent_le_of_attempt`
    * `Demand.overspends`
    * `budget_kept_iff`
-/

------------------------------------------------------------
-- Amounts
------------------------------------------------------------

namespace Solvela

variable {X : Crates}

namespace PaymentReader

/- The amount that a payment header transfers. -/
def amountOf
    (R : PaymentReader X)
    (header : String) : Nat :=
  match R.readPayload header with
  | none => 0
  | some payload =>
      match payload.payload with
      | .direct proof =>
          match R.readTransaction proof.transaction with
          | none => 0
          | some transaction =>
              ((R.transfers transaction).map
                (fun t => t.amount.toNat)).sum

/- The amount of all payments sent. -/
def spent
    (R : PaymentReader X)
    (es : List Exchange) : Nat :=
  ((es.flatMap (fun e => e.request.payments)).map
    R.amountOf).sum

variable {R : PaymentReader X}

theorem spent_append
    (es es' : List Exchange) :
    R.spent (es ++ es') = R.spent es + R.spent es' := by
  unfold spent
  rw [List.flatMap_append, List.map_append,
    List.sum_append]

theorem spent_of_unpaid
    {es : List Exchange}
    (hUnpaid : ∀ e ∈ es, e.request.payments = []) :
    R.spent es = 0 := by
  unfold spent
  have hNone :
      es.flatMap (fun e => e.request.payments) = [] :=
    List.flatMap_eq_nil_iff.mpr hUnpaid
  rw [hNone]
  rfl

theorem spent_singleton
    {e : Exchange}
    {header : String}
    (hPaid : e.request.payments = [header]) :
    R.spent [e] = R.amountOf header := by
  unfold spent
  simp [hPaid]

/- What was sent earlier is part of what is sent in all. -/
theorem spent_le_of_prefix
    {sent es : List Exchange}
    (hPrefix : sent <+: es) :
    R.spent sent ≤ R.spent es := by
  rcases hPrefix with ⟨rest, rfl⟩
  rw [spent_append]
  exact Nat.le_add_right _ _

/- A header transfers the amount it was signed for. -/
theorem amountOf_of_signs
    {client : SolvelaClient X}
    {required : PaymentRequired}
    {amount : UInt64}
    {header : String}
    (hSigns : Signs client required amount header) :
    R.amountOf header = amount.toNat := by
  rcases hSigns.signedFor R with ⟨accept, hFor⟩
  rcases hFor.encoded with
    ⟨payload, proof, transaction, hPayload, _, hProof,
      hTransaction, _, _, _, _, _, _, _, _, hTransfers⟩
  unfold amountOf
  rw [hPayload]
  simp only [hProof, hTransaction, hTransfers]
  exact Nat.add_zero _

end PaymentReader

end Solvela

------------------------------------------------------------
-- Bounds
------------------------------------------------------------

namespace Solvela

variable {X : Crates}
variable {R : PaymentReader X}
variable {client : SolvelaClient X}
variable {cap : UInt64}

/- One payment is within the maximum. -/
theorem Signs.amount_le
    {required : PaymentRequired}
    {amount : UInt64}
    {header : String}
    (hSigns : Signs client required amount header)
    (hCap : client.config.maxPaymentAmount = some cap) :
    amount ≤ cap := by
  rcases hSigns with ⟨_, _, _, _, hTerms, _⟩
  rcases SolvelaClient.selectTerms_eq_ok_iff.mp hTerms with
    ⟨_, _, _, hAmount⟩
  exact SolvelaClient.checkAmount_eq_ok_iff.mp hAmount cap
    hCap

/- The recipient of a payment is an address. -/
theorem Signs.recipient_parses
    {required : PaymentRequired}
    {amount : UInt64}
    {header expected : String}
    (hSigns : Signs client required amount header)
    (hExpected :
      client.config.expectedRecipient = some expected) :
    ∃ key, X.pubkeyFromStr expected = .ok key := by
  rcases hSigns with ⟨accept, ix, _, _, hTerms, hIx, _⟩
  rcases SolvelaClient.selectTerms_eq_ok_iff.mp hTerms with
    ⟨_, hRecipient, _, _⟩
  have hPayTo :=
    SolvelaClient.checkRecipient_eq_ok_iff.mp hRecipient
      expected hExpected
  unfold transferInstruction at hIx
  rcases Effects.bind_eq_ok_iff.mp hIx with ⟨_, _, hRest⟩
  rcases Effects.bind_eq_ok_iff.mp hRest with ⟨key, hKey, _⟩
  rw [← hPayTo]
  exact ⟨key, Effects.mapError_eq_ok_iff.mp hKey⟩

/- Without an address to pay to, nothing is paid. -/
theorem Honest.unpaid_of_invalid_recipient
    {es : List Exchange}
    (hHonest : Honest client es)
    {expected err : String}
    (hExpected :
      client.config.expectedRecipient = some expected)
    (hInvalid : X.pubkeyFromStr expected = .error err) :
    ∀ e ∈ es, e.request.payments = [] := by
  intro e hMem
  apply List.eq_nil_iff_forall_not_mem.mpr
  intro header hPaid
  rcases hHonest.signs_of_mem hMem hPaid with
    ⟨required, amount, hSigns⟩
  rcases hSigns.recipient_parses hExpected with ⟨key, hKey⟩
  rw [hKey] at hInvalid
  cases hInvalid

/- With a maximum of zero, nothing is spent. -/
theorem Honest.spent_eq_zero
    {es : List Exchange}
    (hHonest : Honest client es)
    (hCap : client.config.maxPaymentAmount = some 0) :
    R.spent es = 0 := by
  unfold PaymentReader.spent
  apply List.sum_eq_zero
  intro n hMem
  rcases List.mem_map.mp hMem with ⟨header, hHeader, rfl⟩
  rcases List.mem_flatMap.mp hHeader with ⟨e, hEvent, hPaid⟩
  rcases hHonest.signs_of_mem hEvent hPaid with
    ⟨required, amount, hSigns⟩
  rw [PaymentReader.amountOf_of_signs hSigns]
  have hLe := UInt64.le_iff_toNat_le.mp
    (hSigns.amount_le hCap)
  exact Nat.le_zero.mp hLe

/- One attempt spends at most the maximum. -/
theorem spent_le_of_attempt
    {url : String}
    {headers : List Header}
    {req : ChatRequest}
    {es : List Exchange}
    {r : Except ClientError (ChatResponse × Option UInt64)}
    (hAttempt : Attempt client url headers req es r)
    (hUnpaid : Unpaid headers)
    (hCap : client.config.maxPaymentAmount = some cap) :
    R.spent es ≤ cap.toNat := by
  cases hAttempt with
  | answered hProbe _ =>
      rw [PaymentReader.spent_of_unpaid]
      · exact Nat.zero_le _
      · exact payments_eq_nil_of_unpaid
          (hProbe.payments_eq_nil hUnpaid) (by simp)
  | failed hProbe _ =>
      rw [PaymentReader.spent_of_unpaid]
      · exact Nat.zero_le _
      · exact payments_eq_nil_of_unpaid
          (hProbe.payments_eq_nil hUnpaid) (by simp)
  | refused hProbe _ hRpcs _ =>
      rw [PaymentReader.spent_of_unpaid]
      · exact Nat.zero_le _
      · exact payments_eq_nil_of_unpaid
          (hProbe.payments_eq_nil hUnpaid) hRpcs
  | @paid probe payment required rpcs amount header hProbe _
      hRpcs hSigns hPayment =>
      have hBefore :
          R.spent (probe :: rpcs) = 0 :=
        PaymentReader.spent_of_unpaid
          (payments_eq_nil_of_unpaid
            (hProbe.payments_eq_nil hUnpaid) hRpcs)
      have hLast :
          R.spent [payment] = amount.toNat := by
        rw [PaymentReader.spent_singleton
            hPayment.payments_eq_singleton,
          PaymentReader.amountOf_of_signs hSigns]
      have hAll :
          R.spent (probe :: (rpcs ++ [payment])) =
            R.spent (probe :: rpcs) +
              R.spent [payment] :=
        PaymentReader.spent_append (probe :: rpcs) [payment]
      rw [hAll, hBefore, hLast, Nat.zero_add]
      exact UInt64.le_iff_toNat_le.mp (hSigns.amount_le hCap)

/- A conversation without retries spends at most that. -/
theorem spent_le_of_no_retries
    {url : String}
    {req : ChatRequest}
    {es : List Exchange}
    {r : Except ClientError ChatResponse}
    (hTalk : Conversation client url req es r)
    (hCap : client.config.maxPaymentAmount = some cap)
    (hSingle :
      client.config.enableQualityCheck = false ∨
        client.config.maxQualityRetries = 0) :
    R.spent es ≤ cap.toNat := by
  cases hTalk with
  | failed hAttempt =>
      exact spent_le_of_attempt hAttempt unpaid_nil hCap
  | unchecked _ hAttempt =>
      exact spent_le_of_attempt hAttempt unpaid_nil hCap
  | checked hOn hAttempt hRetries =>
      rcases hSingle with hOff | hNone
      · rw [hOff] at hOn
        cases hOn
      · rw [hNone] at hRetries
        cases hRetries with
        | exhausted =>
            rw [List.append_nil]
            exact spent_le_of_attempt hAttempt unpaid_nil
              hCap

end Solvela

------------------------------------------------------------
-- Overspending
------------------------------------------------------------

namespace Solvela

open Effects

variable {X : Crates}
variable {R : PaymentReader X}
variable {client : SolvelaClient X}

namespace Demand

variable {payTo : String} {amount : UInt64}
variable {demand : Demand X payTo amount}

/- A paid attempt spends the amount demanded. -/
theorem spent_attempt
    {probe rpc payment : Exchange}
    {header : String}
    (hProbe : probe.request.payments = [])
    (hRpc : IsRpc rpc)
    (hPaid : payment.request.payments = [header])
    (hSigns : Signs client demand.required amount header) :
    R.spent [probe, rpc, payment] = amount.toNat := by
  have hBefore : R.spent [probe, rpc] = 0 := by
    apply PaymentReader.spent_of_unpaid
    apply payments_eq_nil_of_unpaid hProbe
    intro e hMem
    rw [List.mem_singleton.mp hMem]
    exact hRpc
  have hSplit :
      R.spent [probe, rpc, payment] =
        R.spent [probe, rpc] + R.spent [payment] :=
    PaymentReader.spent_append [probe, rpc] [payment]
  rw [hSplit, hBefore, PaymentReader.spent_singleton hPaid,
    PaymentReader.amountOf_of_signs hSigns, Nat.zero_add]

/- The answer without content is judged degraded. -/
theorem isDegraded_response
    (demand : Demand X payTo amount) :
    isDegraded X.unicode demand.response =
      some .emptyContent :=
  isDegraded_of_choices_nil X.unicode demand.empty

/- A retry pays once more before anything is checked. -/
theorem Acceptable.runs_retryLoop
    (hAcceptable : demand.Acceptable client.config)
    (P : Payable X)
    (env : Env)
    (hReply : env.reply = demand.reply)
    (url : String)
    (req : ChatRequest)
    (attempts : Nat)
    (total : UInt64)
    (world : World X) :
    ∃ r world' es,
      Runs
          (client.retryLoop env url req (attempts + 1)
            demand.response total)
          world r world' ∧
        world' = world.extend es ∧
          amount.toNat ≤ R.spent es := by
  rcases hAcceptable.runs_handshake P env hReply url
      unpaid_retryReasonHeader req world with
    ⟨probe, rpc, payment, header, hShake, hProbe, hRpc, hPaid,
      hSigns⟩
  rcases exists_runs
      (client.retryLoop env url req (attempts + 1)
        demand.response total) world with
    ⟨r, world', hRun⟩
  have hLoop := hRun
  unfold SolvelaClient.retryLoop at hLoop
  rw [demand.isDegraded_response] at hLoop
  have hSpent :
      R.spent [probe, rpc, payment] = amount.toNat :=
    spent_attempt hProbe hRpc hPaid hSigns
  have hExtended :
      ∃ rest, world' =
        (world.extend [probe, rpc, payment]).extend rest := by
    rcases runs_bind.mp hLoop with
      ⟨reply, t, hFirst, hRest⟩ | ⟨err, hFirst, _⟩
    · rcases hFirst.unique hShake with ⟨hReplyEq, rfl⟩
      cases hReplyEq
      rcases runs_ofOutcome_bind.mp hRest with
        ⟨_, _, hMore⟩ | ⟨err, _, _, rfl⟩
      · rcases SolvelaClient.retryLoop_spec hMore with
          ⟨rest, hWorld, _⟩
        exact ⟨rest, hWorld⟩
      · exact ⟨[], (World.extend_nil _).symm⟩
    · cases (hFirst.unique hShake).1
  rcases hExtended with ⟨rest, hWorld⟩
  refine ⟨r, world', [probe, rpc, payment] ++ rest, hRun, ?_,
    ?_⟩
  · rw [hWorld, World.extend_extend]
  · rw [PaymentReader.spent_append, hSpent]
    exact Nat.le_add_right _ _

/-
  With the quality check on and a retry to make, two payments
  of the full maximum are sent.
-/
theorem overspends
    {cap : UInt64}
    {demand : Demand X payTo cap}
    (hAcceptable : demand.Acceptable client.config)
    (P : Payable X)
    (env : Env)
    (hReply : env.reply = demand.reply)
    (req : ChatRequest)
    (world : World X)
    (hOn : client.config.enableQualityCheck = true)
    (hRetries : client.config.maxQualityRetries ≠ 0)
    (hPositive : cap ≠ 0)
    (hMissed : (client.cacheStep env req world).1.2 = none) :
    ∃ r world' es,
      Runs (client.chat env req) world r world' ∧
        world'.trace = world.trace ++ es ∧
          cap.toNat < R.spent es := by
  let start := (client.cacheStep env req world).2
  let sent := client.effectiveRequest env req world
  rcases hAcceptable.runs_handshake P env hReply
      client.chatUrl unpaid_nil sent start with
    ⟨probe, rpc, payment, header, hShake, hProbe, hRpc, hPaid,
      hSigns⟩
  rcases Nat.exists_eq_succ_of_ne_zero hRetries with
    ⟨attempts, hAttempts⟩
  rcases hAcceptable.runs_retryLoop (R := R) P env hReply
      client.chatUrl sent attempts cap
      (start.extend [probe, rpc, payment]) with
    ⟨r, spoken, rest, hLoop, hWorld, hMore⟩
  have hTalk :
      Runs (client.converse env client.chatUrl sent) start r
        spoken := by
    unfold SolvelaClient.converse
    have hSend :
        Runs (client.sendChatRequest env client.chatUrl sent)
          start (.ok (demand.response, cap))
          (start.extend [probe, rpc, payment]) :=
      runs_bind_pure.mpr ⟨_, hShake, rfl⟩
    refine hSend.bind ?_
    rw [hOn]
    unfold SolvelaClient.retryIfDegraded
    rw [hAttempts]
    exact hLoop
  refine ⟨r, client.finish env req world r spoken,
    [probe, rpc, payment] ++ rest, ?_, ?_, ?_⟩
  · exact SolvelaClient.runs_chat.mpr
      (Or.inr ⟨hMissed, spoken, hTalk, rfl⟩)
  · rw [SolvelaClient.finish_trace, hWorld,
      World.extend_extend]
    change (client.cacheStep env req world).2.trace ++ _ = _
    rw [SolvelaClient.cacheStep_trace]
  · have hFirst :
        R.spent [probe, rpc, payment] = cap.toNat :=
      spent_attempt hProbe hRpc hPaid hSigns
    have hPos : 0 < cap.toNat := by
      apply Nat.pos_of_ne_zero
      intro hZero
      exact hPositive (UInt64.toNat_inj.mp hZero)
    rw [PaymentReader.spent_append, hFirst]
    omega

end Demand

end Solvela

------------------------------------------------------------
-- When The Budget Is Kept
------------------------------------------------------------

namespace Solvela

open Effects

variable {X : Crates}

/- The same world, with other replies of the peers. -/
def Env.withReply
    (env : Env)
    (reply : List Exchange → Peer → HttpRequest →
      Except ReqwestError HttpResponse) : Env where
  reply := reply
  delay := env.delay

/- The configured recipient is no address. -/
def InvalidRecipient
    (X : Crates)
    (config : ClientConfig) : Prop :=
  ∃ expected err, config.expectedRecipient = some expected ∧
    X.pubkeyFromStr expected = .error err

/-
  The recipient that a client pays: the configured one, or
  any address.
-/
theorem exists_acceptable_demand
    (P : Payable X)
    {client : SolvelaClient X}
    (hValid : ¬ InvalidRecipient X client.config)
    {amount : UInt64}
    (hCapped : ∀ max,
      client.config.maxPaymentAmount = some max →
        amount ≤ max) :
    ∃ payTo, ∃ demand : Demand X payTo amount,
      demand.Acceptable client.config := by
  have hRecipient :
      ∃ payTo,
        (∃ key, X.pubkeyFromStr payTo = .ok key) ∧
          ∀ expected,
            client.config.expectedRecipient = some expected →
              payTo = expected := by
    cases hConfig : client.config.expectedRecipient with
    | none =>
        refine ⟨X.usdcMint, P.usdcMint_parses, ?_⟩
        intro expected hNo
        cases hNo
    | some expected =>
        refine ⟨expected, ?_, ?_⟩
        · cases hParse : X.pubkeyFromStr expected with
          | ok key => exact ⟨key, rfl⟩
          | error err =>
              exact absurd ⟨expected, err, hConfig, hParse⟩
                hValid
        · intro expected' hSame
          cases hSame
          rfl
  rcases hRecipient with ⟨payTo, hAddress, hExpected⟩
  rcases P.exists_demand payTo amount with ⟨demand⟩
  exact ⟨payTo, demand,
    { address := hAddress
      recipient := hExpected
      capped := hCapped }⟩

/- The sum of payments sent so far never passes the cap. -/
def BudgetKept
    (R : PaymentReader X)
    (client : SolvelaClient X)
    (env : Env)
    (req : ChatRequest)
    (world : World X)
    (cap : UInt64) : Prop :=
  ∀ r world' es sent,
    Runs (client.chat env req) world r world' →
      world'.trace = world.trace ++ es →
        sent <+: es → R.spent sent ≤ cap.toNat

/- Two payments of the full maximum are too many. -/
theorem Demand.Acceptable.not_budgetKept
    {R : PaymentReader X}
    {client : SolvelaClient X}
    {payTo : String}
    {cap : UInt64}
    {demand : Demand X payTo cap}
    (hAcceptable : demand.Acceptable client.config)
    (P : Payable X)
    (env : Env)
    (hReply : env.reply = demand.reply)
    (req : ChatRequest)
    (world : World X)
    (hOn : client.config.enableQualityCheck = true)
    (hRetries : client.config.maxQualityRetries ≠ 0)
    (hPositive : cap ≠ 0)
    (hMissed : client.cachedAnswer env req world = none) :
    ¬ BudgetKept R client env req world cap := by
  intro hKept
  rcases Demand.overspends (R := R) hAcceptable P env hReply
      req world hOn hRetries hPositive hMissed with
    ⟨r, world', es, hRun, hTrace, hOver⟩
  have hLe := hKept r world' es es hRun hTrace
    (List.prefix_refl es)
  exact absurd hOver (Nat.not_lt.mpr hLe)

/-
  Against every gateway, what a chat call has paid stays
  within the maximum at every moment exactly when it cannot
  pay twice, or can pay nothing.
-/
theorem budget_kept_iff
    (R : PaymentReader X)
    (P : Payable X)
    (client : SolvelaClient X)
    (cap : UInt64)
    (hCap : client.config.maxPaymentAmount = some cap)
    (env : Env)
    (req : ChatRequest)
    (world : World X) :
    (∀ reply,
      BudgetKept R client (env.withReply reply) req world
        cap) ↔
      client.config.enableQualityCheck = false ∨
        client.config.maxQualityRetries = 0 ∨
          cap = 0 ∨
            InvalidRecipient X client.config ∨
              (client.cachedAnswer env req world).isSome := by
  constructor
  · intro hKept
    by_contra hNot
    rw [not_or, not_or, not_or, not_or] at hNot
    rcases hNot with
      ⟨hOn, hRetries, hPositive, hValid, hMissed⟩
    have hCapped : ∀ max,
        client.config.maxPaymentAmount = some max →
          cap ≤ max := by
      intro max hMax
      rw [hCap] at hMax
      cases hMax
      exact UInt64.le_refl cap
    rcases exists_acceptable_demand P hValid hCapped with
      ⟨payTo, demand, hAcceptable⟩
    have hUncached :
        client.cachedAnswer env req world = none := by
      simpa using hMissed
    exact hAcceptable.not_budgetKept P
      (env.withReply demand.reply) rfl req world
      (by simpa using hOn) hRetries hPositive hUncached
      (hKept demand.reply)
  · intro hCondition reply r world' es sent hRun hTrace hPrefix
    apply (PaymentReader.spent_le_of_prefix hPrefix).trans
    rcases SolvelaClient.runs_chat.mp hRun with
      ⟨cached, _, _, rfl⟩ | ⟨hMissed, spoken, hSpeak, rfl⟩
    · have hNone : es = [] := by
        rw [SolvelaClient.cacheStep_trace] at hTrace
        simpa using hTrace
      rw [hNone]
      exact Nat.zero_le _
    · rcases SolvelaClient.converse_spec hSpeak with
        ⟨es', rfl, hTalk⟩
      have hSame : es = es' := by
        rw [SolvelaClient.finish_trace] at hTrace
        change (client.cacheStep _ req world).2.trace ++ es' =
          _ at hTrace
        rw [SolvelaClient.cacheStep_trace] at hTrace
        exact (List.append_cancel_left hTrace).symm
      rw [hSame]
      rcases hCondition with
        hOff | hNoRetries | hZero |
          ⟨expected, err, hExpected, hInvalid⟩ | hCached
      · exact spent_le_of_no_retries hTalk hCap
          (Or.inl hOff)
      · exact spent_le_of_no_retries hTalk hCap
          (Or.inr hNoRetries)
      · rw [hZero] at hCap
        rw [hTalk.honest.spent_eq_zero hCap]
        exact Nat.zero_le _
      · rw [PaymentReader.spent_of_unpaid
          (hTalk.honest.unpaid_of_invalid_recipient
            hExpected hInvalid)]
        exact Nat.zero_le _
      · have hNone :
            client.cachedAnswer env req world = none :=
          hMissed
        rw [hNone] at hCached
        cases hCached

/- With the quality check off, the budget is kept. -/
theorem budget_kept_default :
    ClientConfig.default.enableQualityCheck = false ∧
      ∀ reply,
        BudgetKept sampleReader (sampleClient .default)
          (sampleEnv.withReply reply) sampleRequest
          (World.new .default 0) 10000000 := by
  refine ⟨rfl, ?_⟩
  exact (budget_kept_iff sampleReader sampleCrates_payable
    (sampleClient .default) 10000000 rfl sampleEnv
    sampleRequest (World.new .default 0)).mpr (Or.inl rfl)

/- The default configuration, with the quality check on. -/
def checkedConfig : ClientConfig :=
  { ClientConfig.default with enableQualityCheck := true }

/- A gateway takes twice the maximum in one call. -/
theorem budget_not_kept :
    ¬ BudgetKept sampleReader (sampleClient checkedConfig)
      sampleEnv sampleRequest (World.new checkedConfig 0)
      10000000 := by
  have hAcceptable :
      sampleDemand.Acceptable
        (sampleClient checkedConfig).config :=
    sampleDemand_acceptable rfl rfl
  have hRetries :
      (sampleClient checkedConfig).config.maxQualityRetries ≠
        0 := by
    decide
  have hPositive : (10000000 : UInt64) ≠ 0 := by
    decide
  exact hAcceptable.not_budgetKept sampleCrates_payable
    sampleEnv rfl sampleRequest (World.new checkedConfig 0)
    rfl hRetries hPositive rfl

end Solvela
