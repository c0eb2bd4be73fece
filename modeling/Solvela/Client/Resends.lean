import Solvela.Client.Budget
import Solvela.Foundations.Histories

/-
  What a paid request has in common with its probe.

  One function resends after a 402, whoever sent the probe.
  A first probe carries no header, and a copy of it is sent;
  the probe of a quality retry carries a header that the paid
  request lacks.

  Main declarations:
    * `AddsPayment`, `CopiesProbe`, `ResendsProbes`
    * `UnsignedRetry`, `RetriesUnsigned`
    * `Dialogue`, `handshake_dialogue`
    * `retryLoop_resends`, `converse_resends`
    * `resends_probes_iff`
    * `paid_retry_unannounced`
-/

------------------------------------------------------------
-- Copies Of A Probe
------------------------------------------------------------

namespace Solvela

open Histories

/- The probe with the payment header, and nothing else. -/
structure AddsPayment
    (header : String)
    (probe paid : HttpRequest) : Prop where
  method : paid.method = probe.method
  url : paid.url = probe.url
  body : paid.body = probe.body
  headers :
    paid.headers.Perm
      ((paymentSignature, header) :: probe.headers)

variable {X : Crates}

/-
  A request with a payment comes right after an unpaid probe
  that was answered 402, pays the terms of the answer, and
  else repeats the probe.
-/
def CopiesProbe
    (client : SolvelaClient X)
    (past : List Exchange)
    (e : Exchange) : Prop :=
  e.request.payments ≠ [] →
    ∃ before probe required header,
      past = before ++ [probe] ∧
        probe.request.payments = [] ∧
          termsOf X probe = some required ∧
            Answers client required header ∧
              AddsPayment header probe.request e.request

/- So does every request to the gateway among `es`. -/
def ResendsProbes
    (client : SolvelaClient X)
    (es : List Exchange) : Prop :=
  ∀ past e rest, gatewayExchanges es = past ++ e :: rest →
    CopiesProbe client past e

/-
  If `e` is the probe of a quality retry and is answered with
  terms, then no payment can be signed for them.
-/
def UnsignedRetry
    (client : SolvelaClient X)
    (env : Env)
    (past : List Exchange)
    (e : Exchange) : Prop :=
  e.peer = .gateway →
    SolvelaClient.retryReasonHeader ∈ e.request.headers →
      ∀ required, termsOf X e = some required →
        ¬ Signable client env (past ++ [e]) required

/- So it is for every exchange of `es` after a trace. -/
def RetriesUnsigned
    (client : SolvelaClient X)
    (env : Env)
    (trace es : List Exchange) : Prop :=
  ∀ past e rest, es = past ++ e :: rest →
    UnsignedRetry client env (trace ++ past) e

theorem resendsProbes_iff_atEach
    {client : SolvelaClient X}
    {es : List Exchange} :
    ResendsProbes client es ↔
      AtEach (CopiesProbe client) []
        (gatewayExchanges es) := by
  rw [atEach_iff]
  exact Iff.rfl

theorem retriesUnsigned_iff_atEach
    {client : SolvelaClient X}
    {env : Env}
    {trace es : List Exchange} :
    RetriesUnsigned client env trace es ↔
      AtEach (UnsignedRetry client env) trace es :=
  atEach_iff.symm

/- A request without a payment need not follow a probe. -/
theorem copiesProbe_of_unpaid
    {client : SolvelaClient X}
    {e : Exchange}
    (hUnpaid : e.request.payments = [])
    (past : List Exchange) :
    CopiesProbe client past e := by
  intro hPaid
  exact absurd hUnpaid hPaid

/- RPC requests are no retries. -/
theorem unsignedRetry_of_isRpc
    {client : SolvelaClient X}
    {env : Env}
    {e : Exchange}
    (hRpc : IsRpc e)
    (past : List Exchange) :
    UnsignedRetry client env past e := by
  intro hGateway
  rw [hRpc.1] at hGateway
  cases hGateway

/- Nor are requests without the header of a retry. -/
theorem unsignedRetry_of_not_mem
    {client : SolvelaClient X}
    {env : Env}
    {e : Exchange}
    (hPlain :
      SolvelaClient.retryReasonHeader ∉ e.request.headers)
    (past : List Exchange) :
    UnsignedRetry client env past e := by
  intro _ hRetry
  exact absurd hRetry hPlain

end Solvela

------------------------------------------------------------
-- Dialogues
------------------------------------------------------------

namespace Solvela

open Effects Histories

variable {X : Crates}

/- Only a probe answered with terms asks for a payment. -/
theorem probeOutcome_of_termsOf
    {e : Exchange}
    {required : PaymentRequired}
    (hTerms : termsOf X e = some required) :
    probeOutcome X e = .ok (.inr required) := by
  unfold termsOf at hTerms
  unfold probeOutcome replyOutcome
  cases hReply : e.reply with
  | error err =>
      rw [hReply] at hTerms
      cases hTerms
  | ok resp =>
      rw [hReply] at hTerms
      by_cases hPay : resp.status = 402
      · simp only [if_pos hPay] at hTerms
        have hRead :=
          Effects.toOption_eq_some_iff.mp hTerms
        have hNot : ¬ resp.status = 200 := by omega
        simp only [SolvelaClient.readProbe, if_neg hNot,
          if_pos hPay, hRead]
        rfl
      · simp only [if_neg hPay] at hTerms
        cases hTerms

/-
  A handshake after a trace: a probe without terms, terms
  that cannot be signed for, or a payment that is sent.
-/
inductive Dialogue
    (client : SolvelaClient X)
    (env : Env)
    (url : String)
    (headers : List Header)
    (req : ChatRequest)
    (trace : List Exchange) :
    List Exchange → Prop where
  | unpriced
      {probe : Exchange}
      (hProbe : Posts url headers req probe)
      (hTerms : termsOf X probe = none) :
      Dialogue client env url headers req trace [probe]
  | unsigned
      {probe : Exchange}
      {required : PaymentRequired}
      {rpcs : List Exchange}
      (hProbe : Posts url headers req probe)
      (hTerms : termsOf X probe = some required)
      (hRefused :
        ¬ Signable client env (trace ++ [probe]) required)
      (hRpcs : ∀ e ∈ rpcs, IsRpc e) :
      Dialogue client env url headers req trace
        (probe :: rpcs)
  | resent
      {probe payment : Exchange}
      {required : PaymentRequired}
      {rpcs : List Exchange}
      {header : String}
      (hProbe : Posts url headers req probe)
      (hTerms : termsOf X probe = some required)
      (hSignable :
        Signable client env (trace ++ [probe]) required)
      (hRpcs : ∀ e ∈ rpcs, IsRpc e)
      (hAnswers : Answers client required header)
      (hPayment :
        Posts url [(paymentSignature, header)] req payment) :
      Dialogue client env url headers req trace
        (probe :: (rpcs ++ [payment]))

/- A handshake is such a dialogue. -/
theorem handshake_dialogue
    {client : SolvelaClient X}
    {env : Env}
    {url : String}
    {headers : List Header}
    {req : ChatRequest}
    {world world' : World X}
    {r : Except ClientError (ChatResponse × Option UInt64)}
    (hRun :
      Runs (client.handshake env url headers req) world r
        world') :
    ∃ es, world' = world.extend es ∧
      Dialogue client env url headers req world.trace es := by
  unfold SolvelaClient.handshake at hRun
  have hUnpriced :
      ∀ {probe outcome}, outcome = probeOutcome X probe →
        (∀ required, outcome ≠ .ok (.inr required)) →
          termsOf X probe = none := by
    intro probe outcome hOutcome hNever
    cases hTerms : termsOf X probe with
    | none => rfl
    | some required =>
        exact absurd
          (hOutcome.trans (probeOutcome_of_termsOf hTerms))
          (hNever required)
  rcases runs_bind.mp hRun with
    ⟨probed, t, hAsk, hRest⟩ | ⟨err, hAsk, rfl⟩
  · rcases posts_of_runs hAsk with
      ⟨probe, hProbe, rfl, hAnswer⟩
    cases probed with
    | inl response =>
        rcases runs_pure.mp hRest with ⟨rfl, rfl⟩
        refine ⟨_, rfl, .unpriced hProbe
          (hUnpriced hAnswer ?_)⟩
        intro required hNo
        cases hNo
    | inr required =>
        have hTerms := termsOf_of_probeOutcome hAnswer.symm
        rcases runs_bind_pure.mp hRest with ⟨r₀, hPay, rfl⟩
        unfold SolvelaClient.payAndResendWithAmount at hPay
        rcases runs_bind.mp hPay with
          ⟨signed, t, hSign, hSend⟩ | ⟨err, hSign, rfl⟩
        · rcases
            SolvelaClient.signPaymentFor402WithAmount_spec
              hSign with ⟨rpcs, rfl, hRpcs, hSigned⟩
          rcases runs_bind_pure.mp hSend with ⟨_, hPaid, _⟩
          rcases posts_of_runs hPaid with
            ⟨payment, hPayment, rfl, _⟩
          refine ⟨probe :: (rpcs ++ [payment]), ?_,
            .resent hProbe hTerms ?_ hRpcs
              ⟨signed.2, hSigned signed rfl⟩ hPayment⟩
          · rw [World.extend_extend, World.extend_extend]
            rfl
          · exact
              (SolvelaClient.exists_runs_sign_iff
                (world.extend [probe])).mp
                ⟨signed, _, hSign⟩
        · rcases
            SolvelaClient.signPaymentFor402WithAmount_spec
              hSign with ⟨rpcs, rfl, hRpcs, _⟩
          refine ⟨probe :: rpcs, World.extend_extend _ _ _,
            .unsigned hProbe hTerms ?_ hRpcs⟩
          intro hSignable
          rcases
            (SolvelaClient.exists_runs_sign_iff
              (world.extend [probe])).mpr hSignable with
            ⟨signed, t, hOther⟩
          cases (hSign.unique hOther).1
  · rcases posts_of_runs hAsk with
      ⟨probe, hProbe, rfl, hAnswer⟩
    refine ⟨_, rfl, .unpriced hProbe (hUnpriced hAnswer ?_)⟩
    intro required hNo
    cases hNo

/- The payment of a dialogue copies a probe without headers. -/
theorem copiesProbe_payment_iff
    {client : SolvelaClient X}
    {url header : String}
    {headers : List Header}
    {req : ChatRequest}
    {probe payment : Exchange}
    {required : PaymentRequired}
    (hProbe : Posts url headers req probe)
    (hUnpaid : Unpaid headers)
    (hTerms : termsOf X probe = some required)
    (hAnswers : Answers client required header)
    (hPayment :
      Posts url [(paymentSignature, header)] req payment)
    (sent : List Exchange) :
    CopiesProbe client (sent ++ [probe]) payment ↔
      headers = [] := by
  have hPaid := hPayment.payments_eq_singleton
  constructor
  · intro hCopies
    have hSome : payment.request.payments ≠ [] := by
      rw [hPaid]
      exact List.cons_ne_nil _ _
    rcases hCopies hSome with
      ⟨before, other, terms, header', hSplit, _, _, _, hAdds⟩
    have hLast :=
      (List.append_inj' hSplit rfl).2
    injection hLast with hSame _
    have hLength := hAdds.headers.length_eq
    rw [hPayment.request, ← hSame, hProbe.request] at hLength
    have hNone : headers.length = 0 := by
      have hSingle :
          1 = headers.length + 1 := hLength
      omega
    exact List.length_eq_zero_iff.mp hNone
  · rintro rfl _
    refine ⟨sent, probe, required, header, rfl,
      hProbe.payments_eq_nil hUnpaid, hTerms, hAnswers, ?_⟩
    rw [hPayment.request, hProbe.request]
    exact
      { method := rfl
        url := rfl
        body := rfl
        headers := List.Perm.refl _ }

/- A dialogue with a probe of the code keeps the law. -/
theorem Dialogue.resends_iff
    {client : SolvelaClient X}
    {env : Env}
    {url : String}
    {headers : List Header}
    {req : ChatRequest}
    {trace es : List Exchange}
    (hDialogue :
      Dialogue client env url headers req trace es)
    (hHeaders :
      headers = [] ∨
        headers = [SolvelaClient.retryReasonHeader])
    (sent : List Exchange) :
    AtEach (CopiesProbe client) sent (gatewayExchanges es) ↔
      AtEach (UnsignedRetry client env) trace es := by
  have hUnpaid : Unpaid headers := by
    rcases hHeaders with rfl | rfl
    · exact unpaid_nil
    · exact unpaid_retryReasonHeader
  have hRpcs :
      ∀ {rpcs : List Exchange} {past : List Exchange},
        (∀ e ∈ rpcs, IsRpc e) →
          AtEach (UnsignedRetry client env) past rpcs := by
    intro rpcs past hAll
    apply atEach_of_forall
    intro e hMem before
    exact unsignedRetry_of_isRpc (hAll e hMem) before
  cases hDialogue with
  | @unpriced probe hProbe hTerms =>
      have hGateway : gatewayExchanges [probe] = [probe] :=
        gatewayExchanges_of_unpaid hProbe.peer (by simp)
      rw [hGateway]
      apply iff_of_true
      · exact ⟨copiesProbe_of_unpaid
          (hProbe.payments_eq_nil hUnpaid) sent, trivial⟩
      · refine ⟨?_, trivial⟩
        intro _ _ required hNo
        rw [hTerms] at hNo
        cases hNo
  | @unsigned probe required rpcs hProbe hTerms hRefused
      hAll =>
      rw [gatewayExchanges_of_unpaid hProbe.peer hAll]
      apply iff_of_true
      · exact ⟨copiesProbe_of_unpaid
          (hProbe.payments_eq_nil hUnpaid) sent, trivial⟩
      · refine ⟨?_, hRpcs hAll⟩
        intro _ _ terms hSame
        rw [hTerms] at hSame
        cases hSame
        exact hRefused
  | @resent probe payment required rpcs header hProbe hTerms
      hSignable hAll hAnswers hPayment =>
      rw [gatewayExchanges_of_paid hProbe.peer hAll
        hPayment.peer]
      have hCopies :=
        copiesProbe_payment_iff hProbe hUnpaid hTerms hAnswers
          hPayment sent
      have hPlain :
          SolvelaClient.retryReasonHeader ∉
            payment.request.headers := by
        rw [hPayment.request]
        intro hMem
        have hSame := List.mem_singleton.mp hMem
        have hNames :
            SolvelaClient.retryReasonHeader.1 =
              paymentSignature :=
          congrArg Prod.fst hSame
        exact absurd hNames (by decide)
      have hLast :
          ∀ past,
            AtEach (UnsignedRetry client env) past
              (rpcs ++ [payment]) := by
        intro past
        apply atEach_append.mpr
        exact ⟨hRpcs hAll,
          unsignedRetry_of_not_mem hPlain _, trivial⟩
      rcases hHeaders with rfl | rfl
      · apply iff_of_true
        · exact ⟨copiesProbe_of_unpaid
              (hProbe.payments_eq_nil hUnpaid) sent,
            hCopies.mpr rfl, trivial⟩
        · refine ⟨?_, hLast _⟩
          apply unsignedRetry_of_not_mem
          rw [hProbe.request]
          exact List.not_mem_nil
      · apply iff_of_false
        · intro hEach
          exact absurd (hCopies.mp hEach.2.1)
            (List.cons_ne_nil _ _)
        · intro hEach
          have hRetry :
              SolvelaClient.retryReasonHeader ∈
                probe.request.headers := by
            rw [hProbe.request]
            exact List.mem_singleton.mpr rfl
          exact hEach.1 hProbe.peer hRetry required hTerms
            hSignable

end Solvela

------------------------------------------------------------
-- Every Chat Call
------------------------------------------------------------

namespace Solvela

open Effects Histories

variable {X : Crates}
variable {client : SolvelaClient X}
variable {env : Env}

/- Dialogues one after the other keep the law together. -/
theorem resends_append_iff
    {trace first second sent : List Exchange}
    (hFirst :
      AtEach (CopiesProbe client) sent
          (gatewayExchanges first) ↔
        AtEach (UnsignedRetry client env) trace first)
    (hSecond :
      ∀ sent,
        AtEach (CopiesProbe client) sent
            (gatewayExchanges second) ↔
          AtEach (UnsignedRetry client env) (trace ++ first)
            second) :
    AtEach (CopiesProbe client) sent
        (gatewayExchanges (first ++ second)) ↔
      AtEach (UnsignedRetry client env) trace
        (first ++ second) := by
  have hParts :
      gatewayExchanges (first ++ second) =
        gatewayExchanges first ++ gatewayExchanges second :=
    List.filter_append first second
  rw [hParts, atEach_append, atEach_append, hFirst, hSecond]

theorem retryLoop_resends
    {url : String}
    {req : ChatRequest}
    {attempts : Nat}
    {response : ChatResponse}
    {total : UInt64}
    {world world' : World X}
    {r : Except ClientError ChatResponse}
    (hRun :
      Runs (client.retryLoop env url req attempts response
        total) world r world') :
    ∃ es, world' = world.extend es ∧
      ∀ sent,
        AtEach (CopiesProbe client) sent
            (gatewayExchanges es) ↔
          AtEach (UnsignedRetry client env) world.trace
            es := by
  have hSilent :
      ∀ sent,
        AtEach (CopiesProbe client) sent
            (gatewayExchanges []) ↔
          AtEach (UnsignedRetry client env) world.trace [] :=
    fun _ => Iff.rfl
  induction attempts generalizing response total world with
  | zero =>
      rcases runs_pure.mp hRun with ⟨_, rfl⟩
      exact ⟨[], (World.extend_nil _).symm, hSilent⟩
  | succ attempts ih =>
      unfold SolvelaClient.retryLoop at hRun
      cases hDegraded : isDegraded X.unicode response with
      | none =>
          rw [hDegraded] at hRun
          rcases runs_pure.mp hRun with ⟨_, rfl⟩
          exact ⟨[], (World.extend_nil _).symm, hSilent⟩
      | some reason =>
          rw [hDegraded] at hRun
          -- one more dialogue, and the loop that may follow
          have hGoOn :
              ∀ {es mid} {next : ChatResponse} {paid : UInt64},
                mid = world.extend es →
                  Dialogue client env url
                      [SolvelaClient.retryReasonHeader] req
                      world.trace es →
                    Runs (client.retryLoop env url req
                        attempts next paid) mid r world' →
                      ∃ es, world' = world.extend es ∧
                        ∀ sent,
                          AtEach (CopiesProbe client) sent
                              (gatewayExchanges es) ↔
                            AtEach (UnsignedRetry client env)
                              world.trace es := by
            intro es mid next paid hMid hDialogue hLoop
            subst hMid
            rcases ih hLoop (fun _ => Iff.rfl) with
              ⟨rest, rfl, hRest⟩
            refine ⟨es ++ rest, World.extend_extend _ _ _, ?_⟩
            intro sent
            exact resends_append_iff
              (hDialogue.resends_iff (Or.inr rfl) sent) hRest
          rcases runs_bind.mp hRun with
            ⟨reply, t, hShake, hRest⟩ | ⟨err, hShake, rfl⟩
          · rcases handshake_dialogue hShake with
              ⟨es, hMid, hDialogue⟩
            rcases reply with ⟨next, amount⟩
            cases amount with
            | none => exact hGoOn hMid hDialogue hRest
            | some amount =>
                rcases runs_ofOutcome_bind.mp hRest with
                  ⟨_, _, hLoop⟩ | ⟨err, _, _, rfl⟩
                · exact hGoOn hMid hDialogue hLoop
                · exact ⟨es, hMid,
                    hDialogue.resends_iff (Or.inr rfl)⟩
          · rcases handshake_dialogue hShake with
              ⟨es, hMid, hDialogue⟩
            exact ⟨es, hMid,
              hDialogue.resends_iff (Or.inr rfl)⟩

theorem converse_resends
    {url : String}
    {req : ChatRequest}
    {world world' : World X}
    {r : Except ClientError ChatResponse}
    (hRun :
      Runs (client.converse env url req) world r world') :
    ∃ es, world' = world.extend es ∧
      ∀ sent,
        AtEach (CopiesProbe client) sent
            (gatewayExchanges es) ↔
          AtEach (UnsignedRetry client env) world.trace
            es := by
  unfold SolvelaClient.converse at hRun
  rcases runs_bind.mp hRun with
    ⟨reply, t, hSend, hRest⟩ | ⟨err, hSend, rfl⟩
  · rcases runs_bind_pure.mp hSend with ⟨r₀, hShake, _⟩
    rcases handshake_dialogue hShake with
      ⟨es, rfl, hDialogue⟩
    have hFirst := hDialogue.resends_iff (Or.inl rfl)
    cases hCheck : client.config.enableQualityCheck with
    | false =>
        rw [hCheck] at hRest
        rcases runs_pure.mp hRest with ⟨_, rfl⟩
        exact ⟨es, rfl, hFirst⟩
    | true =>
        rw [hCheck] at hRest
        rcases retryLoop_resends hRest with
          ⟨rest, rfl, hLater⟩
        refine ⟨es ++ rest, World.extend_extend _ _ _, ?_⟩
        intro sent
        exact resends_append_iff (hFirst sent) hLater
  · rcases runs_bind_pure.mp hSend with ⟨r₀, hShake, _⟩
    rcases handshake_dialogue hShake with
      ⟨es, rfl, hDialogue⟩
    exact ⟨es, rfl, hDialogue.resends_iff (Or.inl rfl)⟩

/-
  In every chat call, each paid request copies its probe
  exactly when no quality retry is answered with terms that
  the client can sign for.
-/
theorem resends_probes_iff
    {req : ChatRequest}
    {world world' : World X}
    {r : Except ClientError ChatResponse}
    (hRun : Runs (client.chat env req) world r world') :
    ∃ es, world'.trace = world.trace ++ es ∧
      (ResendsProbes client es ↔
        RetriesUnsigned client env world.trace es) := by
  rcases SolvelaClient.runs_chat.mp hRun with
    ⟨cached, _, _, rfl⟩ | ⟨_, spoken, hSpeak, rfl⟩
  · refine ⟨[], ?_, ?_⟩
    · rw [SolvelaClient.cacheStep_trace, List.append_nil]
    · rw [resendsProbes_iff_atEach, retriesUnsigned_iff_atEach]
      exact Iff.rfl
  · rcases converse_resends hSpeak with ⟨es, rfl, hLaw⟩
    refine ⟨es, ?_, ?_⟩
    · rw [SolvelaClient.finish_trace]
      change (client.cacheStep env req world).2.trace ++ es = _
      rw [SolvelaClient.cacheStep_trace]
    · rw [resendsProbes_iff_atEach,
        retriesUnsigned_iff_atEach, hLaw [],
        SolvelaClient.cacheStep_trace]

/- How many headers, and payments, a request has. -/
def headerCounts
    (e : Exchange) : Nat × Nat :=
  (e.request.headers.length, e.request.payments.length)

/- Without a header, or with a payment alone, no retry. -/
theorem unsignedRetry_of_counts
    {e : Exchange}
    {past : List Exchange}
    (hCounts :
      headerCounts e = (0, 0) ∨ headerCounts e = (1, 1)) :
    UnsignedRetry client env past e := by
  apply unsignedRetry_of_not_mem
  intro hMem
  have hLength := List.length_pos_of_mem hMem
  rcases hCounts with hNone | hPaid
  · have hZero := congrArg Prod.fst hNone
    change e.request.headers.length = 0 at hZero
    omega
  · have hOne := congrArg Prod.fst hPaid
    change e.request.headers.length = 1 at hOne
    have hPayment := congrArg Prod.snd hPaid
    change e.request.payments.length = 1 at hPayment
    rcases List.length_eq_one_iff.mp hOne with
      ⟨header, hOnly⟩
    rw [hOnly, List.mem_singleton] at hMem
    unfold HttpRequest.payments at hPayment
    rw [hOnly, ← hMem] at hPayment
    exact absurd hPayment (by decide)

/- Without a quality check, the paid request is a copy. -/
theorem resends_probes_default :
    ∃ r world' es,
      Runs
          ((sampleClient .default).chat sampleEnv
            sampleRequest)
          (World.new .default 0) r world' ∧
        world'.trace = es ∧
          ResendsProbes (sampleClient .default) es ∧
            ∃ e ∈ es, e.request.payments ≠ [] := by
  have hFrom :
      ∀ (client : SolvelaClient sampleCrates) world,
        world.trace = [] →
          (final (client.chat sampleEnv sampleRequest)
              world).trace.map headerCounts =
            [(0, 0), (0, 0), (1, 1)] →
          ∃ r world' es,
            Runs (client.chat sampleEnv sampleRequest) world
                r world' ∧
              world'.trace = es ∧
                ResendsProbes client es ∧
                  ∃ e ∈ es, e.request.payments ≠ [] := by
    intro client world hNew hCounts
    rcases exists_runs_final
        (client.chat sampleEnv sampleRequest) world with
      ⟨r, hRun⟩
    rcases resends_probes_iff hRun with ⟨es, hTrace, hLaw⟩
    rw [hNew, List.nil_append] at hTrace
    rw [hTrace] at hCounts
    refine ⟨r, _, es, hRun, hTrace, hLaw.mpr ?_, ?_⟩
    · intro past e rest hSplit
      apply unsignedRetry_of_counts
      have hEvent : e ∈ es := by
        rw [hSplit]
        exact List.mem_append_right _ List.mem_cons_self
      have hMem := List.mem_map_of_mem (f := headerCounts)
        hEvent
      rw [hCounts] at hMem
      simpa using hMem
    · have hMem :
          (1, 1) ∈ es.map headerCounts := by
        rw [hCounts]
        simp
      rcases List.mem_map.mp hMem with ⟨e, hEvent, hOne⟩
      refine ⟨e, hEvent, ?_⟩
      intro hNone
      have hCount := congrArg Prod.snd hOne
      change e.request.payments.length = 1 at hCount
      rw [hNone] at hCount
      cases hCount
  exact hFrom (sampleClient .default)
    (World.new .default 0) rfl (by decide +kernel)

/- A paid retry with one header is no copy of its probe. -/
theorem not_resendsProbes_of_counts
    {client : SolvelaClient X}
    {es : List Exchange}
    (hCounts :
      (gatewayExchanges es).map headerCounts =
        [(0, 0), (1, 1), (1, 0), (1, 1)]) :
    ¬ ResendsProbes client es := by
  rcases List.map_eq_cons_iff.mp hCounts with
    ⟨first, after, hFirst, _, hAfter⟩
  rcases List.map_eq_cons_iff.mp hAfter with
    ⟨second, later, hSecond, _, hLater⟩
  rcases List.map_eq_cons_iff.mp hLater with
    ⟨retry, last, hThird, hRetry, hLast⟩
  rcases List.map_eq_cons_iff.mp hLast with
    ⟨payment, rest, hFourth, hPayment, _⟩
  intro hResends
  have hSplit :
      gatewayExchanges es =
        [first, second, retry] ++ payment :: rest := by
    rw [hFirst, hSecond, hThird, hFourth]
    rfl
  have hPaid : payment.request.payments ≠ [] := by
    intro hNone
    have hCount := congrArg Prod.snd hPayment
    change payment.request.payments.length = 1 at hCount
    rw [hNone] at hCount
    cases hCount
  rcases hResends _ payment rest hSplit hPaid with
    ⟨before, probe, _, header, hPast, _, _, _, hAdds⟩
  have hParts :
      [first, second] ++ [retry] = before ++ [probe] := hPast
  have hLastProbe := (List.append_inj' hParts rfl).2
  injection hLastProbe with hSame _
  have hLength := hAdds.headers.length_eq
  rw [List.length_cons, ← hSame] at hLength
  have hOne := congrArg Prod.fst hRetry
  have hOther := congrArg Prod.fst hPayment
  change retry.request.headers.length = 1 at hOne
  change payment.request.headers.length = 1 at hOther
  omega

/- A paid retry does not tell the gateway that it is one. -/
theorem paid_retry_unannounced :
    ∃ r world' es,
      Runs
          ((sampleClient checkedConfig).chat sampleEnv
            sampleRequest)
          (World.new checkedConfig 0) r world' ∧
        world'.trace = es ∧
          ¬ ResendsProbes (sampleClient checkedConfig) es := by
  have hFrom :
      ∀ (client : SolvelaClient sampleCrates) world,
        (gatewayExchanges
            (final (client.chat sampleEnv sampleRequest)
              world).trace).map headerCounts =
            [(0, 0), (1, 1), (1, 0), (1, 1)] →
          ∃ r world' es,
            Runs (client.chat sampleEnv sampleRequest) world
                r world' ∧
              world'.trace = es ∧
                ¬ ResendsProbes client es := by
    intro client world hCounts
    rcases exists_runs_final
        (client.chat sampleEnv sampleRequest) world with
      ⟨r, hRun⟩
    exact ⟨r, _, _, hRun, rfl,
      not_resendsProbes_of_counts hCounts⟩
  exact hFrom (sampleClient checkedConfig)
    (World.new checkedConfig 0) (by decide +kernel)

end Solvela
