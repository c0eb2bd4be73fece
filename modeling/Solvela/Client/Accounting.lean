import Solvela.Client.Answers

/-
  What a call reports that it has spent.

  The retry loop adds up the amounts of the payments it made.
  Up to a maximum below the largest 64-bit value the addition
  does not saturate, so the running total is the exact sum of
  the payments sent until the call stops.

  Main declarations:
    * `AllDelivered`, `Overdrawn`, `Accounted`
    * `Attempt.allDelivered`
    * `Attempt.paid_spec`, `Attempt.failed_spec`
    * `Retries.accounted`, `Conversation.accounted`
    * `budget_accounted`
-/

------------------------------------------------------------
-- Other Errors
------------------------------------------------------------

namespace Solvela

open Effects

/- An error that reports no spending. -/
def OffBudget : ClientError → Prop
| .budgetExceeded _ _ => False
| _ => True

variable {X : Crates}

namespace SolvelaClient

theorem readText_offBudget
    (response : HttpResponse) :
    ErrorsIn OffBudget (readText response) :=
  errorsIn_mapError (fun _ => trivial) _

theorem readProbe_offBudget
    (response : HttpResponse) :
    ErrorsIn OffBudget (readProbe X response) := by
  unfold readProbe
  apply errorsIn_ite
  · apply ErrorsIn.map
    apply (readText_offBudget response).bind
    intro body
    exact errorsIn_mapError (fun _ => trivial) _
  · apply errorsIn_ite
    · apply ErrorsIn.map
      apply (readText_offBudget response).bind
      intro body
      exact errorsIn_mapError (fun _ => trivial) _
    · exact errorsIn_error trivial

theorem readPaidResponse_offBudget
    (response : HttpResponse) :
    ErrorsIn OffBudget (readPaidResponse X response) := by
  apply (readText_offBudget response).bind
  intro body
  apply errorsIn_ite
  · exact errorsIn_mapError (fun _ => trivial) _
  · apply errorsIn_ite
    · exact errorsIn_error trivial
    · exact errorsIn_error trivial

theorem checkRecipient_offBudget
    (config : ClientConfig)
    (accept : PaymentAccept) :
    ErrorsIn OffBudget (checkRecipient config accept) := by
  unfold checkRecipient
  cases config.expectedRecipient with
  | none => exact errorsIn_ok ()
  | some expected =>
      apply errorsIn_ite
      · exact errorsIn_error trivial
      · exact errorsIn_ok ()

theorem checkAmount_offBudget
    (config : ClientConfig)
    (amount : UInt64) :
    ErrorsIn OffBudget (checkAmount config amount) := by
  unfold checkAmount
  cases config.maxPaymentAmount with
  | none => exact errorsIn_ok ()
  | some max =>
      apply errorsIn_ite
      · exact errorsIn_error trivial
      · exact errorsIn_ok ()

theorem selectTerms_offBudget
    (config : ClientConfig)
    (accepts : List PaymentAccept) :
    ErrorsIn OffBudget (selectTerms X config accepts) := by
  unfold selectTerms
  cases pickScheme X accepts with
  | none => exact errorsIn_error trivial
  | some accept =>
      apply (checkRecipient_offBudget config accept).bind
      intro _
      apply ErrorsIn.bind
      · exact errorsIn_mapError (fun _ => trivial) _
      · intro amount
        apply (checkAmount_offBudget config amount).bind
        intro _
        exact errorsIn_ok _

theorem Refuses.offBudget
    {client : SolvelaClient X}
    {required : PaymentRequired}
    {err : ClientError}
    (hRefuses : Refuses client required err) :
    OffBudget err := by
  rcases hRefuses with hTerms | ⟨e, rfl⟩
  · exact selectTerms_offBudget client.config
      required.accepts err hTerms
  · exact trivial

end SolvelaClient

/- A failed exchange reports no spending. -/
theorem replyOutcome_offBudget
    {α : Type}
    {read : HttpResponse → Except ClientError α}
    (hRead : ∀ response, ErrorsIn OffBudget (read response))
    (reply : Except ReqwestError HttpResponse) :
    ErrorsIn OffBudget
      (replyOutcome ClientError.network read reply) := by
  cases reply with
  | error e => exact errorsIn_error trivial
  | ok response => exact hRead response

end Solvela

------------------------------------------------------------
-- What An Attempt Spends
------------------------------------------------------------

namespace Solvela

open Effects

variable {X : Crates}

/- Each payment was answered 200 with a chat response. -/
def AllDelivered
    (X : Crates)
    (es : List Exchange) : Prop :=
  ∀ e ∈ es, e.request.payments ≠ [] →
    (deliveredBy X e).isSome

theorem allDelivered_append
    {es es' : List Exchange} :
    AllDelivered X (es ++ es') ↔
      AllDelivered X es ∧ AllDelivered X es' :=
  List.forall_mem_append

theorem allDelivered_of_unpaid
    {es : List Exchange}
    (hUnpaid : ∀ e ∈ es, e.request.payments = []) :
    AllDelivered X es := by
  intro e hMem hPaid
  exact absurd (hUnpaid e hMem) hPaid

variable {R : PaymentReader X}
variable {client : SolvelaClient X}
variable {url : String}
variable {headers : List Header}
variable {req : ChatRequest}

/- In a successful attempt every payment was answered. -/
theorem Attempt.allDelivered
    {es : List Exchange}
    {answer : ChatResponse × Option UInt64}
    (hAttempt :
      Attempt client url headers req es (.ok answer))
    (hUnpaid : Unpaid headers) :
    AllDelivered X es := by
  generalize hOutcome :
      (Except.ok answer :
        Except ClientError (ChatResponse × Option UInt64)) =
        r at hAttempt
  cases hAttempt with
  | answered hProbe _ =>
      exact allDelivered_of_unpaid
        (payments_eq_nil_of_unpaid
          (hProbe.payments_eq_nil hUnpaid) (by simp))
  | failed _ _ => cases hOutcome
  | refused _ _ _ _ => cases hOutcome
  | @paid probe payment _ rpcs _ _ hProbe _ hRpcs _
      hPayment =>
      rcases map_eq_ok_iff.mp hOutcome.symm with
        ⟨response, hAnswer, _⟩
      have hFirst : AllDelivered X (probe :: rpcs) :=
        allDelivered_of_unpaid
          (payments_eq_nil_of_unpaid
            (hProbe.payments_eq_nil hUnpaid) hRpcs)
      have hLast : AllDelivered X [payment] := by
        intro e hMem _
        rw [List.mem_singleton.mp hMem,
          deliveredBy_eq_paid hPayment.peer, hAnswer]
        rfl
      exact allDelivered_append.mpr ⟨hFirst, hLast⟩

/- An attempt that was answered directly spends nothing. -/
theorem Attempt.free_spec
    {es : List Exchange}
    {response : ChatResponse}
    (hAttempt :
      Attempt client url headers req es
        (.ok (response, none)))
    (hUnpaid : Unpaid headers) :
    R.spent es = 0 := by
  generalize hOutcome :
      (Except.ok (response, none) :
        Except ClientError (ChatResponse × Option UInt64)) =
        r at hAttempt
  cases hAttempt with
  | answered hProbe _ =>
      exact PaymentReader.spent_of_unpaid
        (payments_eq_nil_of_unpaid
          (hProbe.payments_eq_nil hUnpaid) (by simp))
  | failed _ _ => cases hOutcome
  | refused _ _ _ _ => cases hOutcome
  | paid _ _ _ _ _ =>
      rcases map_eq_ok_iff.mp hOutcome.symm with
        ⟨_, _, hNo⟩
      cases hNo

/- An attempt that paid ends with its one payment. -/
theorem Attempt.paid_spec
    {es : List Exchange}
    {response : ChatResponse}
    {amount : UInt64}
    (hAttempt :
      Attempt client url headers req es
        (.ok (response, some amount)))
    (hUnpaid : Unpaid headers) :
    ∃ before last header,
      es = before ++ [last] ∧
        last.request.payments = [header] ∧
          R.spent before = 0 ∧
            R.spent es = amount.toNat := by
  generalize hOutcome :
      (Except.ok (response, some amount) :
        Except ClientError (ChatResponse × Option UInt64)) =
        r at hAttempt
  cases hAttempt with
  | answered _ _ => cases hOutcome
  | failed _ _ => cases hOutcome
  | refused _ _ _ _ => cases hOutcome
  | @paid probe payment _ rpcs _ header hProbe _ hRpcs hSigns
      hPayment =>
      rcases map_eq_ok_iff.mp hOutcome.symm with ⟨_, _, hSame⟩
      cases hSame
      have hBefore : R.spent (probe :: rpcs) = 0 :=
        PaymentReader.spent_of_unpaid
          (payments_eq_nil_of_unpaid
            (hProbe.payments_eq_nil hUnpaid) hRpcs)
      have hPaid := hPayment.payments_eq_singleton
      have hSplit :=
        PaymentReader.spent_append (R := R)
          (probe :: rpcs) [payment]
      rw [hBefore, PaymentReader.spent_singleton hPaid,
        PaymentReader.amountOf_of_signs hSigns,
        Nat.zero_add] at hSplit
      exact ⟨probe :: rpcs, payment, header, rfl, hPaid,
        hBefore, hSplit⟩

/-
  An attempt that failed reports no spending, and its payment,
  if it made one, was not answered.
-/
theorem Attempt.failed_spec
    {es : List Exchange}
    {err : ClientError}
    (hAttempt :
      Attempt client url headers req es (.error err))
    (hUnpaid : Unpaid headers) :
    OffBudget err ∧
      (AllDelivered X es → R.spent es = 0) := by
  have hFree :
      ∀ {probe : Exchange} {rpcs : List Exchange},
        Posts url headers req probe →
          (∀ e ∈ rpcs, IsRpc e) →
            R.spent (probe :: rpcs) = 0 := by
    intro probe rpcs hProbe hRpcs
    exact PaymentReader.spent_of_unpaid
      (payments_eq_nil_of_unpaid
        (hProbe.payments_eq_nil hUnpaid) hRpcs)
  generalize hOutcome :
      (Except.error err :
        Except ClientError (ChatResponse × Option UInt64)) =
        r at hAttempt
  cases hAttempt with
  | answered _ _ => cases hOutcome
  | failed hProbe hAnswer =>
      cases hOutcome
      exact ⟨replyOutcome_offBudget
          SolvelaClient.readProbe_offBudget _ err hAnswer,
        fun _ => hFree hProbe (by simp)⟩
  | refused hProbe _ hRpcs hRefused =>
      cases hOutcome
      exact ⟨hRefused.offBudget,
        fun _ => hFree hProbe hRpcs⟩
  | @paid probe payment _ rpcs _ _ hProbe _ _ _ hPayment =>
      cases hAnswer : paidOutcome X payment with
      | ok response =>
          rw [hAnswer] at hOutcome
          cases hOutcome
      | error err' =>
          rw [hAnswer] at hOutcome
          cases hOutcome
          refine ⟨replyOutcome_offBudget
            SolvelaClient.readPaidResponse_offBudget _ err
            hAnswer, ?_⟩
          intro hDelivered
          have hMem :
              payment ∈ probe :: (rpcs ++ [payment]) := by
            simp
          have hNone := hDelivered payment hMem
            (by simp [hPayment.payments_eq_singleton])
          rw [deliveredBy_eq_paid hPayment.peer,
            hAnswer] at hNone
          cases hNone

end Solvela

------------------------------------------------------------
-- The Running Total
------------------------------------------------------------

namespace Solvela

open Effects

theorem toNat_saturatingAdd
    (a b : UInt64) :
    (saturatingAdd a b).toNat =
      min (a.toNat + b.toNat) maxU64.toNat := by
  have hMax : maxU64.toNat = 2 ^ 64 - 1 := by
    rfl
  unfold saturatingAdd
  by_cases hSmall : a.toNat + b.toNat < 2 ^ 64
  · rw [if_pos hSmall, UInt64.toNat_add,
      Nat.mod_eq_of_lt hSmall]
    omega
  · rw [if_neg hSmall]
    omega

variable {X : Crates}

/- A total that ends below the largest value is exact. -/
theorem toNat_saturatingAdd_of_le
    {a b cap : UInt64}
    (hLe : saturatingAdd a b ≤ cap)
    (hBelow : cap < maxU64) :
    (saturatingAdd a b).toNat = a.toNat + b.toNat := by
  have hSum := toNat_saturatingAdd a b
  have hBound := UInt64.le_iff_toNat_le.mp hLe
  have hLess := UInt64.lt_iff_toNat_lt.mp hBelow
  omega

/- A total within the cap passes. -/
theorem checkBudget_eq_ok_iff
    {config : ClientConfig}
    {cap : UInt64}
    (hCap : config.maxPaymentAmount = some cap)
    {total : UInt64} :
    SolvelaClient.checkBudget config total = .ok () ↔
      total ≤ cap := by
  unfold SolvelaClient.checkBudget
  rw [hCap]
  by_cases hOver : total > cap
  · simp only [if_pos hOver, reduceCtorEq, false_iff]
    exact UInt64.not_le.mpr hOver
  · simp only [if_neg hOver, true_iff]
    exact UInt64.not_lt.mp hOver

/- One above it is reported. -/
theorem checkBudget_eq_error
    {config : ClientConfig}
    {cap : UInt64}
    (hCap : config.maxPaymentAmount = some cap)
    {total : UInt64}
    {err : ClientError}
    (hOver :
      SolvelaClient.checkBudget config total = .error err) :
    err = .budgetExceeded total cap ∧ cap < total := by
  unfold SolvelaClient.checkBudget at hOver
  rw [hCap] at hOver
  by_cases hExceeds : total > cap
  · simp only [if_pos hExceeds] at hOver
    cases hOver
    exact ⟨rfl, hExceeds⟩
  · simp only [if_neg hExceeds] at hOver
    cases hOver

/-
  After `base` was spent, the payments of `es` take the sum
  to `spent` with the last exchange, and not before.
-/
structure Overdrawn
    (R : PaymentReader X)
    (cap : UInt64)
    (base : Nat)
    (es : List Exchange)
    (spent : UInt64) : Prop where
  total : spent.toNat =
    min (base + R.spent es) maxU64.toNat
  exceeds : cap < spent
  lastPaid : ∃ before last header,
    es = before ++ [last] ∧
      last.request.payments = [header] ∧
        base + R.spent before ≤ cap.toNat
  delivered : AllDelivered X es

/-
  A reported sum is what was spent, and a sum above the cap
  is reported when every payment was answered.
-/
structure Accounted
    (R : PaymentReader X)
    (cap : UInt64)
    (base : Nat)
    (es : List Exchange)
    (r : Except ClientError ChatResponse) : Prop where
  reported : ∀ spent max,
    r = .error (.budgetExceeded spent max) →
      max = cap ∧ Overdrawn R cap base es spent
  exceeded : AllDelivered X es →
    cap.toNat < base + R.spent es →
      ∃ spent, r = .error (.budgetExceeded spent cap)

variable {R : PaymentReader X}
variable {cap : UInt64}

/- What was spent within the cap reports nothing. -/
theorem accounted_of_within
    {base : Nat}
    {es : List Exchange}
    {r : Except ClientError ChatResponse}
    (hErrors : ErrorsIn OffBudget r)
    (hWithin : AllDelivered X es →
      base + R.spent es ≤ cap.toNat) :
    Accounted R cap base es r where
  reported := by
    intro spent max hReported
    exact (hErrors _ hReported).elim
  exceeded := by
    intro hDelivered hOver
    exact absurd hOver
      (Nat.not_lt.mpr (hWithin hDelivered))

/- What takes the sum above the cap is reported. -/
theorem Overdrawn.accounted
    {base : Nat}
    {es : List Exchange}
    {spent : UInt64}
    (hOver : Overdrawn R cap base es spent) :
    Accounted R cap base es
      (.error (.budgetExceeded spent cap)) where
  reported := by
    intro spent' max hReported
    cases hReported
    exact ⟨rfl, hOver⟩
  exceeded := fun _ _ => ⟨spent, rfl⟩

/- An earlier attempt within the cap adds to the base. -/
theorem Accounted.prepend
    {base : Nat}
    {es rest : List Exchange}
    {r : Except ClientError ChatResponse}
    (hRest : Accounted R cap (base + R.spent es) rest r)
    (hDelivered : AllDelivered X es) :
    Accounted R cap base (es ++ rest) r where
  reported := by
    intro spent max hReported
    rcases hRest.reported spent max hReported with
      ⟨hMax, hOver⟩
    refine ⟨hMax,
      { total := ?_
        exceeds := hOver.exceeds
        lastPaid := ?_
        delivered := allDelivered_append.mpr
          ⟨hDelivered, hOver.delivered⟩ }⟩
    · rw [PaymentReader.spent_append, ← Nat.add_assoc]
      exact hOver.total
    · rcases hOver.lastPaid with
        ⟨before, last, header, rfl, hPaid, hBefore⟩
      refine ⟨es ++ before, last, header,
        (List.append_assoc _ _ _).symm, hPaid, ?_⟩
      rw [PaymentReader.spent_append, ← Nat.add_assoc]
      exact hBefore
  exceeded := by
    intro hAll hOver
    apply hRest.exceeded (allDelivered_append.mp hAll).2
    rw [PaymentReader.spent_append, ← Nat.add_assoc] at hOver
    exact hOver

variable {client : SolvelaClient X}
variable {url : String}
variable {req : ChatRequest}

/- The running total is the exact sum while the loop runs. -/
theorem Retries.accounted
    {attempts : Nat}
    {response : ChatResponse}
    {total : UInt64}
    {es : List Exchange}
    {r : Except ClientError ChatResponse}
    (hRetries :
      Retries client url req attempts response total es r)
    (hCap : client.config.maxPaymentAmount = some cap)
    (hBelow : cap < maxU64)
    (hWithin : total ≤ cap) :
    Accounted R cap total.toNat es r := by
  induction hRetries with
  | exhausted =>
      exact accounted_of_within (errorsIn_ok _)
        (fun _ => UInt64.le_iff_toNat_le.mp hWithin)
  | accepted _ =>
      exact accounted_of_within (errorsIn_ok _)
        (fun _ => UInt64.le_iff_toNat_le.mp hWithin)
  | failed _ hAttempt =>
      have hSpec := hAttempt.failed_spec (R := R)
        unpaid_retryReasonHeader
      apply accounted_of_within (errorsIn_error hSpec.1)
      intro hDelivered
      rw [hSpec.2 hDelivered]
      exact UInt64.le_iff_toNat_le.mp hWithin
  | answered _ hAttempt _ ih =>
      have hSpent : R.spent _ = 0 :=
        hAttempt.free_spec unpaid_retryReasonHeader
      have hRest := ih hWithin
      apply Accounted.prepend _
        (hAttempt.allDelivered unpaid_retryReasonHeader)
      rw [hSpent]
      exact hRest
  | @overspent _ _ _ total amount es err _ hAttempt hOver =>
      rcases hAttempt.paid_spec (R := R)
          unpaid_retryReasonHeader with
        ⟨before, last, header, hSplit, hPaid, hBefore,
          hSpent⟩
      rcases checkBudget_eq_error hCap hOver with
        ⟨rfl, hExceeds⟩
      apply Overdrawn.accounted
      refine
        { total := ?_
          exceeds := hExceeds
          lastPaid := ⟨before, last, header, hSplit, hPaid, ?_⟩
          delivered :=
            hAttempt.allDelivered unpaid_retryReasonHeader }
      · rw [hSpent]
        exact toNat_saturatingAdd total amount
      · rw [hBefore]
        exact UInt64.le_iff_toNat_le.mp hWithin
  | @paid _ _ _ total amount es rest _ _ hAttempt hOk _ ih =>
      rcases hAttempt.paid_spec (R := R)
          unpaid_retryReasonHeader with
        ⟨_, _, _, _, _, _, hSpent⟩
      have hStill := (checkBudget_eq_ok_iff hCap).mp hOk
      have hExact := toNat_saturatingAdd_of_le hStill hBelow
      apply Accounted.prepend _
        (hAttempt.allDelivered unpaid_retryReasonHeader)
      rw [hSpent, ← hExact]
      exact ih hStill

/- So is what a conversation reports. -/
theorem Conversation.accounted
    {es : List Exchange}
    {r : Except ClientError ChatResponse}
    (hTalk : Conversation client url req es r)
    (hCap : client.config.maxPaymentAmount = some cap)
    (hBelow : cap < maxU64) :
    Accounted R cap 0 es r := by
  have hOnce :
      ∀ {es r}, Attempt client url [] req es r →
        0 + R.spent es ≤ cap.toNat := by
    intro es r hAttempt
    rw [Nat.zero_add]
    exact spent_le_of_attempt hAttempt unpaid_nil hCap
  cases hTalk with
  | failed hAttempt =>
      have hSpec := hAttempt.failed_spec (R := R) unpaid_nil
      exact accounted_of_within (errorsIn_error hSpec.1)
        (fun _ => hOnce hAttempt)
  | unchecked _ hAttempt =>
      exact accounted_of_within (errorsIn_ok _)
        (fun _ => hOnce hAttempt)
  | @checked es rest response amount _ _ hAttempt hRetries =>
      have hSpent :
          R.spent es = (amount.getD 0).toNat := by
        cases amount with
        | none => exact hAttempt.free_spec unpaid_nil
        | some amount =>
            rcases hAttempt.paid_spec (R := R) unpaid_nil with
              ⟨_, _, _, _, _, _, hSpent⟩
            exact hSpent
      have hWithin : amount.getD 0 ≤ cap := by
        have hLe := hOnce hAttempt
        rw [Nat.zero_add, hSpent] at hLe
        exact UInt64.le_iff_toNat_le.mpr hLe
      apply Accounted.prepend _
        (hAttempt.allDelivered unpaid_nil)
      rw [Nat.zero_add, hSpent]
      exact hRetries.accounted hCap hBelow hWithin

end Solvela

------------------------------------------------------------
-- Budget Errors
------------------------------------------------------------

namespace Solvela

open Effects

variable {X : Crates}

/-
  With a maximum below the largest value, a call that ends
  with a budget error reports the exact sum of its payments,
  the last of which took it above the maximum; and a call
  whose answered payments exceed the maximum ends so.
-/
theorem budget_accounted
    (R : PaymentReader X)
    (client : SolvelaClient X)
    (cap : UInt64)
    (hCap : client.config.maxPaymentAmount = some cap)
    (hBelow : cap < maxU64)
    (env : Env)
    (req : ChatRequest)
    (world world' : World X)
    (r : Except ClientError ChatResponse)
    (hRun : Runs (client.chat env req) world r world') :
    ∃ es, world'.trace = world.trace ++ es ∧
      Accounted R cap 0 es r := by
  rcases SolvelaClient.runs_chat.mp hRun with
    ⟨cached, _, rfl, rfl⟩ | ⟨_, spoken, hSpeak, rfl⟩
  · refine ⟨[], by simp, ?_⟩
    exact accounted_of_within (errorsIn_ok _)
      (fun _ => Nat.zero_le _)
  · rcases SolvelaClient.converse_spec hSpeak with
      ⟨es, rfl, hTalk⟩
    exact ⟨es,
      Demand.finish_extend_trace client env req world r es,
      hTalk.accounted hCap hBelow⟩

/-
  A client with the default maximum pays it twice, and the
  call ends with the sum of both payments.
-/
theorem budget_accounted_checked :
    ∃ world' es,
      Runs
          ((sampleClient checkedConfig).chat sampleEnv
            sampleRequest)
          (World.new checkedConfig 0)
          (.error (.budgetExceeded 20000000 10000000))
          world' ∧
        world'.trace = es ∧ paymentCount es = 2 ∧
          Accounted sampleReader 10000000 0 es
            (.error (.budgetExceeded 20000000 10000000)) := by
  have hFrom :
      ∀ (client : SolvelaClient sampleCrates)
        (world spoken : World sampleCrates) (e : ClientError),
        client.config.maxPaymentAmount = some 10000000 →
          world.trace = [] →
            spoken =
                final (client.chat sampleEnv sampleRequest)
                  world →
              thrown (client.chat sampleEnv sampleRequest)
                  world = some e →
                paymentCount spoken.trace = 2 →
                  ∃ world' es,
                    Runs
                        (client.chat sampleEnv sampleRequest)
                        world (.error e) world' ∧
                      world'.trace = es ∧
                        paymentCount es = 2 ∧
                          Accounted sampleReader 10000000 0 es
                            (.error e) := by
    intro client world spoken e hCap hNew hSpoken hThrown
      hPayments
    have hRun := runs_of_thrown hThrown
    rw [← hSpoken] at hRun
    rcases budget_accounted sampleReader client 10000000 hCap
        (by decide) sampleEnv sampleRequest world spoken
        (.error e) hRun with
      ⟨es, hTrace, hAccounted⟩
    rw [hNew, List.nil_append] at hTrace
    rw [hTrace] at hPayments
    exact ⟨spoken, es, hRun, hTrace, hPayments, hAccounted⟩
  exact hFrom (sampleClient checkedConfig)
    (World.new checkedConfig 0) _
    (.budgetExceeded 20000000 10000000) rfl rfl rfl
    (by decide +kernel) (by decide +kernel)

end Solvela
