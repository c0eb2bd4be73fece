import Solvela.Client.Calls
import Solvela.Foundations.Challenges
import Solvela.Proxy.Forwarding

/-
  What the client pays for.

  A 402 response is a challenge, and a payment header is the
  answer to it.  Each path to the signer is one challenge
  with at most one answer; a call strings such dialogues
  together.

  Main declarations:
    * `Answers`, `Honest`
    * `Conversation.honest`, `StreamAttempt.honest`
    * `ProxyAttempt.honest`
-/

------------------------------------------------------------
-- Honest Dialogues
------------------------------------------------------------

namespace Solvela

open Challenges

variable {X : Crates}

/- `header` is a signature for the terms of `required`. -/
def Answers
    (client : SolvelaClient X)
    (required : PaymentRequired)
    (header : String) : Prop :=
  ∃ amount, Signs client required amount header

/-
  Payments go to the gateway only, and there each answers the
  402 response right before it.
-/
structure Honest
    (client : SolvelaClient X)
    (es : List Exchange) : Prop where
  toGateway : ∀ e ∈ es, e.peer = .rpc →
    e.request.payments = []
  answered :
    Answered (termsOf X) (fun e => e.request.payments)
      (Answers client) none (gatewayExchanges es)

theorem Honest.append
    {client : SolvelaClient X}
    {first second : List Exchange}
    (hFirst : Honest client first)
    (hSecond : Honest client second) :
    Honest client (first ++ second) := by
  constructor
  · intro e hMem hRpc
    rcases List.mem_append.mp hMem with hOld | hNew
    · exact hFirst.toGateway e hOld hRpc
    · exact hSecond.toGateway e hNew hRpc
  · have hParts :
        gatewayExchanges (first ++ second) =
          gatewayExchanges first ++
            gatewayExchanges second :=
      List.filter_append first second
    rw [hParts]
    exact hFirst.answered.append hSecond.answered

/- Every payment is signed for some terms. -/
theorem Honest.signs_of_mem
    {client : SolvelaClient X}
    {es : List Exchange}
    (hHonest : Honest client es)
    {e : Exchange}
    {header : String}
    (hEvent : e ∈ es)
    (hPaid : header ∈ e.request.payments) :
    ∃ required amount,
      Signs client required amount header := by
  cases hPeer : e.peer with
  | rpc =>
      rw [hHonest.toGateway e hEvent hPeer] at hPaid
      cases hPaid
  | gateway =>
      have hGateway : e ∈ gatewayExchanges es := by
        apply List.mem_filter.mpr
        exact ⟨hEvent, by simp [hPeer]⟩
      exact hHonest.answered.valid_of_mem hGateway hPaid

/- Exchanges without payments are honest. -/
theorem honest_of_forall_unpaid
    (client : SolvelaClient X)
    {es : List Exchange}
    (hUnpaid : ∀ e ∈ es, e.request.payments = []) :
    Honest client es := by
  constructor
  · intro e hMem _
    exact hUnpaid e hMem
  · apply answered_of_forall_eq_nil
    intro e hMem
    exact hUnpaid e (List.mem_of_mem_filter hMem)

/-
  A probe answered with terms, and one payment signed for
  them, are honest.
-/
theorem honest_of_paid
    {client : SolvelaClient X}
    {probe payment : Exchange}
    {rpcs : List Exchange}
    {required : PaymentRequired}
    {amount : UInt64}
    {header : String}
    (hProbe : probe.peer = .gateway)
    (hUnpaid : probe.request.payments = [])
    (hTerms : termsOf X probe = some required)
    (hRpcs : ∀ e ∈ rpcs, IsRpc e)
    (hSigns : Signs client required amount header)
    (hPayment : payment.peer = .gateway)
    (hPaid : payment.request.payments = [header]) :
    Honest client (probe :: (rpcs ++ [payment])) := by
  constructor
  · intro e hMem hRpc
    rcases List.mem_cons.mp hMem with hFirst | hRest
    · rw [hFirst]
      exact hUnpaid
    · rcases List.mem_append.mp hRest with hMiddle | hLast
      · exact (hRpcs e hMiddle).2
      · rw [List.mem_singleton.mp hLast, hPayment] at hRpc
        cases hRpc
  · rw [gatewayExchanges_of_paid hProbe hRpcs hPayment]
    exact ⟨Or.inl hUnpaid, Or.inr
      ⟨required, header, hTerms, hPaid, amount, hSigns⟩,
      trivial⟩

end Solvela

------------------------------------------------------------
-- Every Path Is Honest
------------------------------------------------------------

namespace Solvela

variable {X : Crates}

/- A request whose other headers are no payments. -/
def Unpaid
    (headers : List Header) : Prop :=
  ∀ header ∈ headers,
    lowercase header.1 ≠ "payment-signature"

theorem unpaid_nil :
    Unpaid [] := by
  intro header hNo
  cases hNo

theorem unpaid_retryReasonHeader :
    Unpaid [SolvelaClient.retryReasonHeader] := by
  intro header hMem
  rw [List.mem_singleton.mp hMem]
  decide

theorem payments_post_of_unpaid
    {headers : List Header}
    (hUnpaid : Unpaid headers)
    (url : String)
    (body : Body) :
    (HttpRequest.post url headers body).payments = [] := by
  unfold HttpRequest.payments HttpRequest.post
  rw [List.map_eq_nil_iff, List.filter_eq_nil_iff]
  intro header hMem hPayment
  exact hUnpaid header hMem (beq_iff_eq.mp hPayment)

theorem Posts.payments_eq_nil
    {url : String}
    {headers : List Header}
    {req : ChatRequest}
    {e : Exchange}
    (hPosts : Posts url headers req e)
    (hUnpaid : Unpaid headers) :
    e.request.payments = [] := by
  rw [hPosts.request]
  exact payments_post_of_unpaid hUnpaid url (.chat req)

theorem Posts.payments_eq_singleton
    {url header : String}
    {req : ChatRequest}
    {e : Exchange}
    (hPosts :
      Posts url [(paymentSignature, header)] req e) :
    e.request.payments = [header] := by
  rw [hPosts.request]
  exact payments_paymentSignature

/- A probe and RPC requests carry no payment. -/
theorem payments_eq_nil_of_unpaid
    {probe : Exchange}
    {rpcs : List Exchange}
    (hProbe : probe.request.payments = [])
    (hRpcs : ∀ e ∈ rpcs, IsRpc e) :
    ∀ e ∈ probe :: rpcs, e.request.payments = [] := by
  intro e hMem
  rcases List.mem_cons.mp hMem with hFirst | hRest
  · rw [hFirst]
    exact hProbe
  · exact (hRpcs e hRest).2

theorem Attempt.honest
    {client : SolvelaClient X}
    {url : String}
    {headers : List Header}
    {req : ChatRequest}
    {es : List Exchange}
    {r : Except ClientError (ChatResponse × Option UInt64)}
    (hAttempt : Attempt client url headers req es r)
    (hUnpaid : Unpaid headers) :
    Honest client es := by
  cases hAttempt with
  | answered hProbe hAnswer =>
      apply honest_of_forall_unpaid
      exact payments_eq_nil_of_unpaid
        (hProbe.payments_eq_nil hUnpaid) (by simp)
  | failed hProbe hAnswer =>
      apply honest_of_forall_unpaid
      exact payments_eq_nil_of_unpaid
        (hProbe.payments_eq_nil hUnpaid) (by simp)
  | refused hProbe hAnswer hRpcs _ =>
      apply honest_of_forall_unpaid
      exact payments_eq_nil_of_unpaid
        (hProbe.payments_eq_nil hUnpaid) hRpcs
  | paid hProbe hAnswer hRpcs hSigns hPayment =>
      exact honest_of_paid hProbe.peer
        (hProbe.payments_eq_nil hUnpaid)
        (termsOf_of_probeOutcome hAnswer) hRpcs hSigns
        hPayment.peer hPayment.payments_eq_singleton

theorem Retries.honest
    {client : SolvelaClient X}
    {url : String}
    {req : ChatRequest}
    {attempts : Nat}
    {response : ChatResponse}
    {total : UInt64}
    {es : List Exchange}
    {r : Except ClientError ChatResponse}
    (hRetries :
      Retries client url req attempts response total es r) :
    Honest client es := by
  induction hRetries with
  | exhausted => exact honest_of_forall_unpaid client (by simp)
  | accepted _ =>
      exact honest_of_forall_unpaid client (by simp)
  | failed _ hAttempt =>
      exact hAttempt.honest unpaid_retryReasonHeader
  | answered _ hAttempt _ ih =>
      exact (hAttempt.honest unpaid_retryReasonHeader).append ih
  | overspent _ hAttempt _ =>
      exact hAttempt.honest unpaid_retryReasonHeader
  | paid _ hAttempt _ _ ih =>
      exact (hAttempt.honest unpaid_retryReasonHeader).append ih

theorem Conversation.honest
    {client : SolvelaClient X}
    {url : String}
    {req : ChatRequest}
    {es : List Exchange}
    {r : Except ClientError ChatResponse}
    (hTalk : Conversation client url req es r) :
    Honest client es := by
  cases hTalk with
  | failed hAttempt => exact hAttempt.honest unpaid_nil
  | unchecked _ hAttempt =>
      exact hAttempt.honest unpaid_nil
  | checked _ hAttempt hRetries =>
      exact (hAttempt.honest unpaid_nil).append
        (hRetries.honest)

theorem StreamAttempt.honest
    {client : SolvelaClient X}
    {url : String}
    {req : ChatRequest}
    {es : List Exchange}
    {r : Except ClientError
      (List (Except ClientError X.ChatChunk))}
    (hAttempt : StreamAttempt client url req es r) :
    Honest client es := by
  cases hAttempt with
  | failed hProbe hAnswer =>
      apply honest_of_forall_unpaid
      exact payments_eq_nil_of_unpaid
        (hProbe.payments_eq_nil unpaid_nil) (by simp)
  | opened hProbe hAnswer hOpening =>
      apply honest_of_forall_unpaid
      intro e hMem
      rcases List.mem_cons.mp hMem with hFirst | hSecond
      · rw [hFirst]
        exact hProbe.payments_eq_nil unpaid_nil
      · rw [List.mem_singleton.mp hSecond]
        exact hOpening.payments_eq_nil unpaid_nil
  | refused hProbe hAnswer hRpcs =>
      apply honest_of_forall_unpaid
      exact payments_eq_nil_of_unpaid
        (hProbe.payments_eq_nil unpaid_nil) hRpcs
  | paid hProbe hAnswer hRpcs hSigns hPayment =>
      exact honest_of_paid hProbe.peer
        (hProbe.payments_eq_nil unpaid_nil)
        (termsOf_of_streamProbeOutcome hAnswer) hRpcs hSigns
        hPayment.peer hPayment.payments_eq_singleton

theorem ProxyAttempt.honest
    {state : ProxyState X}
    {request : CallerRequest}
    {es : List Exchange}
    (hAttempt : ProxyAttempt state request es) :
    Honest state.client es := by
  cases hAttempt with
  | unpaid hProbe hRpcs =>
      apply honest_of_forall_unpaid
      apply payments_eq_nil_of_unpaid _ hRpcs
      rw [hProbe.request]
      exact payments_forwardHeaders
  | paid hProbe hTerms hRpcs hSigns hPayment =>
      apply honest_of_paid hProbe.peer _ hTerms hRpcs hSigns
        hPayment.peer _
      · rw [hProbe.request]
        exact payments_forwardHeaders
      · rw [hPayment.request]
        exact payments_forwardHeaders.trans
          payments_paymentSignature

end Solvela
