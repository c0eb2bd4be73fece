import Solvela.Client.Charging

/-
  Payments are made by the terms that were asked for.

  Every operation of the client and the proxy is covered:
  those that can pay, and those that never do.

  Main declarations:
    * `PaysByTheTerms`
    * `Honest.paysByTheTerms`
    * `payments_follow_terms`
-/

------------------------------------------------------------
-- Payments Follow Their Terms
------------------------------------------------------------

namespace Solvela

open Effects

variable {X : Crates}

/-
  Each request of `es` with a payment goes to the gateway and
  carries one, signed for the 402 body that the request to
  the gateway right before it was answered with.
-/
structure PaysByTheTerms
    (R : PaymentReader X)
    (client : SolvelaClient X)
    (es : List Exchange) : Prop where
  toGateway : ∀ e ∈ es, e.peer = .rpc →
    e.request.payments = []
  answers : ∀ past e rest,
    gatewayExchanges es = past ++ e :: rest →
      e.request.payments = [] ∨
        ∃ before probe required header accept amount,
          past = before ++ [probe] ∧
            termsOf X probe = some required ∧
              e.request.payments = [header] ∧
                SignedFor R client required accept amount
                  header

/- Honest exchanges pay by the terms. -/
theorem Honest.paysByTheTerms
    (R : PaymentReader X)
    {client : SolvelaClient X}
    {es : List Exchange}
    (hHonest : Honest client es) :
    PaysByTheTerms R client es := by
  constructor
  · exact hHonest.toGateway
  · intro past e rest hSplit
    have hAnswered := hHonest.answered
    rw [hSplit] at hAnswered
    rcases hAnswered.follows with
      hNone | ⟨before, probe, required, header, hPast, hTerms,
        hPaid, amount, hSigns⟩
    · exact Or.inl hNone
    · rcases hSigns.signedFor R with ⟨accept, hFor⟩
      exact Or.inr ⟨before, probe, required, header, accept,
        amount, hPast, hTerms, hPaid, hFor⟩

/- A program that records one exchange without a payment. -/
theorem exchange_unpaid
    {ε α : Type}
    {env : Env}
    {peer : Peer}
    {request : HttpRequest}
    {failed : ReqwestError → ε}
    {read : HttpResponse → Except ε α}
    {world world' : World X}
    {r : Except ε α}
    (hRun :
      Runs (exchange env peer request failed read) world r
        world')
    (hUnpaid : request.payments = []) :
    ∃ es, world'.trace = world.trace ++ es ∧
      ∀ e ∈ es, e.request.payments = [] := by
  rcases runs_exchange.mp hRun with ⟨reply, _, _, rfl⟩
  refine ⟨_, rfl, ?_⟩
  intro e hMem
  rw [List.mem_singleton.mp hMem]
  exact hUnpaid

/- Asking for a balance sends no payment. -/
theorem usdcBalanceOf_unpaid
    {client : SolvelaClient X}
    {env : Env}
    {address : String}
    {world world' : World X}
    {r : Except ClientError ℚ}
    (hRun :
      Runs (client.usdcBalanceOf env address) world r
        world') :
    ∃ es, world'.trace = world.trace ++ es ∧
      ∀ e ∈ es, e.request.payments = [] := by
  have hStopped :
      ∃ es, world.trace = world.trace ++ es ∧
        ∀ e ∈ es, e.request.payments = [] :=
    ⟨[], (List.append_nil _).symm, by simp⟩
  unfold SolvelaClient.usdcBalanceOf at hRun
  rcases runs_ofOutcome_bind.mp hRun with
    ⟨owner, _, hRest⟩ | ⟨_, _, _, rfl⟩
  · rcases runs_ofOutcome_bind.mp hRest with
      ⟨mint, _, hAsk⟩ | ⟨_, _, _, rfl⟩
    · exact exchange_unpaid hAsk rfl
    · exact hStopped
  · exact hStopped

/-
  Whatever the gateway and the RPC endpoint reply: a payment
  that any operation sends, or that signing returns, is made
  by the terms that were just asked for.
-/
theorem payments_follow_terms
    (R : PaymentReader X)
    (client : SolvelaClient X)
    (env : Env)
    (world world' : World X) :
    (∀ req r, Runs (client.chat env req) world r world' →
      ∃ es, world'.trace = world.trace ++ es ∧
        PaysByTheTerms R client es) ∧
    (∀ req r,
      Runs (client.chatStream env req) world r world' →
        ∃ es, world'.trace = world.trace ++ es ∧
          PaysByTheTerms R client es) ∧
    (∀ state request r, state.client = client →
      Runs (ProxyState.proxyHandler state env request) world
          r world' →
        ∃ es, world'.trace = world.trace ++ es ∧
          PaysByTheTerms R client es) ∧
    (∀ required header,
      Runs (client.signPaymentFor402 env required) world
          (.ok header) world' →
        ∃ accept amount,
          SignedFor R client required accept amount
            header) ∧
    (∀ r, Runs (client.models env) world r world' →
      ∃ es, world'.trace = world.trace ++ es ∧
        ∀ e ∈ es, e.request.payments = []) ∧
    (∀ model r,
      Runs (client.estimateCost env model) world r world' →
        ∃ es, world'.trace = world.trace ++ es ∧
          ∀ e ∈ es, e.request.payments = []) ∧
    (∀ r, Runs (client.usdcBalance env) world r world' →
      ∃ es, world'.trace = world.trace ++ es ∧
        ∀ e ∈ es, e.request.payments = []) := by
  refine ⟨?_, ?_, ?_, ?_, ?_, ?_, ?_⟩
  · intro req r hRun
    rcases SolvelaClient.chat_trace hRun with
      hSame | ⟨es, hTrace, hTalk⟩
    · exact ⟨[], by rw [hSame, List.append_nil],
        (honest_of_forall_unpaid client
          (by simp)).paysByTheTerms R⟩
    · exact ⟨es, hTrace, hTalk.honest.paysByTheTerms R⟩
  · intro req r hRun
    rcases SolvelaClient.chatStream_trace hRun with
      ⟨es, hTrace, hTalk⟩
    exact ⟨es, hTrace, hTalk.honest.paysByTheTerms R⟩
  · intro state request r hClient hRun
    rcases ProxyState.proxyHandler_spec hRun with
      ⟨es, response, rfl, hAttempt, _⟩
    rw [← hClient]
    exact ⟨es, rfl, hAttempt.honest.paysByTheTerms R⟩
  · intro required header hRun
    rcases SolvelaClient.signPaymentFor402_spec hRun with
      ⟨_, _, _, hSigned⟩
    rcases hSigned header rfl with ⟨amount, hSigns⟩
    rcases hSigns.signedFor R with ⟨accept, hFor⟩
    exact ⟨accept, amount, hFor⟩
  · intro r hRun
    exact exchange_unpaid hRun rfl
  · intro model r hRun
    exact exchange_unpaid hRun rfl
  · intro r hRun
    exact usdcBalanceOf_unpaid hRun

/- The sample client pays, and pays by the terms. -/
theorem payments_follow_terms_default :
    ∃ r world' es,
      Runs
          ((sampleClient .default).chat sampleEnv
            sampleRequest)
          (World.new .default 0) r world' ∧
        (∃ e ∈ es, e.request.payments ≠ []) ∧
          PaysByTheTerms sampleReader
            (sampleClient .default) es := by
  have hAcceptable :
      sampleDemand.Acceptable
        (sampleClient .default).config :=
    sampleDemand_acceptable rfl rfl
  rcases hAcceptable.exists_paid_chat sampleCrates_payable
      sampleEnv rfl sampleRequest (World.new .default 0) rfl
    with ⟨r, world', es, hRun, hTrace, hPaid⟩
  rcases (payments_follow_terms sampleReader
      (sampleClient .default) sampleEnv
      (World.new .default 0) world').1 sampleRequest r hRun
    with ⟨es', hTrace', hTerms⟩
  rw [hTrace] at hTrace'
  cases List.append_cancel_left hTrace'
  exact ⟨r, world', es, hRun, hPaid, hTerms⟩

end Solvela
