import Solvela.Client.Handshake
import Solvela.Proxy.Model

/-
  What the proxy sends for one request of a caller.

  Main declarations:
    * `Forwards`, `ProxyAttempt`
    * `proxyHandler_spec`
    * `proxyHandler_forwards`
-/

------------------------------------------------------------
-- Forwarded Headers
------------------------------------------------------------

namespace Solvela

variable {X : Crates}

/- What is forwarded: the caller's headers that are texts. -/
theorem mem_forwardHeaders_iff
    {headers : List (String × List UInt8)}
    {header : Header} :
    header ∈ forwardHeaders X headers ↔
      lowercase header.1 ∉ strippedHeaders ∧
        ∃ given ∈ headers, given.1 = header.1 ∧
          X.headerValueToStr given.2 = some header.2 := by
  constructor
  · intro hMem
    rcases List.mem_filterMap.mp hMem with
      ⟨given, hGiven, hForward⟩
    by_cases hStripped : lowercase given.1 ∈ strippedHeaders
    · rw [if_pos hStripped] at hForward
      cases hForward
    · rw [if_neg hStripped] at hForward
      rcases Option.map_eq_some_iff.mp hForward with
        ⟨value, hValue, rfl⟩
      exact ⟨hStripped, given, hGiven, rfl, hValue⟩
  · intro hGiven
    rcases hGiven with
      ⟨hKept, ⟨name, bytes⟩, hMem, rfl, hValue⟩
    apply List.mem_filterMap.mpr
    refine ⟨_, hMem, ?_⟩
    rw [if_neg hKept, hValue]
    rfl

/- A stripped name is not forwarded, however it is written. -/
theorem not_stripped_of_mem_forwardHeaders
    {headers : List (String × List UInt8)}
    {header : Header}
    (hMem : header ∈ forwardHeaders X headers) :
    lowercase header.1 ∉ strippedHeaders :=
  (mem_forwardHeaders_iff.mp hMem).1

/- The caller's headers carry no payment. -/
theorem payments_forwardHeaders
    {headers : List (String × List UInt8)}
    {extra : List Header}
    {method url : String}
    {body : Body} :
    HttpRequest.payments
        { method := method
          url := url
          headers := forwardHeaders X headers ++ extra
          body := body } =
      HttpRequest.payments
        { method := method
          url := url
          headers := extra
          body := body } := by
  unfold HttpRequest.payments
  have hNone :
      (forwardHeaders X headers).filter
          (fun header =>
            lowercase header.1 == "payment-signature") =
        [] := by
    apply List.filter_eq_nil_iff.mpr
    intro header hMem hPayment
    apply not_stripped_of_mem_forwardHeaders hMem
    rw [beq_iff_eq.mp hPayment]
    decide
  rw [List.filter_append, hNone, List.nil_append]

/- One header under the payment name carries one payment. -/
theorem payments_paymentSignature
    {method url header : String}
    {body : Body} :
    HttpRequest.payments
        { method := method
          url := url
          headers := [(paymentSignature, header)]
          body := body } =
      [header] := by
  unfold HttpRequest.payments
  simp only [List.filter_cons, lowercase_paymentSignature,
    beq_self_eq_true, if_true, List.filter_nil,
    List.map_cons, List.map_nil]

end Solvela

------------------------------------------------------------
-- Attempts
------------------------------------------------------------

namespace Solvela

variable {X : Crates}

/- The request that the proxy makes of a caller's request. -/
def ProxyState.forwarded
    (state : ProxyState X)
    (request : CallerRequest)
    (extra : List Header) : HttpRequest where
  method := reqwestMethod X request.method
  url := state.gatewayUrl ++ request.pathAndQuery.getD "/"
  headers := forwardHeaders X request.headers ++ extra
  body :=
    if request.method = "POST" ∨ request.method = "PUT" ∨
        request.method = "PATCH" then
      .bytes request.body
    else
      .empty

/- A caller's request sent to the gateway. -/
structure Forwards
    (state : ProxyState X)
    (request : CallerRequest)
    (extra : List Header)
    (e : Exchange) : Prop where
  peer : e.peer = .gateway
  request : e.request = state.forwarded request extra

/- The exchanges for one request of a caller. -/
inductive ProxyAttempt
    (state : ProxyState X)
    (request : CallerRequest) : List Exchange → Prop where
  | unpaid
      {probe : Exchange}
      {rpcs : List Exchange}
      (hProbe : Forwards state request [] probe)
      (hRpcs : ∀ e ∈ rpcs, IsRpc e) :
      ProxyAttempt state request (probe :: rpcs)
  | paid
      {probe payment : Exchange}
      {required : PaymentRequired}
      {rpcs : List Exchange}
      {amount : UInt64}
      {header : String}
      (hProbe : Forwards state request [] probe)
      (hTerms : termsOf X probe = some required)
      (hRpcs : ∀ e ∈ rpcs, IsRpc e)
      (hSigns : Signs state.client required amount header)
      (hPayment :
        Forwards state request [(paymentSignature, header)]
          payment) :
      ProxyAttempt state request
        (probe :: (rpcs ++ [payment]))

/- A 402 response whose body parses asks for its terms. -/
theorem termsOf_of_body
    {e : Exchange}
    {resp : HttpResponse}
    {text : String}
    {required : PaymentRequired}
    (hReply : e.reply = .ok resp)
    (hStatus : resp.status = 402)
    (hBody : resp.body = .ok text)
    (hParse : X.paymentRequiredFromStr text = .ok required) :
    termsOf X e = some required := by
  unfold termsOf
  rw [hReply]
  simp only [if_pos hStatus]
  unfold SolvelaClient.readPaymentRequired
  unfold SolvelaClient.readText
  rw [hBody]
  change Except.toOption
    ((X.paymentRequiredFromStr text).mapError _) = _
  rw [hParse]
  rfl

end Solvela

------------------------------------------------------------
-- The Handler
------------------------------------------------------------

namespace Solvela

open Effects

namespace ProxyState

variable {X : Crates}

@[simp] theorem status_proxyErrorResponse
    (status : Nat)
    (errorType message : String)
    (details : Option Json) :
    (proxyErrorResponse X status errorType message
      details).status = status := by
  rfl

/- A reported error ends the call and is no demand. -/
theorem ends_of_proxyError
    {status : Nat}
    {errorType message : String}
    {details : Option Json}
    {world world' : World X}
    {r : Except Empty ProxyResponse}
    (hStatus : status ≠ 402)
    (hRun :
      Runs
        (pure (proxyErrorResponse X status errorType message
          details))
        world r world') :
    world' = world ∧
      ∃ response, r = .ok response ∧ response.status ≠ 402 := by
  rcases runs_pure.mp hRun with ⟨rfl, rfl⟩
  refine ⟨rfl, _, rfl, ?_⟩
  rw [status_proxyErrorResponse]
  exact hStatus

/- Every client error is reported as a bad gateway. -/
theorem status_clientErrorToResponse
    (err : ClientError) :
    (clientErrorToResponse X err).status = 502 := by
  cases err <;> rfl

/- A response other than 402 is not passed through as 402. -/
theorem status_buildPassthroughResponse
    {resp : HttpResponse}
    (hStatus : resp.status ≠ 402) :
    (buildPassthroughResponse resp).status ≠ 402 := by
  unfold buildPassthroughResponse
  by_cases hRange : 100 ≤ resp.status ∧ resp.status < 1000
  · simpa [hRange] using hStatus
  · simp [hRange]

/- Sending a caller's request adds one such exchange. -/
theorem forwards_of_runs
    {state : ProxyState X}
    {env : Env}
    {request : CallerRequest}
    {extra : List Header}
    {world world' : World X}
    {reply : Except ReqwestError HttpResponse}
    (hRun :
      Runs
        (send env .gateway (state.forwarded request extra))
        world reply world') :
    ∃ e, Forwards state request extra e ∧
      world' = world.extend [e] ∧ e.reply = reply := by
  rcases runs_send.mp hRun with ⟨_, rfl⟩
  exact ⟨_, ⟨rfl, rfl⟩, rfl, rfl⟩

/- Paying sends at most one request more. -/
theorem payAndForward_spec
    {state : ProxyState X}
    {env : Env}
    {request : CallerRequest}
    {required : PaymentRequired}
    {world world' : World X}
    {r : Except Empty ProxyResponse}
    (hRun :
      Runs
        (state.payAndForward env
          (state.gatewayUrl ++ request.pathAndQuery.getD "/")
          request.method request.headers request.body required)
        world r world') :
    ∃ rpcs response, (∀ e ∈ rpcs, IsRpc e) ∧
      r = .ok response ∧ response.status ≠ 402 ∧
      (world' = world.extend rpcs ∨
        ∃ payment amount header,
          world' = world.extend (rpcs ++ [payment]) ∧
            Signs state.client required amount header ∧
              Forwards state request
                [(paymentSignature, header)] payment) := by
  unfold payAndForward at hRun
  rcases runs_attempt_bind.mp hRun with
    ⟨signed, t, hSign, hRest⟩
  rcases SolvelaClient.signPaymentFor402_spec hSign with
    ⟨rpcs, rfl, hRpcs, hSigned⟩
  cases signed with
  | error err =>
      rcases runs_pure.mp hRest with ⟨rfl, rfl⟩
      refine ⟨rpcs, _, hRpcs, rfl, ?_, Or.inl rfl⟩
      rw [status_clientErrorToResponse]
      decide
  | ok header =>
      rcases hSigned header rfl with ⟨amount, hSigns⟩
      rcases runs_attempt_bind.mp hRest with
        ⟨reply, t, hSend, hEnd⟩
      have hSent :
          Runs
            (send env .gateway
              (state.forwarded request
                [(paymentSignature, header)]))
            (world.extend rpcs) reply t :=
        hSend
      rcases forwards_of_runs hSent with
        ⟨payment, hPayment, rfl, _⟩
      have hWorld :
          (world.extend rpcs).extend [payment] =
            world.extend (rpcs ++ [payment]) :=
        World.extend_extend _ _ _
      cases reply with
      | error err =>
          rcases ends_of_proxyError (by decide) hEnd with
            ⟨rfl, response, rfl, hNot⟩
          exact ⟨rpcs, response, hRpcs, rfl, hNot, Or.inr
            ⟨payment, amount, header, hWorld, hSigns,
              hPayment⟩⟩
      | ok resp =>
          by_cases hRejected : resp.status = 402
          · simp only [if_pos hRejected] at hEnd
            rcases ends_of_proxyError (by decide) hEnd with
              ⟨rfl, response, rfl, hNot⟩
            exact ⟨rpcs, response, hRpcs, rfl, hNot, Or.inr
              ⟨payment, amount, header, hWorld, hSigns,
                hPayment⟩⟩
          · simp only [if_neg hRejected] at hEnd
            rcases runs_pure.mp hEnd with ⟨rfl, rfl⟩
            exact ⟨rpcs, _, hRpcs, rfl,
              status_buildPassthroughResponse hRejected,
              Or.inr ⟨payment, amount, header, hWorld,
                hSigns, hPayment⟩⟩

/- What follows a demand completes the attempt. -/
theorem handle402_spec
    {state : ProxyState X}
    {env : Env}
    {request : CallerRequest}
    {probe : Exchange}
    {resp : HttpResponse}
    {world world' : World X}
    {r : Except Empty ProxyResponse}
    (hProbe : Forwards state request [] probe)
    (hReply : probe.reply = .ok resp)
    (hStatus : resp.status = 402)
    (hRun :
      Runs
        (state.handle402 env
          (state.gatewayUrl ++ request.pathAndQuery.getD "/")
          request.method request.headers request.body resp)
        (world.extend [probe]) r world') :
    ∃ es response,
      world' = world.extend es ∧
        ProxyAttempt state request es ∧
          r = .ok response ∧ response.status ≠ 402 := by
  have hAlone : ProxyAttempt state request [probe] :=
    .unpaid hProbe (fun e hNo => absurd hNo (by simp))
  unfold handle402 at hRun
  cases hBody : resp.body with
  | error err =>
      simp only [hBody] at hRun
      rcases ends_of_proxyError (by decide) hRun with
        ⟨rfl, response, rfl, hNot⟩
      exact ⟨[probe], response, rfl, hAlone, rfl, hNot⟩
  | ok text =>
      simp only [hBody] at hRun
      cases hParse : X.paymentRequiredFromStr text with
      | error err =>
          simp only [hParse] at hRun
          rcases ends_of_proxyError (by decide) hRun with
            ⟨rfl, response, rfl, hNot⟩
          exact ⟨[probe], response, rfl, hAlone, rfl, hNot⟩
      | ok required =>
          simp only [hParse] at hRun
          rcases payAndForward_spec hRun with
            ⟨rpcs, response, hRpcs, rfl, hNot,
              rfl | ⟨payment, amount, header, rfl, hSigns,
                hPayment⟩⟩
          · exact ⟨_, response, World.extend_extend _ _ _,
              .unpaid hProbe hRpcs, rfl, hNot⟩
          · have hTerms :=
              termsOf_of_body hReply hStatus hBody hParse
            exact ⟨_, response, World.extend_extend _ _ _,
              .paid hProbe hTerms hRpcs hSigns hPayment, rfl,
              hNot⟩

/- The handler makes one attempt and never answers 402. -/
theorem proxyHandler_spec
    {state : ProxyState X}
    {env : Env}
    {request : CallerRequest}
    {world world' : World X}
    {r : Except Empty ProxyResponse}
    (hRun :
      Runs (state.proxyHandler env request) world r world') :
    ∃ es response,
      world' = world.extend es ∧
        ProxyAttempt state request es ∧
          r = .ok response ∧ response.status ≠ 402 := by
  unfold proxyHandler at hRun
  rcases runs_attempt_bind.mp hRun with
    ⟨reply, t, hSend, hRest⟩
  have hSent :
      Runs (send env .gateway (state.forwarded request []))
        world reply t := by
    unfold forwarded
    rw [List.append_nil]
    exact hSend
  rcases forwards_of_runs hSent with
    ⟨probe, hProbe, rfl, hReply⟩
  have hAlone : ProxyAttempt state request [probe] :=
    .unpaid hProbe (fun e hNo => absurd hNo (by simp))
  cases reply with
  | error err =>
      by_cases hTimeout : err.isTimeout = true
      · simp only [if_pos hTimeout] at hRest
        rcases ends_of_proxyError (by decide) hRest with
          ⟨rfl, response, rfl, hNot⟩
        exact ⟨[probe], response, rfl, hAlone, rfl, hNot⟩
      · simp only [if_neg hTimeout] at hRest
        rcases ends_of_proxyError (by decide) hRest with
          ⟨rfl, response, rfl, hNot⟩
        exact ⟨[probe], response, rfl, hAlone, rfl, hNot⟩
  | ok resp =>
      by_cases hStatus : resp.status = 402
      · simp only [if_pos hStatus] at hRest
        exact handle402_spec hProbe hReply hStatus hRest
      · simp only [if_neg hStatus] at hRest
        rcases runs_pure.mp hRest with ⟨rfl, rfl⟩
        exact ⟨[probe], _, rfl, hAlone, rfl,
          status_buildPassthroughResponse hStatus⟩

end ProxyState

end Solvela

------------------------------------------------------------
-- Faithful Forwarding
------------------------------------------------------------

namespace Solvela

open Effects

namespace ProxyState

variable {X : Crates}

/- No forwarded request carries a stripped header. -/
theorem not_stripped_of_forwards
    {state : ProxyState X}
    {request : CallerRequest}
    {extra : List Header}
    {e : Exchange}
    (hForwards : Forwards state request extra e)
    {header : Header}
    (hMem : header ∈ e.request.headers) :
    lowercase header.1 ∉ strippedHeaders ∨
      header ∈ extra := by
  rw [hForwards.request] at hMem
  rcases List.mem_append.mp hMem with hCaller | hExtra
  · exact Or.inl (not_stripped_of_mem_forwardHeaders hCaller)
  · exact Or.inr hExtra

/- So it carries none that belongs to the connection. -/
theorem clean_of_forwards
    {state : ProxyState X}
    {request : CallerRequest}
    {extra : List Header}
    {e : Exchange}
    (hForwards : Forwards state request extra e)
    (hExtra : ∀ header ∈ extra, header.1 = paymentSignature) :
    ∀ header ∈ e.request.headers,
      lowercase header.1 ≠ "host" ∧
        lowercase header.1 ≠ "connection" ∧
          lowercase header.1 ≠ "transfer-encoding" := by
  intro header hMem
  rcases not_stripped_of_forwards hForwards hMem with
    hCaller | hOwn
  · simp only [strippedHeaders, List.mem_cons, not_or,
      List.not_mem_nil] at hCaller
    exact ⟨hCaller.1, hCaller.2.1, hCaller.2.2.1⟩
  · rw [hExtra header hOwn, lowercase_paymentSignature]
    decide

/-
  For every request of a caller and every gateway: the proxy
  sends the request once, and once more with a payment added
  only if the first was answered with terms that it signed.
-/
theorem proxyHandler_forwards
    (state : ProxyState X)
    (env : Env)
    (request : CallerRequest)
    (world : World X) :
    ∃ es response,
      Runs (state.proxyHandler env request) world
          (.ok response) (world.extend es) ∧
        response.status ≠ 402 ∧
        (∀ e ∈ gatewayExchanges es,
          ∀ header ∈ e.request.headers,
            lowercase header.1 ≠ "host" ∧
              lowercase header.1 ≠ "connection" ∧
                lowercase header.1 ≠ "transfer-encoding") ∧
        ∃ first,
          first.request = state.forwarded request [] ∧
          first.request.payments = [] ∧
          (gatewayExchanges es = [first] ∨
            ∃ second required amount header,
              gatewayExchanges es = [first, second] ∧
              termsOf X first = some required ∧
              Signs state.client required amount header ∧
              second.request =
                { first.request with
                  headers := first.request.headers ++
                    [(paymentSignature, header)] } ∧
              second.request.payments = [header]) := by
  rcases exists_runs (state.proxyHandler env request) world
    with ⟨r, world', hRun⟩
  rcases proxyHandler_spec hRun with
    ⟨es, response, rfl, hAttempt, rfl, hStatus⟩
  refine ⟨es, response, hRun, hStatus, ?_⟩
  cases hAttempt with
  | @unpaid probe rpcs hProbe hRpcs =>
      have hOnly :=
        gatewayExchanges_of_unpaid hProbe.peer hRpcs
      refine ⟨?_, probe, hProbe.request, ?_, Or.inl hOnly⟩
      · rw [hOnly]
        intro e hMem
        rw [List.mem_singleton.mp hMem]
        exact clean_of_forwards hProbe (by simp)
      · rw [hProbe.request]
        exact payments_forwardHeaders
  | @paid probe payment required rpcs amount header hProbe
      hTerms hRpcs hSigns hPayment =>
      have hBoth :=
        gatewayExchanges_of_paid hProbe.peer hRpcs
          hPayment.peer
      refine ⟨?_, probe, hProbe.request, ?_, Or.inr
        ⟨payment, required, amount, header, hBoth, hTerms,
          hSigns, ?_, ?_⟩⟩
      · rw [hBoth]
        intro e hMem
        rcases List.mem_cons.mp hMem with hFirst | hSecond
        · rw [hFirst]
          exact clean_of_forwards hProbe (by simp)
        · rw [List.mem_singleton.mp hSecond]
          exact clean_of_forwards hPayment (by simp)
      · rw [hProbe.request]
        exact payments_forwardHeaders
      · rw [hProbe.request, hPayment.request]
        simp [forwarded]
      · rw [hPayment.request]
        exact payments_forwardHeaders.trans
          payments_paymentSignature

end ProxyState

end Solvela
