import Solvela.Client.Payment
import Solvela.Crates.Sample

/-
  A gateway that asks for a payment at every probe.

  Its answers to paid requests have no content, so that each
  of them is judged degraded.  It shows what a gateway can
  take: every bound that it reaches is sharp.

  Main declarations:
    * `Demand`, `Demand.env`
    * `Payable.exists_demand`
    * `Demand.Acceptable.runs_handshake`
    * `Demand.Acceptable.exists_paid_chat`
    * `Demand.Acceptable.exists_paid_stream`
    * `sampleDemand`, `sampleClient`
-/

------------------------------------------------------------
-- Demands
------------------------------------------------------------

namespace Solvela

variable {X : Crates}

/-
  The documents of a gateway that asks for `amount` to be
  paid to `payTo`, and of an RPC endpoint that helps.
-/
structure Demand
    (X : Crates)
    (payTo : String)
    (amount : UInt64) where
  offer : String
  required : PaymentRequired
  accept : PaymentAccept
  offer_parses :
    X.paymentRequiredFromStr offer = .ok required
  accepts_eq : required.accepts = [accept]
  scheme : accept.scheme = "exact"
  network : accept.network = X.solanaNetwork
  asset : accept.asset = X.usdcMint
  payTo_eq : accept.payTo = payTo
  priced : parseU64 accept.amount = .ok amount
  answer : String
  response : ChatResponse
  answer_parses : X.chatResponseFromStr answer = .ok response
  empty : response.choices = []
  document : String
  blockhash : String
  hash : X.BlockHash
  document_parses :
    X.valueFromStr document =
      .ok (blockhashDocument blockhash)
  blockhash_parses : X.blockHashFromStr blockhash = .ok hash

/- Such documents can be sent. -/
theorem Payable.exists_demand
    (P : Payable X)
    (payTo : String)
    (amount : UInt64) :
    Nonempty (Demand X payTo amount) := by
  rcases P.offer_text payTo amount with
    ⟨offer, required, accept, hOffer, hAccepts, hScheme,
      hNetwork, hAsset, hPayTo, hPriced⟩
  rcases P.emptyResponse_text with
    ⟨answer, response, hAnswer, hEmpty⟩
  rcases P.blockhash_text with
    ⟨document, blockhash, hash, hDocument, hHash⟩
  exact ⟨
    { offer := offer
      required := required
      accept := accept
      offer_parses := hOffer
      accepts_eq := hAccepts
      scheme := hScheme
      network := hNetwork
      asset := hAsset
      payTo_eq := hPayTo
      priced := hPriced
      answer := answer
      response := response
      answer_parses := hAnswer
      empty := hEmpty
      document := document
      blockhash := blockhash
      hash := hash
      document_parses := hDocument
      blockhash_parses := hHash }⟩

/- A response with a body. -/
def responseOf
    (status : Nat)
    (text : String) : HttpResponse where
  status := status
  headers := []
  body := .ok text

/- 402 to a request without a payment, and 200 with one. -/
def Demand.reply
    {payTo : String}
    {amount : UInt64}
    (demand : Demand X payTo amount)
    (_trace : List Exchange)
    (peer : Peer)
    (request : HttpRequest) :
    Except ReqwestError HttpResponse :=
  match peer with
  | .rpc => .ok (responseOf 200 demand.document)
  | .gateway =>
      if request.payments = [] then
        .ok (responseOf 402 demand.offer)
      else
        .ok (responseOf 200 demand.answer)

end Solvela

------------------------------------------------------------
-- Paying A Demand
------------------------------------------------------------

namespace Solvela

open Effects

variable {X : Crates}

/-
  A demand within what the client accepts: the recipient is
  an address and the configured one, and the amount is within
  the maximum.
-/
structure Demand.Acceptable
    {payTo : String}
    {amount : UInt64}
    (_demand : Demand X payTo amount)
    (config : ClientConfig) : Prop where
  address : ∃ key, X.pubkeyFromStr payTo = .ok key
  recipient : ∀ expected,
    config.expectedRecipient = some expected →
      payTo = expected
  capped : ∀ max,
    config.maxPaymentAmount = some max → amount ≤ max

namespace Demand

variable {payTo : String} {amount : UInt64}
variable {demand : Demand X payTo amount}
variable {client : SolvelaClient X}

theorem Acceptable.selectTerms
    (hAcceptable : demand.Acceptable client.config) :
    SolvelaClient.selectTerms X client.config
        demand.required.accepts =
      .ok (demand.accept, amount) := by
  have hPick :
      SolvelaClient.pickScheme X demand.required.accepts =
        some demand.accept := by
    unfold SolvelaClient.pickScheme
    rw [demand.accepts_eq]
    apply List.find?_cons_of_pos
    simp [demand.scheme, demand.network, demand.asset]
  apply SolvelaClient.selectTerms_eq_ok_iff.mpr
  refine ⟨hPick, ?_, demand.priced, ?_⟩
  · apply SolvelaClient.checkRecipient_eq_ok_iff.mpr
    intro expected hExpected
    rw [demand.payTo_eq]
    exact hAcceptable.recipient expected hExpected
  · exact SolvelaClient.checkAmount_eq_ok_iff.mpr
      hAcceptable.capped

/- The instruction can be built. -/
theorem Acceptable.transferInstruction
    (hAcceptable : demand.Acceptable client.config)
    (P : Payable X) :
    ∃ ix, transferInstruction client.wallet
      demand.accept.payTo amount = .ok ix := by
  rw [demand.payTo_eq]
  exact P.buildable.transferInstruction client.wallet
    hAcceptable.address amount

/- The block hash can be read. -/
theorem readBlockhash_document
    (demand : Demand X payTo amount) :
    readBlockhash X (responseOf 200 demand.document) =
      .ok demand.hash := by
  unfold readBlockhash responseOf
  have hSuccess :
      HttpResponse.isSuccess
          { status := 200
            headers := []
            body := .ok demand.document } = true := by
    rfl
  rw [if_pos hSuccess]
  apply bind_eq_ok_iff.mpr
  refine ⟨demand.document, rfl, ?_⟩
  apply bind_eq_ok_iff.mpr
  refine ⟨blockhashDocument demand.blockhash,
    mapError_eq_ok_iff.mpr demand.document_parses, ?_⟩
  change (X.blockHashFromStr demand.blockhash).mapError _ = _
  exact mapError_eq_ok_iff.mpr demand.blockhash_parses

/- Signing succeeds. -/
theorem Acceptable.runs_sign
    (hAcceptable : demand.Acceptable client.config)
    (P : Payable X)
    (env : Env)
    (hReply : env.reply = demand.reply)
    (world : World X) :
    ∃ header rpc,
      Runs
          (client.signPaymentFor402WithAmount env
            demand.required)
          world (.ok (header, amount))
          (world.extend [rpc]) ∧
        IsRpc rpc ∧
          Signs client demand.required amount header := by
  rcases hAcceptable.transferInstruction P with ⟨ix, hIx⟩
  rcases P.buildable.signTransaction client.wallet ix
      demand.hash with ⟨text, hText⟩
  have hTerms := hAcceptable.selectTerms
  let rpc : Exchange :=
    { peer := .rpc
      request := blockhashRequest client.config.rpcUrl
      reply := .ok (responseOf 200 demand.document) }
  have hSigned :
      Runs
        (signExactPayment client.wallet env
          client.config.rpcUrl demand.accept.payTo amount)
        world (.ok text) (world.extend [rpc]) := by
    apply runs_signExactPayment.mpr
    refine Or.inr ⟨ix, _, hIx, ?_, ?_, rfl⟩
    · rw [hReply]
      rfl
    · apply Eq.symm
      exact bind_eq_ok_iff.mpr ⟨demand.hash,
        demand.readBlockhash_document, hText⟩
  refine ⟨_, rpc, ?_, ⟨rfl, rfl⟩,
    demand.accept, ix, demand.hash, text, hTerms, hIx,
    hText, rfl⟩
  unfold SolvelaClient.signPaymentFor402WithAmount
  apply runs_ofOutcome_bind.mpr
  refine Or.inl ⟨_, hTerms, ?_⟩
  apply runs_adaptExcept_bind.mpr
  exact Or.inl ⟨text, _, hSigned,
    runs_pure.mpr ⟨rfl, rfl⟩⟩

/- A probe is answered 402. -/
theorem reply_probe
    {env : Env}
    (hReply : env.reply = demand.reply)
    {request : HttpRequest}
    (hUnpaid : request.payments = [])
    (trace : List Exchange) :
    env.reply trace .gateway request =
      .ok (responseOf 402 demand.offer) := by
  rw [hReply]
  exact if_pos hUnpaid

/- A paid request is answered 200. -/
theorem reply_paid
    {env : Env}
    (hReply : env.reply = demand.reply)
    {request : HttpRequest}
    {header : String}
    (hPaid : request.payments = [header])
    (trace : List Exchange) :
    env.reply trace .gateway request =
      .ok (responseOf 200 demand.answer) := by
  rw [hReply]
  apply if_neg
  rw [hPaid]
  simp

theorem readPaymentRequired_offer
    (demand : Demand X payTo amount) :
    SolvelaClient.readPaymentRequired X
        (responseOf 402 demand.offer) =
      .ok demand.required := by
  unfold SolvelaClient.readPaymentRequired
  apply bind_eq_ok_iff.mpr
  exact ⟨demand.offer, rfl,
    mapError_eq_ok_iff.mpr demand.offer_parses⟩

theorem readPaidResponse_answer
    (demand : Demand X payTo amount) :
    SolvelaClient.readPaidResponse X
        (responseOf 200 demand.answer) =
      .ok demand.response := by
  unfold SolvelaClient.readPaidResponse
  apply bind_eq_ok_iff.mpr
  refine ⟨demand.answer, rfl, ?_⟩
  exact mapError_eq_ok_iff.mpr demand.answer_parses

/- A handshake pays what is demanded. -/
theorem Acceptable.runs_handshake
    (hAcceptable : demand.Acceptable client.config)
    (P : Payable X)
    (env : Env)
    (hReply : env.reply = demand.reply)
    (url : String)
    {headers : List Header}
    (hUnpaid : Unpaid headers)
    (req : ChatRequest)
    (world : World X) :
    ∃ probe rpc payment header,
      Runs (client.handshake env url headers req) world
          (.ok (demand.response, some amount))
          (world.extend [probe, rpc, payment]) ∧
        probe.request.payments = [] ∧ IsRpc rpc ∧
          payment.request.payments = [header] ∧
            Signs client demand.required amount header := by
  have hProbe :=
    payments_post_of_unpaid hUnpaid url (.chat req)
  let probe : Exchange :=
    { peer := .gateway
      request := .post url headers (.chat req)
      reply := .ok (responseOf 402 demand.offer) }
  have hAsk :
      Runs
        (exchange env .gateway (.post url headers (.chat req))
          ClientError.network (SolvelaClient.readProbe X))
        world (.ok (.inr demand.required))
        (world.extend [probe]) := by
    apply runs_exchange.mpr
    refine ⟨_, (reply_probe hReply hProbe _).symm, ?_, rfl⟩
    apply Eq.symm
    exact map_eq_ok_iff.mpr
      ⟨_, demand.readPaymentRequired_offer, rfl⟩
  rcases hAcceptable.runs_sign P env hReply
      (world.extend [probe]) with
    ⟨header, rpc, hSign, hRpc, hSigns⟩
  have hPaid :
      (HttpRequest.post url [(paymentSignature, header)]
        (.chat req)).payments = [header] :=
    payments_paymentSignature
  let payment : Exchange :=
    { peer := .gateway
      request := .post url [(paymentSignature, header)]
        (.chat req)
      reply := .ok (responseOf 200 demand.answer) }
  have hPay :
      Runs
        (client.payAndResendWithAmount env url req
          demand.required)
        (world.extend [probe])
        (.ok (demand.response, amount))
        (world.extend [probe, rpc, payment]) := by
    refine hSign.bind (runs_bind_pure.mpr
      ⟨.ok demand.response, ?_, rfl⟩)
    apply runs_exchange.mpr
    refine ⟨_, (reply_paid hReply hPaid _).symm, ?_, ?_⟩
    · exact demand.readPaidResponse_answer.symm
    · rw [World.extend_extend, World.extend_extend]
      rfl
  refine ⟨probe, rpc, payment, header, ?_, hProbe, hRpc,
    hPaid, hSigns⟩
  exact hAsk.bind (runs_bind_pure.mpr ⟨_, hPay, rfl⟩)

end Demand

end Solvela

------------------------------------------------------------
-- Calls That Pay
------------------------------------------------------------

namespace Solvela

open Effects

variable {X : Crates}
variable {client : SolvelaClient X}

/- What follows the first attempt only adds exchanges. -/
theorem converse_extends
    {env : Env}
    {url : String}
    {req : ChatRequest}
    {world mid spoken : World X}
    {sent : ChatResponse × UInt64}
    {r : Except ClientError ChatResponse}
    (hSend :
      Runs (client.sendChatRequest env url req) world
        (.ok sent) mid)
    (hTalk :
      Runs (client.converse env url req) world r spoken) :
    ∃ rest, spoken = mid.extend rest := by
  unfold SolvelaClient.converse at hTalk
  rcases runs_bind.mp hTalk with
    ⟨sent', t, hFirst, hRest⟩ | ⟨err, hFirst, _⟩
  · rcases hFirst.unique hSend with ⟨hSame, rfl⟩
    cases hSame
    cases hCheck : client.config.enableQualityCheck with
    | false =>
        rw [hCheck] at hRest
        rcases runs_pure.mp hRest with ⟨_, rfl⟩
        exact ⟨[], (World.extend_nil _).symm⟩
    | true =>
        rw [hCheck] at hRest
        rcases SolvelaClient.retryLoop_spec hRest with
          ⟨rest, hWorld, _⟩
        exact ⟨rest, hWorld⟩
  · cases (hFirst.unique hSend).1

namespace Demand

variable {payTo : String} {amount : UInt64}
variable {demand : Demand X payTo amount}

/- A sent request is answered after one payment. -/
theorem Acceptable.runs_sendChatRequest
    (hAcceptable : demand.Acceptable client.config)
    (P : Payable X)
    (env : Env)
    (hReply : env.reply = demand.reply)
    (url : String)
    (req : ChatRequest)
    (world : World X) :
    ∃ probe rpc payment header,
      Runs (client.sendChatRequest env url req) world
          (.ok (demand.response, amount))
          (world.extend [probe, rpc, payment]) ∧
        payment.request.payments = [header] := by
  rcases hAcceptable.runs_handshake P env hReply url
      unpaid_nil req world with
    ⟨probe, rpc, payment, header, hShake, _, _, hPaid, _⟩
  exact ⟨probe, rpc, payment, header,
    runs_bind_pure.mpr ⟨_, hShake, rfl⟩, hPaid⟩

/- What a call that missed the cache adds to the trace. -/
theorem finish_extend_trace
    (client : SolvelaClient X)
    (env : Env)
    (req : ChatRequest)
    (world : World X)
    (r : Except ClientError ChatResponse)
    (es : List Exchange) :
    (client.finish env req world r
      ((client.cacheStep env req world).2.extend es)).trace =
        world.trace ++ es := by
  rw [SolvelaClient.finish_trace]
  change (client.cacheStep env req world).2.trace ++ _ = _
  rw [SolvelaClient.cacheStep_trace]

/- A chat call that reaches the gateway pays the demand. -/
theorem Acceptable.exists_paid_chat
    (hAcceptable : demand.Acceptable client.config)
    (P : Payable X)
    (env : Env)
    (hReply : env.reply = demand.reply)
    (req : ChatRequest)
    (world : World X)
    (hMissed : client.cachedAnswer env req world = none) :
    ∃ r world' es,
      Runs (client.chat env req) world r world' ∧
        world'.trace = world.trace ++ es ∧
          ∃ e ∈ es, e.request.payments ≠ [] := by
  let start := (client.cacheStep env req world).2
  let sent := client.effectiveRequest env req world
  rcases hAcceptable.runs_sendChatRequest P env hReply
      client.chatUrl sent start with
    ⟨probe, rpc, payment, header, hSend, hPaid⟩
  rcases exists_runs
      (client.converse env client.chatUrl sent) start with
    ⟨r, spoken, hTalk⟩
  rcases converse_extends hSend hTalk with ⟨rest, hWorld⟩
  refine ⟨r, client.finish env req world r spoken,
    [probe, rpc, payment] ++ rest, ?_, ?_, payment, ?_, ?_⟩
  · exact SolvelaClient.runs_chat.mpr
      (Or.inr ⟨hMissed, spoken, hTalk, rfl⟩)
  · rw [hWorld, World.extend_extend]
    exact finish_extend_trace client env req world r _
  · simp
  · rw [hPaid]
    simp

/- Without a quality check, the call returns the answer. -/
theorem Acceptable.exists_paid_answer
    (hAcceptable : demand.Acceptable client.config)
    (P : Payable X)
    (env : Env)
    (hReply : env.reply = demand.reply)
    (req : ChatRequest)
    (world : World X)
    (hMissed : client.cachedAnswer env req world = none)
    (hOff : client.config.enableQualityCheck = false) :
    ∃ world' es,
      Runs (client.chat env req) world
          (.ok demand.response) world' ∧
        world'.trace = world.trace ++ es ∧ es ≠ [] := by
  let start := (client.cacheStep env req world).2
  let sent := client.effectiveRequest env req world
  rcases hAcceptable.runs_sendChatRequest P env hReply
      client.chatUrl sent start with
    ⟨probe, rpc, payment, header, hSend, _⟩
  have hTalk :
      Runs (client.converse env client.chatUrl sent) start
        (.ok demand.response)
        (start.extend [probe, rpc, payment]) := by
    unfold SolvelaClient.converse
    refine hSend.bind ?_
    rw [hOff]
    exact runs_pure.mpr ⟨rfl, rfl⟩
  exact ⟨_, [probe, rpc, payment],
    SolvelaClient.runs_chat.mpr
      (Or.inr ⟨hMissed, _, hTalk, rfl⟩),
    finish_extend_trace client env req world _ _, by simp⟩

theorem readStreamProbe_offer
    (demand : Demand X payTo amount) :
    SolvelaClient.readStreamProbe X
        (responseOf 402 demand.offer) =
      .ok (some demand.required) :=
  map_eq_ok_iff.mpr
    ⟨_, demand.readPaymentRequired_offer, rfl⟩

/- A streaming call pays the demand. -/
theorem Acceptable.exists_paid_stream
    (hAcceptable : demand.Acceptable client.config)
    (P : Payable X)
    (env : Env)
    (hReply : env.reply = demand.reply)
    (req : ChatRequest)
    (world : World X) :
    ∃ r world' es,
      Runs (client.chatStream env req) world r world' ∧
        world'.trace = world.trace ++ es ∧
          ∃ e ∈ es, e.request.payments ≠ [] := by
  let start := SolvelaClient.sessionUpdate
    (client.sessionStep env req world).1.2
    (client.sessionStep env req world).1.1
    (client.sessionStep env req world).2
  let sent := (client.sessionStep env req world).1.1
  have hProbe :=
    payments_post_of_unpaid unpaid_nil client.chatUrl
      (.chat { sent with stream := false })
  let probe : Exchange :=
    { peer := .gateway
      request := .post client.chatUrl []
        (.chat { sent with stream := false })
      reply := .ok (responseOf 402 demand.offer) }
  have hAsk :
      Runs
        (exchange env .gateway probe.request
          ClientError.network
          (SolvelaClient.readStreamProbe X))
        start (.ok (some demand.required))
        (start.extend [probe]) := by
    apply runs_exchange.mpr
    exact ⟨_, (reply_probe hReply hProbe _).symm,
      demand.readStreamProbe_offer.symm, rfl⟩
  rcases hAcceptable.runs_sign P env hReply
      (start.extend [probe]) with
    ⟨header, rpc, hSign, _, _⟩
  have hSigned :
      Runs (client.signPaymentFor402 env demand.required)
        (start.extend [probe]) (.ok header)
        ((start.extend [probe]).extend [rpc]) :=
    runs_bind_pure.mpr ⟨_, hSign, rfl⟩
  have hPaid :
      (HttpRequest.post client.chatUrl
        [(paymentSignature, header)]
        (.chat { sent with stream := true })).payments =
        [header] :=
    payments_paymentSignature
  rcases exists_runs
      (exchange env .gateway
        (.post client.chatUrl [(paymentSignature, header)]
          (.chat { sent with stream := true }))
        ClientError.network (SolvelaClient.readStream X))
      ((start.extend [probe]).extend [rpc]) with
    ⟨r, world', hOpen⟩
  rcases runs_exchange.mp hOpen with ⟨reply, _, _, hWorld⟩
  let payment : Exchange :=
    { peer := .gateway
      request := .post client.chatUrl
        [(paymentSignature, header)]
        (.chat { sent with stream := true })
      reply := reply }
  refine ⟨r, world', [probe, rpc, payment],
    SolvelaClient.runs_chatStream.mpr
      (hAsk.bind (hSigned.bind hOpen)), ?_, payment,
    by simp, ?_⟩
  · rw [hWorld, World.extend_extend, World.extend_extend]
    change (SolvelaClient.sessionUpdate _ _ _).trace ++ _ = _
    rw [SolvelaClient.sessionUpdate_trace,
      SolvelaClient.sessionStep_trace]
    rfl
  · rw [hPaid]
    simp

end Demand

end Solvela

------------------------------------------------------------
-- A Demand In The Sample Bundle
------------------------------------------------------------

namespace Solvela

open Sample

/- In the bundle, any bytes of the length are a key pair. -/
def sampleWallet : Wallet sampleCrates where
  keypairBytes := Vector.replicate 64 1
  valid := by
    rfl

/- A client with this wallet. -/
def sampleClient
    (config : ClientConfig) : SolvelaClient sampleCrates where
  wallet := sampleWallet
  config := config

/- A question without options. -/
def sampleRequest : ChatRequest where
  model := "openai/gpt-4o"
  messages :=
    [{ role := .user
       content := "Hello"
       name := none
       toolCalls := none
       toolCallId := none }]
  maxTokens := none
  temperature := none
  topP := none
  stream := false
  tools := none
  toolChoice := none

/- A gateway that asks for 10 USDC, the default maximum. -/
def sampleDemand :
    Demand sampleCrates "payee" 10000000 where
  offer := "10000000 payee"
  required := offerOf "10000000 payee"
  accept :=
    { scheme := "exact"
      network := "solana"
      amount := "10000000"
      asset := "USDC"
      payTo := "payee"
      maxTimeoutSeconds := 300
      escrowProgramId := none }
  offer_parses := rfl
  accepts_eq := by
    decide
  scheme := rfl
  network := rfl
  asset := rfl
  payTo_eq := rfl
  priced := by
    decide
  answer := "answer"
  response := emptyResponse "answer"
  answer_parses := rfl
  empty := rfl
  document := "hash"
  blockhash := "hash"
  hash := "hash"
  document_parses := valueFromStr_sample (by decide)
  blockhash_parses := rfl

/- The gateway of the demand, and a steady clock. -/
def sampleEnv : Env where
  reply := sampleDemand.reply
  delay := fun _ => 1

/- Without a configured recipient the demand is acceptable. -/
theorem sampleDemand_acceptable
    {config : ClientConfig}
    (hRecipient : config.expectedRecipient = none)
    (hCap : config.maxPaymentAmount = some 10000000) :
    sampleDemand.Acceptable config where
  address := ⟨pubkeyOf "payee", pubkeyFromStr_sample (by decide)⟩
  recipient := by
    intro expected hNo
    rw [hRecipient] at hNo
    cases hNo
  capped := by
    intro max hMax
    rw [hCap] at hMax
    cases hMax
    exact UInt64.le_refl _

end Solvela
