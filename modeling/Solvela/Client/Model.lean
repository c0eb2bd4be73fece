import Solvela.Config
import Solvela.Integers
import Solvela.Quality
import Solvela.Signer

/-
  The client.

  Calls act on a `World`.  The session look-up reads the clock
  for each of its steps, and a look-up and a store in the
  cache read it once and twice.

  The probe of a chat request, with what follows a 402, stands
  in the code twice: for the first attempt, and in the retry
  loop with one header more.  Both are `handshake` here.

  Key definitions include:
    * `SolvelaClient`
    * `SolvelaClient.signPaymentFor402WithAmount`
    * `SolvelaClient.sendChatRequest`
    * `SolvelaClient.retryIfDegraded`
    * `SolvelaClient.chat`, `SolvelaClient.chatStream`
    * `SolvelaClient.usdcBalanceOf`
-/

------------------------------------------------------------
-- Clients
------------------------------------------------------------

namespace Solvela

/- What a client holds besides its shared state. -/
structure SolvelaClient (X : Crates) where
  wallet : Wallet X
  config : ClientConfig

variable {X : Crates}

/- The balance before the first poll. -/
def balanceNotPolled : UInt64 := maxU64

/- The state of a new client at clock reading `now`. -/
def World.new
    (config : ClientConfig)
    (now : Nat) : World X where
  trace := []
  now := now
  reads := 0
  balanceState := balanceNotPolled
  cache :=
    if config.enableCache then
      some (ResponseCache.new X.lru)
    else
      none
  sessionStore :=
    if config.enableSessions then
      some (SessionStore.new config.sessionTtl)
    else
      none

namespace SolvelaClient

/- Where chat requests are posted. -/
def chatUrl
    (client : SolvelaClient X) : String :=
  s!"{client.config.gatewayUrl}/v1/chat/completions"

/- Hash the contents of all messages. -/
def hashRequestContent
    (X : Crates)
    (req : ChatRequest) : UInt64 :=
  X.aHasher (Delimited.delimitedTexts
    (req.messages.map ChatMessage.content))

end SolvelaClient

end Solvela

------------------------------------------------------------
-- Payment Terms
------------------------------------------------------------

namespace Solvela

namespace SolvelaClient

variable {X : Crates}

/- The first entry the client can sign for. -/
def pickScheme
    (X : Crates)
    (accepts : List PaymentAccept) : Option PaymentAccept :=
  accepts.find? (fun a =>
    decide (a.scheme = "exact" ∧
      a.network = X.solanaNetwork ∧ a.asset = X.usdcMint))

/- The recipient must be the configured one. -/
def checkRecipient
    (config : ClientConfig)
    (accept : PaymentAccept) : Except ClientError Unit :=
  match config.expectedRecipient with
  | some expected =>
      if accept.payTo ≠ expected then
        .error (.recipientMismatch expected accept.payTo)
      else
        .ok ()
  | none => .ok ()

/- One payment must not exceed the configured maximum. -/
def checkAmount
    (config : ClientConfig)
    (amountAtomic : UInt64) : Except ClientError Unit :=
  match config.maxPaymentAmount with
  | some max =>
      if amountAtomic > max then
        .error (.amountExceedsMax amountAtomic max)
      else
        .ok ()
  | none => .ok ()

/- The entry to sign for and its amount, if it passes. -/
def selectTerms
    (X : Crates)
    (config : ClientConfig)
    (accepts : List PaymentAccept) :
    Except ClientError (PaymentAccept × UInt64) :=
  match pickScheme X accepts with
  | none => .error .noCompatibleScheme
  | some accept => do
      checkRecipient config accept
      let amountAtomic ←
        (parseU64 accept.amount).mapError
          (fun e => ClientError.parseError
            s!"invalid amount: {e}")
      checkAmount config amountAtomic
      pure (accept, amountAtomic)

end SolvelaClient

end Solvela

------------------------------------------------------------
-- Signing A Payment
------------------------------------------------------------

namespace Solvela

open Effects

namespace SolvelaClient

variable {X : Crates}

/- Sign for a 402 body; the header comes with its amount. -/
def signPaymentFor402WithAmount
    (client : SolvelaClient X)
    (env : Env)
    (paymentRequired : PaymentRequired) :
    Prog X ClientError (String × UInt64) := do
  let terms ← ofOutcome
    (selectTerms X client.config paymentRequired.accepts)
  let signedTx ← EStateM.adaptExcept ClientError.signing
    (signExactPayment client.wallet env client.config.rpcUrl
      terms.1.payTo terms.2)
  let payload :=
    buildPaymentPayload X paymentRequired.resource terms.1
      signedTx
  pure (encodePaymentHeader X payload, terms.2)

/- The header of the payment alone. -/
def signPaymentFor402
    (client : SolvelaClient X)
    (env : Env)
    (paymentRequired : PaymentRequired) :
    Prog X ClientError String := do
  let signed ←
    client.signPaymentFor402WithAmount env paymentRequired
  pure signed.1

end SolvelaClient

end Solvela

------------------------------------------------------------
-- The Payment Handshake
------------------------------------------------------------

namespace Solvela

open Effects

namespace SolvelaClient

variable {X : Crates}

/- The text of a response. -/
def readText
    (response : HttpResponse) : Except ClientError String :=
  response.body.mapError ClientError.network

/- The chat response that a 200 response carries. -/
def readChatResponse
    (X : Crates)
    (response : HttpResponse) :
    Except ClientError ChatResponse := do
  let body ← readText response
  (X.chatResponseFromStr body).mapError ClientError.parseError

/- The payment terms that a 402 response carries. -/
def readPaymentRequired
    (X : Crates)
    (response : HttpResponse) :
    Except ClientError PaymentRequired := do
  let body ← readText response
  (X.paymentRequiredFromStr body).mapError
    (fun e => ClientError.parseError
      s!"invalid 402 body: {e}")

/- The error of a response with an unexpected status. -/
def gatewayError
    (response : HttpResponse) : ClientError :=
  .gateway response.status response.textOrDefault

/- What the response to a paid request amounts to. -/
def readPaidResponse
    (X : Crates)
    (response : HttpResponse) :
    Except ClientError ChatResponse := do
  let body ← readText response
  if response.status = 200 then
    (X.chatResponseFromStr body).mapError
      ClientError.parseError
  else if response.status = 402 then
    .error (.paymentRejected body)
  else
    .error (.gateway response.status body)

/- Sign a payment and send the paid request. -/
def payAndResendWithAmount
    (client : SolvelaClient X)
    (env : Env)
    (url : String)
    (req : ChatRequest)
    (paymentRequired : PaymentRequired) :
    Prog X ClientError (ChatResponse × UInt64) := do
  let signed ←
    client.signPaymentFor402WithAmount env paymentRequired
  let parsed ← exchange env .gateway
    (.post url [(paymentSignature, signed.1)] (.chat req))
    ClientError.network (readPaidResponse X)
  pure (parsed, signed.2)

/- What the response to a probe amounts to. -/
def readProbe
    (X : Crates)
    (response : HttpResponse) :
    Except ClientError (ChatResponse ⊕ PaymentRequired) :=
  if response.status = 200 then
    (readChatResponse X response).map Sum.inl
  else if response.status = 402 then
    (readPaymentRequired X response).map Sum.inr
  else
    .error (gatewayError response)

/-
  Probe the gateway and pay if it answers 402.  The amount is
  absent when the probe was answered directly.
-/
def handshake
    (client : SolvelaClient X)
    (env : Env)
    (url : String)
    (headers : List Header)
    (req : ChatRequest) :
    Prog X ClientError (ChatResponse × Option UInt64) := do
  let probed ← exchange env .gateway
    (.post url headers (.chat req))
    ClientError.network (readProbe X)
  match probed with
  | .inl parsed => pure (parsed, none)
  | .inr paymentRequired => do
      let paid ← client.payAndResendWithAmount env url req
        paymentRequired
      pure (paid.1, some paid.2)

/- The first attempt, with the amount that was paid. -/
def sendChatRequest
    (client : SolvelaClient X)
    (env : Env)
    (url : String)
    (req : ChatRequest) :
    Prog X ClientError (ChatResponse × UInt64) := do
  let reply ← client.handshake env url [] req
  pure (reply.1, reply.2.getD 0)

/- What tells the gateway that an answer was rejected. -/
def retryReasonHeader : Header :=
  ("X-Solvela-Retry-Reason", "degraded")

/- The running total must not exceed the cap. -/
def checkBudget
    (config : ClientConfig)
    (totalPaidAtomic : UInt64) : Except ClientError Unit :=
  match config.maxPaymentAmount with
  | some max =>
      if totalPaidAtomic > max then
        .error (.budgetExceeded totalPaidAtomic max)
      else
        .ok ()
  | none => .ok ()

/-
  The retry loop with `attempts` iterations left.  The total
  is checked after a payment was made.
-/
def retryLoop
    (client : SolvelaClient X)
    (env : Env)
    (url : String)
    (req : ChatRequest) :
    Nat → ChatResponse → UInt64 →
      Prog X ClientError ChatResponse
| 0, response, _ => pure response
| attempts + 1, response, totalPaidAtomic =>
    match isDegraded X.unicode response with
    | none => pure response
    | some _ => do
        let reply ←
          client.handshake env url [retryReasonHeader] req
        match reply.2 with
        | none =>
            retryLoop client env url req attempts reply.1
              totalPaidAtomic
        | some paidAmount =>
            let total :=
              saturatingAdd totalPaidAtomic paidAmount
            ofOutcome (checkBudget client.config total)
            retryLoop client env url req attempts reply.1
              total

/- Retry as often as configured. -/
def retryIfDegraded
    (client : SolvelaClient X)
    (env : Env)
    (url : String)
    (req : ChatRequest)
    (initialResponse : ChatResponse)
    (initialPaidAtomic : UInt64) :
    Prog X ClientError ChatResponse :=
  client.retryLoop env url req
    client.config.maxQualityRetries initialResponse
    initialPaidAtomic

end SolvelaClient

end Solvela

------------------------------------------------------------
-- Steps Around The Handshake
------------------------------------------------------------

namespace Solvela

namespace SolvelaClient

variable {X : Crates}

/- Route to the fallback model when the balance is zero. -/
def balanceGuard
    (config : ClientConfig)
    (balanceAtomic : UInt64)
    (req : ChatRequest) : ChatRequest × Bool :=
  match config.freeFallbackModel with
  | some fallbackModel =>
      if balanceAtomic = balanceNotPolled then
        (req, false)
      else if balanceAtomic = 0 then
        ({ req with model := fallbackModel }, true)
      else
        (req, false)
  | none => (req, false)

/- Use the model of the session, unless one fell back. -/
def sessionLookup
    (env : Env)
    (req : ChatRequest)
    (usedFallback : Bool)
    (world : World X) :
    (ChatRequest × Option String) × World X :=
  match world.sessionStore with
  | none => ((req, none), world)
  | some store =>
      let sid := SessionStore.deriveSessionId X.defaultHasher
        req.messages
      let (looked, world) := world.readClock env
      let (now, world) := world.readClock env
      let (created, world) := world.readClock env
      let (session, store) :=
        store.getOrCreate looked now created sid req.model
      (if usedFallback then
          (req, some sid)
        else
          ({ req with model := session.model }, some sid),
        { world with sessionStore := some store })

/- The key of a request and the response found under it. -/
def cacheCheck
    (env : Env)
    (req : ChatRequest)
    (world : World X) :
    (Option UInt64 × Option ChatResponse) × World X :=
  match world.cache with
  | none => ((none, none), world)
  | some cache =>
      let key := ResponseCache.cacheKey X.aHasher
        X.roleToString req.model req.messages
      let (now, world) := world.readClock env
      let (cached, cache) := cache.get X.lru now key
      ((some key, cached), { world with cache := some cache })

/-
  Keep the response under the key.  Reading the clock
  twice is as in the code, where the entry is made later.
-/
def cacheStore
    (env : Env)
    (cacheKey : Option UInt64)
    (response : ChatResponse)
    (world : World X) : World X :=
  match cacheKey, world.cache with
  | some key, some cache =>
      let (now, world) := world.readClock env
      let (inserted, world) := world.readClock env
      { world with
        cache :=
          some (cache.put X.lru now inserted key response) }
  | _, _ => world

/- Record the request in its session. -/
def sessionUpdate
    (sessionId : Option String)
    (req : ChatRequest)
    (world : World X) : World X :=
  match sessionId, world.sessionStore with
  | some sid, some store =>
      { world with
        sessionStore := some (store.recordRequest sid
          (hashRequestContent X req)) }
  | _, _ => world

end SolvelaClient

end Solvela

------------------------------------------------------------
-- Chat Calls
------------------------------------------------------------

namespace Solvela

open Effects

namespace SolvelaClient

variable {X : Crates}

/- The part of a chat call that talks to the gateway. -/
def converse
    (client : SolvelaClient X)
    (env : Env)
    (url : String)
    (req : ChatRequest) : Prog X ClientError ChatResponse := do
  let sent ← client.sendChatRequest env url req
  if client.config.enableQualityCheck then
    client.retryIfDegraded env url req sent.1 sent.2
  else
    pure sent.1

/- A chat call.  An early return models a cache hit. -/
def chat
    (client : SolvelaClient X)
    (env : Env)
    (req : ChatRequest) : Prog X ClientError ChatResponse := do
  let start ← get
  let guarded := balanceGuard client.config
    start.balanceState { req with stream := false }
  let session ←
    modifyGet (sessionLookup env guarded.1 guarded.2)
  let cache ← modifyGet (cacheCheck env session.1)
  match cache.2 with
  | some cached => pure cached
  | none => do
      let response ←
        client.converse env client.chatUrl session.1
      modify (cacheStore env cache.1 response)
      modify (sessionUpdate session.2 session.1)
      pure response

/- The items of an opened event stream. -/
def streamItems
    (X : Crates) :
    List (Except String String) →
      List (Except ClientError X.ChatChunk)
| [] => []
| .ok event :: events =>
    let data := String.ofList (trim event.toList)
    if data = "[DONE]" then
      []
    else
      (X.chatChunkFromStr data).mapError
        (fun e => ClientError.streamError
          s!"failed to parse SSE chunk: {e}") ::
        streamItems X events
| .error e :: events =>
    .error (.streamError s!"SSE error: {e}") ::
      streamItems X events

/- The terms to pay before streaming, if there are any. -/
def readStreamProbe
    (X : Crates)
    (response : HttpResponse) :
    Except ClientError (Option PaymentRequired) :=
  if response.status = 200 then
    .ok none
  else if response.status = 402 then
    (readPaymentRequired X response).map some
  else
    .error (gatewayError response)

/- The items of the stream that a response opens. -/
def readStream
    (X : Crates)
    (response : HttpResponse) :
    Except ClientError
      (List (Except ClientError X.ChatChunk)) :=
  if response.isSuccess then
    .ok (streamItems X (X.sseEvents response.body))
  else
    .error (gatewayError response)

/- Probe without streaming, then open the stream. -/
def openStream
    (client : SolvelaClient X)
    (env : Env)
    (url : String)
    (req : ChatRequest) :
    Prog X ClientError
      (List (Except ClientError X.ChatChunk)) := do
  let probed ← exchange env .gateway
    (.post url [] (.chat { req with stream := false }))
    ClientError.network (readStreamProbe X)
  match probed with
  | none =>
      exchange env .gateway
        (.post url [] (.chat { req with stream := true }))
        ClientError.network (readStream X)
  | some paymentRequired => do
      let paymentHeader ←
        client.signPaymentFor402 env paymentRequired
      exchange env .gateway
        (.post url [(paymentSignature, paymentHeader)]
          (.chat { req with stream := true }))
        ClientError.network (readStream X)

/- A streaming call, which neither caches nor retries. -/
def chatStream
    (client : SolvelaClient X)
    (env : Env)
    (req : ChatRequest) :
    Prog X ClientError
      (List (Except ClientError X.ChatChunk)) := do
  let start ← get
  let guarded :=
    balanceGuard client.config start.balanceState req
  let session ←
    modifyGet (sessionLookup env guarded.1 guarded.2)
  modify (sessionUpdate session.2 session.1)
  client.openStream env client.chatUrl session.1

end SolvelaClient

end Solvela

------------------------------------------------------------
-- Other Calls
------------------------------------------------------------

namespace Solvela

open Effects

namespace SolvelaClient

variable {X : Crates}

/- The list of models that a response carries. -/
def readModels
    (X : Crates)
    (response : HttpResponse) :
    Except ClientError (List X.ModelInfo) := do
  let body ← readText response
  if response.status ≠ 200 then
    .error (.gateway response.status body)
  else
    (X.modelsFromStr body).mapError ClientError.parseError

/- Ask the gateway for its models. -/
def models
    (client : SolvelaClient X)
    (env : Env) : Prog X ClientError (List X.ModelInfo) :=
  exchange env .gateway
    (.get s!"{client.config.gatewayUrl}/v1/models")
    ClientError.network (readModels X)

/- The request that asks for the price of a model. -/
def costProbe
    (model : String) : ChatRequest where
  model := model
  messages :=
    [{ role := .user
       content := "cost estimate probe"
       name := none
       toolCalls := none
       toolCallId := none }]
  maxTokens := none
  temperature := none
  topP := none
  stream := false
  tools := none
  toolChoice := none

/- What a request costs that is answered for free. -/
def freeCost : CostBreakdown where
  providerCost := "0.000000"
  platformFee := "0.000000"
  total := "0.000000"
  currency := "USDC"
  feePercent := 0

/- The price that a response states. -/
def readCost
    (X : Crates)
    (response : HttpResponse) :
    Except ClientError CostBreakdown := do
  let body ← readText response
  if response.status = 402 then
    let paymentRequired ←
      (X.paymentRequiredFromStr body).mapError
        (fun e => ClientError.parseError
          s!"invalid 402 body: {e}")
    pure paymentRequired.costBreakdown
  else if response.status = 200 then
    pure freeCost
  else
    .error (.gateway response.status body)

/- Probe for the cost of a model, and pay nothing. -/
def estimateCost
    (client : SolvelaClient X)
    (env : Env)
    (model : String) : Prog X ClientError CostBreakdown :=
  exchange env .gateway
    (.post client.chatUrl [] (.chat (costProbe model)))
    ClientError.network (readCost X)

/-
  The balance an RPC document reports.  Any `error` member
  and any amount that is not a number are read as zero.
-/
def readUiAmount
    (json : Json) : ℚ :=
  match json.get "error" with
  | some _ => 0
  | none =>
      (((json.index "result").index "value").index
        "uiAmount").asF64.getD 0

/- The balance that the response of the endpoint carries. -/
def readBalance
    (X : Crates)
    (resp : HttpResponse) : Except ClientError ℚ :=
  if resp.isSuccess then do
    let text ← resp.body.mapError (fun e =>
      ClientError.balanceError
        s!"failed to parse RPC response: {e.message}")
    let json ← (X.valueFromStr text).mapError (fun e =>
      ClientError.balanceError
        s!"failed to parse RPC response: {e}")
    pure (readUiAmount json)
  else
    .error (.balanceError
      s!"RPC returned HTTP {X.statusDisplay resp.status}")

/- The request for the balance of a token account. -/
def balanceRequest
    (X : Crates)
    (rpcUrl : String)
    (ata : Pubkey) : HttpRequest :=
  .post rpcUrl []
    (.json (rpcBody "getTokenAccountBalance"
      [.string (X.pubkeyToString ata)]))

/- The balance of the token account of an address. -/
def usdcBalanceOf
    (client : SolvelaClient X)
    (env : Env)
    (address : String) : Prog X ClientError ℚ := do
  let owner ← ofOutcome ((X.pubkeyFromStr address).mapError
    (fun e => ClientError.balanceError
      s!"invalid address: {e}"))
  let mint ← ofOutcome ((X.pubkeyFromStr X.usdcMint).mapError
    (fun e => ClientError.balanceError
      s!"invalid USDC mint: {e}"))
  let ata := associatedTokenAddress X owner mint
  exchange env .rpc
    (balanceRequest X client.config.rpcUrl ata)
    (fun e => ClientError.balanceError e.message)
    (readBalance X)

/- The balance of the own wallet. -/
def usdcBalance
    (client : SolvelaClient X)
    (env : Env) : Prog X ClientError ℚ :=
  client.usdcBalanceOf env client.wallet.address

end SolvelaClient

end Solvela
