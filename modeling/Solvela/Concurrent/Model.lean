import Solvela.Balance.Model
import Solvela.Foundations.Interleavings
import Solvela.Proxy.Model

/-
  Calls that share one client.

  A client is shared by reference between tasks: the handlers
  of the proxy, chat calls, and the balance monitor.  Here
  each call is a dialogue, whose questions are the requests
  it sends and its accesses to the shared state, each atomic
  in the code: a load or a store of the balance, a section
  under a lock, or one exchange.  An exchange takes its turn
  when its reply arrives.  Peers reply as they like.

  The conversations are those of the client's programs, with
  the peers left open; `Concurrent.Alone` shows them equal.
  `new` builds a store exactly if the configuration asks for
  one, so a call reads the setting instead.

  Key definitions include:
    * `Talk`, `SharedAccess`, `Accesses`
    * `Concurrent.converse`, `Concurrent.openStream`
    * `Concurrent.chat`, `Concurrent.chatStream`
    * `Concurrent.proxyHandler`, `Concurrent.poll`
    * `Call`, `Call.dialogue`, `startPool`
-/

------------------------------------------------------------
-- Talks With The Peers
------------------------------------------------------------

namespace Solvela

open Dialogues

/- A request and the peer it is sent to. -/
structure Question where
  peer : Peer
  request : HttpRequest

/- Every question is answered by a response or not at all. -/
abbrev Reply
    (_ : Question) :=
  Except ReqwestError HttpResponse

/- A program that only talks to the peers. -/
abbrev Talk
    (ε α : Type) :=
  ExceptT ε (Dialogue Question Reply) α

namespace Talk

variable {ε α : Type}

/- What needs no peer. -/
def ofOutcome
    (r : Except ε α) : Talk ε α :=
  ExceptT.mk (.done r)

/- Ask a peer, and wait for its reply. -/
def send
    (peer : Peer)
    (request : HttpRequest) :
    Talk ReqwestError HttpResponse :=
  ExceptT.mk
    (.query { peer := peer, request := request })

/- Ask a peer, and read its reply. -/
def exchange
    (peer : Peer)
    (request : HttpRequest)
    (failed : ReqwestError → ε)
    (read : HttpResponse → Except ε α) : Talk ε α := do
  let resp ← ExceptT.adapt failed (send peer request)
  ofOutcome (read resp)

end Talk

end Solvela

------------------------------------------------------------
-- Signing And Paying
------------------------------------------------------------

namespace Solvela

open Dialogues

namespace Concurrent

variable {X : Crates}

/- As in the sequential model, from the endpoint. -/
def getLatestBlockhash
    (X : Crates)
    (rpcUrl : String) : Talk SignerError X.BlockHash :=
  Talk.exchange .rpc (blockhashRequest rpcUrl)
    (fun e => .rpcError e.message) (readBlockhash X)

/- Build the transfer, get a block hash, and sign. -/
def signExactPayment
    (wallet : Wallet X)
    (rpcUrl recipient : String)
    (amountAtomic : UInt64) : Talk SignerError String := do
  let ix ← Talk.ofOutcome
    (transferInstruction wallet recipient amountAtomic)
  let blockhash ← getLatestBlockhash X rpcUrl
  Talk.ofOutcome (signTransaction wallet ix blockhash)

/- Choose an entry of the terms, and sign for it. -/
def signPaymentFor402WithAmount
    (client : SolvelaClient X)
    (paymentRequired : PaymentRequired) :
    Talk ClientError (String × UInt64) := do
  let terms ← Talk.ofOutcome
    (SolvelaClient.selectTerms X client.config
      paymentRequired.accepts)
  let signedTx ← ExceptT.adapt ClientError.signing
    (signExactPayment client.wallet client.config.rpcUrl
      terms.1.payTo terms.2)
  let payload :=
    buildPaymentPayload X paymentRequired.resource terms.1
      signedTx
  pure (encodePaymentHeader X payload, terms.2)

/- The header of the payment alone. -/
def signPaymentFor402
    (client : SolvelaClient X)
    (paymentRequired : PaymentRequired) :
    Talk ClientError String := do
  let signed ←
    signPaymentFor402WithAmount client paymentRequired
  pure signed.1

/- Sign, and send the request with the payment. -/
def payAndResendWithAmount
    (client : SolvelaClient X)
    (url : String)
    (req : ChatRequest)
    (paymentRequired : PaymentRequired) :
    Talk ClientError (ChatResponse × UInt64) := do
  let signed ←
    signPaymentFor402WithAmount client paymentRequired
  let parsed ← Talk.exchange .gateway
    (.post url [(paymentSignature, signed.1)] (.chat req))
    ClientError.network (SolvelaClient.readPaidResponse X)
  pure (parsed, signed.2)

end Concurrent

end Solvela

------------------------------------------------------------
-- Conversations
------------------------------------------------------------

namespace Solvela

open Dialogues

namespace Concurrent

variable {X : Crates}

/- Probe, and pay if the probe is answered 402. -/
def handshake
    (client : SolvelaClient X)
    (url : String)
    (headers : List Header)
    (req : ChatRequest) :
    Talk ClientError (ChatResponse × Option UInt64) := do
  let probed ← Talk.exchange .gateway
    (.post url headers (.chat req))
    ClientError.network (SolvelaClient.readProbe X)
  match probed with
  | .inl parsed => pure (parsed, none)
  | .inr paymentRequired => do
      let paid ← payAndResendWithAmount client url req
        paymentRequired
      pure (paid.1, some paid.2)

/- The first attempt, with the amount that was paid. -/
def sendChatRequest
    (client : SolvelaClient X)
    (url : String)
    (req : ChatRequest) :
    Talk ClientError (ChatResponse × UInt64) := do
  let reply ← handshake client url [] req
  pure (reply.1, reply.2.getD 0)

/- The retry loop with `attempts` iterations left. -/
def retryLoop
    (client : SolvelaClient X)
    (url : String)
    (req : ChatRequest) :
    Nat → ChatResponse → UInt64 →
      Talk ClientError ChatResponse
| 0, response, _ => pure response
| attempts + 1, response, totalPaidAtomic =>
    match isDegraded X.unicode response with
    | none => pure response
    | some _ => do
        let reply ← handshake client url
          [SolvelaClient.retryReasonHeader] req
        match reply.2 with
        | none =>
            retryLoop client url req attempts reply.1
              totalPaidAtomic
        | some paidAmount => do
            let total :=
              saturatingAdd totalPaidAtomic paidAmount
            Talk.ofOutcome
              (SolvelaClient.checkBudget client.config total)
            retryLoop client url req attempts reply.1 total

/- The first attempt and the retries. -/
def converse
    (client : SolvelaClient X)
    (url : String)
    (req : ChatRequest) : Talk ClientError ChatResponse := do
  let sent ← sendChatRequest client url req
  if client.config.enableQualityCheck then
    retryLoop client url req
      client.config.maxQualityRetries sent.1 sent.2
  else
    pure sent.1

/-
  Probe without a stream, and then open it, paid if
  asked.
-/
def openStream
    (client : SolvelaClient X)
    (url : String)
    (req : ChatRequest) :
    Talk ClientError
      (List (Except ClientError X.ChatChunk)) := do
  let probed ← Talk.exchange .gateway
    (.post url [] (.chat { req with stream := false }))
    ClientError.network (SolvelaClient.readStreamProbe X)
  match probed with
  | none =>
      Talk.exchange .gateway
        (.post url [] (.chat { req with stream := true }))
        ClientError.network (SolvelaClient.readStream X)
  | some paymentRequired => do
      let paymentHeader ←
        signPaymentFor402 client paymentRequired
      Talk.exchange .gateway
        (.post url [(paymentSignature, paymentHeader)]
          (.chat { req with stream := true }))
        ClientError.network (SolvelaClient.readStream X)

end Concurrent

end Solvela

------------------------------------------------------------
-- The Proxy
------------------------------------------------------------

namespace Solvela

open Dialogues

namespace Concurrent

variable {X : Crates}

/- Sign for the caller, and forward once more. -/
def payAndForward
    (state : ProxyState X)
    (gatewayUrl method : String)
    (headers : List (String × List UInt8))
    (body : List UInt8)
    (paymentRequired : PaymentRequired) :
    Talk Empty ProxyResponse := do
  let signed ← observe
    (signPaymentFor402 state.client paymentRequired)
  match signed with
  | .error e => pure (clientErrorToResponse X e)
  | .ok paymentHeader => do
      let reply ← observe (Talk.send .gateway
        { method := reqwestMethod X method
          url := gatewayUrl
          headers := forwardHeaders X headers ++
            [(paymentSignature, paymentHeader)]
          body :=
            if method = "POST" ∨ method = "PUT" ∨
                method = "PATCH" then
              .bytes body
            else
              .empty })
      match reply with
      | .error e =>
          pure (proxyErrorResponse X 502
            "gateway_unreachable"
            s!"failed to send paid request: {e.message}" none)
      | .ok resp =>
          if resp.status = 402 then
            pure (proxyErrorResponse X 502 "payment_rejected"
              ("gateway rejected payment: " ++
                resp.textOrDefault) none)
          else
            pure (buildPassthroughResponse resp)

/- What the proxy does with a 402. -/
def handle402
    (state : ProxyState X)
    (gatewayUrl method : String)
    (headers : List (String × List UInt8))
    (body : List UInt8)
    (resp402 : HttpResponse) : Talk Empty ProxyResponse :=
  match resp402.body with
  | .error e =>
      pure (proxyErrorResponse X 502 "invalid_402_body"
        s!"failed to read 402 response body: {e.message}"
        none)
  | .ok respBody =>
      match X.paymentRequiredFromStr respBody with
      | .error e =>
          pure (proxyErrorResponse X 502 "invalid_402_body"
            ("failed to parse 402 body as PaymentRequired: " ++
              e) none)
      | .ok paymentRequired =>
          payAndForward state gatewayUrl method headers body
            paymentRequired

/- Forward the request of a caller. -/
def proxyHandler
    (state : ProxyState X)
    (request : CallerRequest) : Talk Empty ProxyResponse := do
  let path := request.pathAndQuery.getD "/"
  let gatewayUrl := state.gatewayUrl ++ path
  let reply ← observe (Talk.send .gateway
    { method := reqwestMethod X request.method
      url := gatewayUrl
      headers := forwardHeaders X request.headers
      body :=
        if request.method = "POST" ∨ request.method = "PUT" ∨
            request.method = "PATCH" then
          .bytes request.body
        else
          .empty })
  match reply with
  | .error e =>
      if e.isTimeout then
        pure (proxyErrorResponse X 504 "gateway_timeout"
          s!"gateway request timed out: {e.message}" none)
      else
        pure (proxyErrorResponse X 502 "gateway_unreachable"
          s!"failed to reach gateway: {e.message}" none)
  | .ok gatewayResp =>
      if gatewayResp.status = 402 then
        handle402 state gatewayUrl request.method
          request.headers request.body gatewayResp
      else
        pure (buildPassthroughResponse gatewayResp)

end Concurrent

end Solvela

------------------------------------------------------------
-- The Shared State
------------------------------------------------------------

namespace Solvela

open Dialogues

/- An atomic access to what the calls of a client share. -/
inductive SharedAccess where
  | loadBalance
  | storeBalance
      (atomic : UInt64)
  | findSession
      (id defaultModel : String)
  | openSession
      (id defaultModel : String)
  | recordRequest
      (id : String)
      (requestHash : UInt64)
  | cacheGet
      (key : UInt64)
  | cachePut
      (key : UInt64)
      (response : ChatResponse)
  | send
      (question : Question)

/- What each access is answered. -/
abbrev SharedAccess.Answer : SharedAccess → Type
| .loadBalance => UInt64
| .storeBalance _ => Unit
| .findSession _ _ => Option SessionInfo
| .openSession _ _ => SessionInfo
| .recordRequest _ _ => Unit
| .cacheGet _ => Option ChatResponse
| .cachePut _ _ => Unit
| .send _ => Except ReqwestError HttpResponse

/- A program over the shared state and the peers. -/
abbrev Program
    (α : Type) :=
  Dialogue SharedAccess SharedAccess.Answer α

/- Questions to the peers are some of the accesses. -/
def sends : Among Reply SharedAccess.Answer where
  ask := .send
  answer := fun _ => Equiv.refl _

namespace World

variable {X : Crates}

/- The read-locked look-up of a session. -/
def findSession
    (world : World X)
    (now : Nat)
    (id : String) : Option SessionInfo :=
  world.sessionStore.bind (fun store => store.lookup now id)

/- The write-locked re-check, which may open a session. -/
def openSession
    (world : World X)
    (now created : Nat)
    (id defaultModel : String) : SessionInfo × World X :=
  match world.sessionStore with
  | none =>
      ({ model := defaultModel, escalated := false }, world)
  | some store =>
      let opened :=
        store.recheckOrInsert now created id defaultModel
      (opened.1,
        { world with
          now := created
          sessionStore := some opened.2 })

/- The lock section in which a request is recorded. -/
def recordRequest
    (world : World X)
    (id : String)
    (requestHash : UInt64) : World X :=
  { world with
    sessionStore := world.sessionStore.map
      (fun store => store.recordRequest id requestHash) }

/- The lock section of a look-up in the cache. -/
def cacheGet
    (world : World X)
    (now : Nat)
    (key : UInt64) : Option ChatResponse × World X :=
  match world.cache with
  | none => (none, world)
  | some cache =>
      let found := cache.get X.lru now key
      (found.1,
        { world with
          now := now
          cache := some found.2 })

/- The stamp is read only if the store takes effect. -/
def cachePut
    (world : World X)
    (now inserted : Nat)
    (key : UInt64)
    (response : ChatResponse) : World X :=
  match world.cache with
  | none => world
  | some cache =>
      { world with
        now :=
          if cache.suppresses X.lru now key then
            now
          else
            inserted
        cache :=
          some (cache.put X.lru now inserted key response) }

end World

/- An access with its answer. -/
abbrev Accessed :=
  Turn SharedAccess SharedAccess.Answer

/-
  What an access may answer and do.  Clock readings never go
  back, and a peer may reply anything.
-/
inductive Accesses
    {X : Crates} :
    World X → Accessed → World X → Prop where
  | loadBalance
      {world : World X} :
      Accesses world ⟨.loadBalance, world.balanceState⟩ world
  | storeBalance
      {world : World X}
      {atomic : UInt64} :
      Accesses world ⟨.storeBalance atomic, ()⟩
        { world with balanceState := atomic }
  | findSession
      {world : World X}
      {id defaultModel : String}
      {now : Nat}
      (hClock : world.now ≤ now) :
      Accesses world
        ⟨.findSession id defaultModel,
          world.findSession now id⟩
        { world with now := now }
  | openSession
      {world : World X}
      {id defaultModel : String}
      {now created : Nat}
      (hClock : world.now ≤ now)
      (hStamp : now ≤ created) :
      Accesses world
        ⟨.openSession id defaultModel,
          (world.openSession now created id defaultModel).1⟩
        (world.openSession now created id defaultModel).2
  | recordRequest
      {world : World X}
      {id : String}
      {requestHash : UInt64} :
      Accesses world ⟨.recordRequest id requestHash, ()⟩
        (world.recordRequest id requestHash)
  | cacheGet
      {world : World X}
      {key : UInt64}
      {now : Nat}
      (hClock : world.now ≤ now) :
      Accesses world
        ⟨.cacheGet key, (world.cacheGet now key).1⟩
        (world.cacheGet now key).2
  | cachePut
      {world : World X}
      {key : UInt64}
      {response : ChatResponse}
      {now inserted : Nat}
      (hClock : world.now ≤ now)
      (hStamp : now ≤ inserted) :
      Accesses world ⟨.cachePut key response, ()⟩
        (world.cachePut now inserted key response)
  | send
      {world : World X}
      {question : Question}
      {reply : Except ReqwestError HttpResponse} :
      Accesses world ⟨.send question, reply⟩
        (world.extend
          [{ peer := question.peer
             request := question.request
             reply := reply }])

end Solvela

------------------------------------------------------------
-- Calls
------------------------------------------------------------

namespace Solvela

open Dialogues

namespace Concurrent

variable {X : Crates}

/- Talk to the peers in the course of a call. -/
def talk
    {ε α : Type}
    (t : Talk ε α) : Program (Except ε α) :=
  t.run.translate sends

/- One access as a program. -/
def access
    (a : SharedAccess) : Program a.Answer :=
  .query a

/- The balance is loaded only if there is a fallback model. -/
def balanceGuard
    (config : ClientConfig)
    (req : ChatRequest) : Program (ChatRequest × Bool) :=
  match config.freeFallbackModel with
  | none => pure (req, false)
  | some _ => do
      let balanceAtomic ← access .loadBalance
      pure (SolvelaClient.balanceGuard config balanceAtomic req)

/- A look-up, and a second section if nothing is found. -/
def getOrCreate
    (id defaultModel : String) : Program SessionInfo := do
  let found : Option SessionInfo ←
    access (.findSession id defaultModel)
  match found with
  | some info => pure info
  | none => access (.openSession id defaultModel)

/- Find or open the session of a conversation. -/
def sessionLookup
    (client : SolvelaClient X)
    (req : ChatRequest)
    (usedFallback : Bool) :
    Program (ChatRequest × Option String) :=
  if client.config.enableSessions then do
    let sid := SessionStore.deriveSessionId X.defaultHasher
      req.messages
    let session ← getOrCreate sid req.model
    if usedFallback then
      pure (req, some sid)
    else
      pure ({ req with model := session.model }, some sid)
  else
    pure (req, none)

/- Look for an answer in the cache. -/
def cacheCheck
    (client : SolvelaClient X)
    (req : ChatRequest) :
    Program (Option UInt64 × Option ChatResponse) :=
  if client.config.enableCache then do
    let key := ResponseCache.cacheKey X.aHasher
      X.roleToString req.model req.messages
    let cached ← access (.cacheGet key)
    pure (some key, cached)
  else
    pure (none, none)

/- Keep an answer in the cache. -/
def cacheStore
    (cacheKey : Option UInt64)
    (response : ChatResponse) : Program Unit :=
  match cacheKey with
  | some key => access (.cachePut key response)
  | none => pure ()

/- Record the request in its session. -/
def sessionUpdate
    (X : Crates)
    (sessionId : Option String)
    (req : ChatRequest) : Program Unit :=
  match sessionId with
  | some sid =>
      access (.recordRequest sid
        (SolvelaClient.hashRequestContent X req))
  | none => pure ()

/- A chat call, with one turn for each access. -/
def chat
    (client : SolvelaClient X)
    (req : ChatRequest) :
    Program (Except ClientError ChatResponse) := do
  let guarded ← balanceGuard client.config
    { req with stream := false }
  let session ← sessionLookup client guarded.1 guarded.2
  let cache ← cacheCheck client session.1
  match cache.2 with
  | some cached => pure (.ok cached)
  | none => do
      let r ← talk (converse client client.chatUrl session.1)
      match r with
      | .error err => pure (.error err)
      | .ok response => do
          cacheStore cache.1 response
          sessionUpdate X session.2 session.1
          pure (.ok response)

/- A streaming call, with one turn for each access. -/
def chatStream
    (client : SolvelaClient X)
    (req : ChatRequest) :
    Program (Except ClientError
      (List (Except ClientError X.ChatChunk))) := do
  let guarded ← balanceGuard client.config req
  let session ← sessionLookup client guarded.1 guarded.2
  sessionUpdate X session.2 session.1
  talk (openStream client client.chatUrl session.1)

/- Ask the endpoint for the balance of the account. -/
def fetchBalance
    (X : Crates)
    (monitor : BalanceMonitor)
    (ata : Pubkey) : Talk BalanceError ℚ :=
  Talk.exchange .rpc
    (SolvelaClient.balanceRequest X monitor.rpcUrl ata)
    (fun e => .rpcRequest e.message)
    (BalanceMonitor.readBalance X)

/- One round of the monitor's loop. -/
def poll
    (X : Crates)
    (monitor : BalanceMonitor)
    (ata : Pubkey)
    (state : MonitorState) : Program MonitorState := do
  let result ← talk (fetchBalance X monitor ata)
  match result with
  | .error _ => pure state
  | .ok uiAmount => do
      access (.storeBalance (castU64 (uiAmount * 1000000)))
      let isLow :=
        decide (uiAmount < monitor.lowBalanceThreshold)
      pure
        { wasLow := isLow
          calls :=
            if isLow && !state.wasLow &&
                monitor.onLowBalance then
              state.calls ++ [uiAmount]
            else
              state.calls }

/- The loop for as many rounds as it is left running. -/
def monitorRounds
    (X : Crates)
    (monitor : BalanceMonitor)
    (ata : Pubkey) : Nat → MonitorState → Program MonitorState
| 0, state => pure state
| rounds + 1, state => do
    let state ← poll X monitor ata state
    monitorRounds X monitor ata rounds state

end Concurrent

end Solvela

------------------------------------------------------------
-- Pools Of Calls
------------------------------------------------------------

namespace Solvela

open Dialogues

/- What can run on a shared client. -/
inductive Call where
  | chat
      (req : ChatRequest)
  | chatStream
      (req : ChatRequest)
  | proxied
      (gatewayUrl : String)
      (request : CallerRequest)
  | monitored
      (monitor : BalanceMonitor)
      (ata : Pubkey)
      (rounds : Nat)

/- What a call returns.  A monitor returns nothing. -/
inductive CallResult (X : Crates) where
  | chat
      (r : Except ClientError ChatResponse)
  | chatStream
      (r : Except ClientError
        (List (Except ClientError X.ChatChunk)))
  | proxied
      (r : Except Empty ProxyResponse)
  | monitored
      (state : MonitorState)

variable {X : Crates}

/- The turns of a call. -/
def Call.dialogue
    (client : SolvelaClient X) :
    Call → Program (CallResult X)
| .chat req => do
    let r ← Concurrent.chat client req
    pure (.chat r)
| .chatStream req => do
    let r ← Concurrent.chatStream client req
    pure (.chatStream r)
| .proxied gatewayUrl request => do
    let r ← Concurrent.talk (Concurrent.proxyHandler
      { client := client, gatewayUrl := gatewayUrl } request)
    pure (.proxied r)
| .monitored monitor ata rounds => do
    let state ← Concurrent.monitorRounds X monitor ata rounds
      BalanceMonitor.started
    pure (.monitored state)

/- Some calls on one client, none of which has had a turn. -/
def startPool
    {ι : Type}
    (client : SolvelaClient X)
    (world : World X)
    (calls : ι → Call) :
    Pool (World X) ι SharedAccess SharedAccess.Answer
      (CallResult X) where
  shared := world
  tasks := fun i => (calls i).dialogue client

end Solvela
