import Solvela.Crates
import Solvela.Foundations.Effects
import Solvela.Session.Model

/-
  Exchanges over HTTP, and the world that the client acts on.

  The world records each exchange.  What a peer replies and
  how much time passes between two clock readings is up to an
  environment, which knows the whole record: every claim over
  all environments holds against every gateway and every RPC
  endpoint.

  One exchange is one request that the code hands to its HTTP
  client, with the reply or the error it gets back.  Redirects
  are followed inside the HTTP client and are not part of the
  record, and a request is recorded whether or not the client
  could send it: which URLs it accepts is its own affair.

  A body built with `.json` is held before serialization; its
  content type is not listed among the headers.

  Key definitions include:
    * `HttpRequest`, `HttpResponse`, `Exchange`
    * `Env`, `World`, `World.readClock`
    * `send`, `exchange`
-/

------------------------------------------------------------
-- Requests And Responses
------------------------------------------------------------

namespace Solvela

/- A header as given: names are compared in lower case. -/
abbrev Header := String × String

/- Lower-casing of ASCII texts, such as header names. -/
def lowercase
    (text : String) : String :=
  String.ofList (text.toList.map Char.toLower)

/- What a request carries. -/
inductive Body where
  | empty
  | chat (request : ChatRequest)
  | json (value : Json)
  | bytes (content : List UInt8)

/- A request, as it is handed to the HTTP client. -/
structure HttpRequest where
  method : String
  url : String
  headers : List Header
  body : Body

/- A response; reading its body can fail. -/
structure HttpResponse where
  status : Nat
  headers : List (String × List UInt8)
  body : Except ReqwestError String

namespace HttpRequest

/- A request for a document. -/
def get
    (url : String) : HttpRequest where
  method := "GET"
  url := url
  headers := []
  body := .empty

/- A request with a body. -/
def post
    (url : String)
    (headers : List Header)
    (body : Body) : HttpRequest where
  method := "POST"
  url := url
  headers := headers
  body := body

/- The values of the payment headers. -/
def payments
    (request : HttpRequest) : List String :=
  (request.headers.filter
    (fun header =>
      lowercase header.1 == "payment-signature")).map
    Prod.snd

end HttpRequest

namespace HttpResponse

/- The status is one of success. -/
def isSuccess
    (response : HttpResponse) : Bool :=
  decide (200 ≤ response.status ∧ response.status < 300)

/- The text of the body, or nothing if it cannot be read. -/
def textOrDefault
    (response : HttpResponse) : String :=
  match response.body with
  | .ok text => text
  | .error _ => ""

end HttpResponse

/- The name under which the code sends a payment. -/
def paymentSignature : String := "PAYMENT-SIGNATURE"

theorem lowercase_paymentSignature :
    lowercase paymentSignature = "payment-signature" := by
  decide

end Solvela

------------------------------------------------------------
-- Worlds
------------------------------------------------------------

namespace Solvela

/- The endpoint a request is meant for. -/
inductive Peer where
  | gateway
  | rpc
  deriving DecidableEq

/- A request, and what came of it. -/
structure Exchange where
  peer : Peer
  request : HttpRequest
  reply : Except ReqwestError HttpResponse

/- The exchanges with the gateway, in order. -/
def gatewayExchanges
    (es : List Exchange) : List Exchange :=
  es.filter (fun e => decide (e.peer = .gateway))

/- The peers' replies and the passing of time. -/
structure Env where
  reply : List Exchange → Peer → HttpRequest →
    Except ReqwestError HttpResponse
  delay : Nat → Nat

/-
  The state shared by the calls of one client, with the
  record of its exchanges and the monotone clock.
-/
structure World (X : Crates) where
  trace : List Exchange
  now : Nat
  reads : Nat
  balanceState : UInt64
  cache : Option (ResponseCache X.LruCache)
  sessionStore : Option SessionStore

/- A program over the world with errors of type `ε`. -/
abbrev Prog
    (X : Crates)
    (ε α : Type) :=
  EStateM ε (World X) α

namespace World

variable {X : Crates}

/- Add exchanges to the record. -/
def extend
    (world : World X)
    (exchanges : List Exchange) : World X :=
  { world with trace := world.trace ++ exchanges }

@[simp] theorem extend_nil
    (world : World X) :
    world.extend [] = world := by
  unfold extend
  rw [List.append_nil]

@[simp] theorem extend_extend
    (world : World X)
    (first second : List Exchange) :
    (world.extend first).extend second =
      world.extend (first ++ second) := by
  unfold extend
  rw [List.append_assoc]

/- Read the clock, which the environment moves on. -/
def readClock
    (env : Env)
    (world : World X) : Nat × World X :=
  (world.now + env.delay world.reads,
    { world with
      now := world.now + env.delay world.reads
      reads := world.reads + 1 })

end World

end Solvela

------------------------------------------------------------
-- Sending
------------------------------------------------------------

namespace Solvela

open Effects

variable {X : Crates}

/- Send a request and record the exchange. -/
def send
    (env : Env)
    (peer : Peer)
    (request : HttpRequest) :
    Prog X ReqwestError HttpResponse := do
  let world ← get
  let reply := env.reply world.trace peer request
  set (world.extend
    [{ peer := peer, request := request, reply := reply }])
  ofOutcome reply

theorem runs_send
    {env : Env}
    {peer : Peer}
    {request : HttpRequest}
    {world world' : World X}
    {r : Except ReqwestError HttpResponse} :
    Runs (send (X := X) env peer request) world r world' ↔
      r = env.reply world.trace peer request ∧
        world' = world.extend
          [{ peer := peer, request := request, reply := r }] := by
  unfold send
  rw [runs_get_bind, runs_set_bind, runs_ofOutcome]
  constructor
  · intro hEnd
    rcases hEnd with ⟨rfl, rfl⟩
    exact ⟨rfl, rfl⟩
  · intro hEnd
    rcases hEnd with ⟨rfl, rfl⟩
    exact ⟨rfl, rfl⟩

/- What a reader makes of a reply. -/
def replyOutcome
    {ε α : Type}
    (failed : ReqwestError → ε)
    (read : HttpResponse → Except ε α)
    (reply : Except ReqwestError HttpResponse) :
    Except ε α :=
  match reply with
  | .ok resp => read resp
  | .error e => .error (failed e)

/- Send a request and read the reply. -/
def exchange
    {ε α : Type}
    (env : Env)
    (peer : Peer)
    (request : HttpRequest)
    (failed : ReqwestError → ε)
    (read : HttpResponse → Except ε α) : Prog X ε α := do
  let resp ←
    EStateM.adaptExcept failed (send env peer request)
  ofOutcome (read resp)

theorem runs_exchange
    {ε α : Type}
    {env : Env}
    {peer : Peer}
    {request : HttpRequest}
    {failed : ReqwestError → ε}
    {read : HttpResponse → Except ε α}
    {world world' : World X}
    {r : Except ε α} :
    Runs (exchange env peer request failed read) world r
        world' ↔
      ∃ reply,
        reply = env.reply world.trace peer request ∧
          r = replyOutcome failed read reply ∧
            world' = world.extend
              [{ peer := peer, request := request,
                 reply := reply }] := by
  unfold exchange
  rw [runs_adaptExcept_bind]
  constructor
  · intro hRun
    rcases hRun with
      ⟨resp, t, hSend, hRead⟩ | ⟨e, hSend, hFailed⟩
    · rcases runs_send.mp hSend with ⟨hReply, rfl⟩
      rcases runs_ofOutcome.mp hRead with ⟨rfl, rfl⟩
      exact ⟨_, hReply, rfl, rfl⟩
    · rcases runs_send.mp hSend with ⟨hReply, rfl⟩
      exact ⟨_, hReply, hFailed, rfl⟩
  · intro hReply
    rcases hReply with ⟨reply, hReply, rfl, rfl⟩
    cases reply with
    | ok resp =>
        exact Or.inl ⟨resp, _,
          runs_send.mpr ⟨hReply, rfl⟩,
          runs_ofOutcome.mpr ⟨rfl, rfl⟩⟩
    | error e =>
        exact Or.inr ⟨e, runs_send.mpr ⟨hReply, rfl⟩, rfl⟩

end Solvela
