import Solvela.Client.Model

/-
  The proxy: it forwards any request to the gateway and pays
  when the gateway answers 402.

  The server hands each request whose body is not too large
  to `proxyHandler`.  Header names arrive in lower case, one
  pair for each value.  A response body is passed through as
  it comes.

  Key definitions include:
    * `ProxyState`, `CallerRequest`, `ProxyResponse`
    * `forwardHeaders`
    * `proxyHandler`, `handle402`
    * `buildPassthroughResponse`
    * `bodyRefusal`, `buildProxyRouter`
-/

------------------------------------------------------------
-- Requests And Responses
------------------------------------------------------------

namespace Solvela

/- What all requests to the proxy share. -/
structure ProxyState (X : Crates) where
  client : SolvelaClient X
  gatewayUrl : String

/- The request of a caller. -/
structure CallerRequest where
  method : String
  pathAndQuery : Option String
  headers : List (String × List UInt8)
  body : List UInt8

/- The response to a caller; its body is passed on. -/
structure ProxyResponse where
  status : Nat
  headers : List (String × List UInt8)
  body : Except ReqwestError String

/-
  Set a header of a map: the first value of the name is
  replaced and all others are dropped.
-/
def insertHeader
    (name : String)
    (value : List UInt8) :
    List (String × List UInt8) → List (String × List UInt8)
| [] => [(name, value)]
| header :: headers =>
    if header.1 = name then
      (name, value) ::
        headers.filter (fun other => decide (other.1 ≠ name))
    else
      header :: insertHeader name value headers

/- Methods of the client library, for those of the server. -/
def reqwestMethod
    (X : Crates)
    (method : String) : String :=
  if method ∈ ["GET", "POST", "PUT", "DELETE", "PATCH",
      "HEAD", "OPTIONS"] then
    method
  else
    (X.methodFromBytes (Delimited.utf8Bytes method)).getD
      "GET"

end Solvela

------------------------------------------------------------
-- Headers
------------------------------------------------------------

namespace Solvela

/- Headers of the caller that are not forwarded. -/
def strippedHeaders : List String :=
  ["host", "connection", "transfer-encoding",
    "payment-signature"]

/- The caller's other headers whose values are texts. -/
def forwardHeaders
    (X : Crates)
    (headers : List (String × List UInt8)) : List Header :=
  headers.filterMap (fun header =>
    if lowercase header.1 ∈ strippedHeaders then
      none
    else
      (X.headerValueToStr header.2).map
        (fun value => (header.1, value)))

/- The gateway's response, without hop-by-hop headers. -/
def buildPassthroughResponse
    (resp : HttpResponse) : ProxyResponse where
  status :=
    if 100 ≤ resp.status ∧ resp.status < 1000 then
      resp.status
    else
      502
  headers := resp.headers.foldl
    (fun headers header =>
      if lowercase header.1 ∈
          ["connection", "transfer-encoding"] then
        headers
      else
        insertHeader header.1 header.2 headers)
    []
  body := resp.body

end Solvela

------------------------------------------------------------
-- Error Responses
------------------------------------------------------------

namespace Solvela

/- A JSON error response. -/
def proxyErrorResponse
    (X : Crates)
    (status : Nat)
    (errorType message : String)
    (details : Option Json) : ProxyResponse where
  status := status
  headers :=
    [("content-type", Delimited.utf8Bytes "application/json")]
  body := .ok (X.valueToString (.object
    [("error", .object (
      [("type", .string errorType),
        ("message", .string message)] ++
        (details.map (fun d => ("details", d))).toList))]))

/- The response that tells of an error of the client. -/
def clientErrorToResponse
    (X : Crates)
    (err : ClientError) : ProxyResponse :=
  match err with
  | .noCompatibleScheme =>
      proxyErrorResponse X 502 "no_compatible_scheme"
        err.toText none
  | .recipientMismatch _ _ =>
      proxyErrorResponse X 502 "recipient_mismatch"
        err.toText none
  | .amountExceedsMax _ _ =>
      proxyErrorResponse X 502 "amount_exceeds_max"
        err.toText none
  | .signing _ =>
      proxyErrorResponse X 502 "signing_error" err.toText none
  | _ => proxyErrorResponse X 502 "proxy_error" err.toText none

end Solvela

------------------------------------------------------------
-- Handlers
------------------------------------------------------------

namespace Solvela

open Effects

namespace ProxyState

variable {X : Crates}

/- Send the request again with a payment. -/
def payAndForward
    (state : ProxyState X)
    (env : Env)
    (gatewayUrl method : String)
    (headers : List (String × List UInt8))
    (body : List UInt8)
    (paymentRequired : PaymentRequired) :
    Prog X Empty ProxyResponse := do
  let signed ← attempt
    (state.client.signPaymentFor402 env paymentRequired)
  match signed with
  | .error e => pure (clientErrorToResponse X e)
  | .ok paymentHeader => do
      let reply ← attempt (send env .gateway
        { method := reqwestMethod X method
          url := gatewayUrl
          headers := forwardHeaders X headers ++
            [(paymentSignature, paymentHeader)]
          body :=
            if method = "POST" ∨ method = "PUT" ∨
                method = "PATCH" then
              .bytes body
            else
              .empty })
      match reply with
      | .error e =>
          pure (proxyErrorResponse X 502
            "gateway_unreachable"
            s!"failed to send paid request: {e.message}" none)
      | .ok resp =>
          if resp.status = 402 then
            pure (proxyErrorResponse X 502 "payment_rejected"
              ("gateway rejected payment: " ++
                resp.textOrDefault) none)
          else
            pure (buildPassthroughResponse resp)

/- Read the terms of a 402 response and pay. -/
def handle402
    (state : ProxyState X)
    (env : Env)
    (gatewayUrl method : String)
    (headers : List (String × List UInt8))
    (body : List UInt8)
    (resp402 : HttpResponse) : Prog X Empty ProxyResponse :=
  match resp402.body with
  | .error e =>
      pure (proxyErrorResponse X 502 "invalid_402_body"
        s!"failed to read 402 response body: {e.message}"
        none)
  | .ok respBody =>
      match X.paymentRequiredFromStr respBody with
      | .error e =>
          pure (proxyErrorResponse X 502 "invalid_402_body"
            ("failed to parse 402 body as PaymentRequired: " ++
              e) none)
      | .ok paymentRequired =>
          state.payAndForward env gatewayUrl method headers
            body paymentRequired

/- Forward a request; a 402 is paid and forwarded again. -/
def proxyHandler
    (state : ProxyState X)
    (env : Env)
    (request : CallerRequest) :
    Prog X Empty ProxyResponse := do
  let path := request.pathAndQuery.getD "/"
  let gatewayUrl := state.gatewayUrl ++ path
  let reply ← attempt (send env .gateway
    { method := reqwestMethod X request.method
      url := gatewayUrl
      headers := forwardHeaders X request.headers
      body :=
        if request.method = "POST" ∨ request.method = "PUT" ∨
            request.method = "PATCH" then
          .bytes request.body
        else
          .empty })
  match reply with
  | .error e =>
      if e.isTimeout then
        pure (proxyErrorResponse X 504 "gateway_timeout"
          s!"gateway request timed out: {e.message}" none)
      else
        pure (proxyErrorResponse X 502 "gateway_unreachable"
          s!"failed to reach gateway: {e.message}" none)
  | .ok gatewayResp =>
      if gatewayResp.status = 402 then
        state.handle402 env gatewayUrl request.method
          request.headers request.body gatewayResp
      else
        pure (buildPassthroughResponse gatewayResp)

end ProxyState

end Solvela

------------------------------------------------------------
-- The Router
------------------------------------------------------------

namespace Solvela

/- The limit of the layer around the handler, in bytes. -/
def maxBodySize : Nat := 10 * 1024 * 1024

/-
  The limit of axum's `Bytes` extractor, in bytes.  It is the
  default one, which the layer does not change.
-/
def extractorBodyLimit : Nat := 2097152

/- The length that the first such header announces. -/
def announcedLength
    (X : Crates)
    (request : CallerRequest) : Option Nat := do
  let header ← request.headers.find?
    (fun header => lowercase header.1 = "content-length")
  let text ← X.headerValueToStr header.2
  let length ← (parseU64 text).toOption
  pure length.toNat

/-
  Why a body is refused, if it is.  The layer refuses a length
  announced above its limit, and passes on no more bytes than
  were announced; the extractor refuses what is longer than
  it may read.
-/
def bodyRefusal
    (X : Crates)
    (request : CallerRequest) : Option String :=
  let announced := (announcedLength X request).getD 0
  let readable :=
    min extractorBodyLimit
      ((announcedLength X request).getD maxBodySize)
  if maxBodySize < announced then
    some "length limit exceeded"
  else if readable < request.body.length then
    some ("Failed to buffer the request body: " ++
      "length limit exceeded")
  else
    none

/- The response to a body that is refused. -/
def payloadTooLarge
    (text : String) : ProxyResponse where
  status := 413
  headers :=
    [("content-type",
      Delimited.utf8Bytes "text/plain; charset=utf-8")]
  body := .ok text

/- All routes lead to the handler, behind the limits. -/
def ProxyState.buildProxyRouter
    {X : Crates}
    (state : ProxyState X)
    (env : Env)
    (request : CallerRequest) : Prog X Empty ProxyResponse :=
  match bodyRefusal X request with
  | some text => pure (payloadTooLarge text)
  | none => state.proxyHandler env request

end Solvela
