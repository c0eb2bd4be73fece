/-
  The errors of the client.

  Key definitions include:
    * `ReqwestError`
    * `SignerError`, `ClientError`
    * `ClientError.toText`
-/

------------------------------------------------------------
-- Error Types
------------------------------------------------------------

namespace Solvela

/- A failed HTTP exchange. -/
structure ReqwestError where
  message : String
  isTimeout : Bool
  deriving DecidableEq

/- Why a payment could not be signed. -/
inductive SignerError where
  | rpcError (message : String)
  | transactionBuild (message : String)
  deriving DecidableEq

/- The errors that the modeled functions return. -/
inductive ClientError where
  | signing (error : SignerError)
  | gateway (status : Nat) (message : String)
  | paymentRejected (body : String)
  | noCompatibleScheme
  | network (error : ReqwestError)
  | streamError (message : String)
  | parseError (message : String)
  | recipientMismatch (expected actual : String)
  | amountExceedsMax (amount max : UInt64)
  | budgetExceeded (spent cap : UInt64)
  | balanceError (message : String)
  deriving DecidableEq

end Solvela

------------------------------------------------------------
-- Error Texts
------------------------------------------------------------

namespace Solvela

namespace SignerError

/- The text of such an error. -/
def toText : SignerError → String
| .rpcError message => s!"RPC error: {message}"
| .transactionBuild message =>
    s!"transaction build error: {message}"

end SignerError

namespace ClientError

/- The text of an error of the client. -/
def toText : ClientError → String
| .signing error => s!"payment signing failed: {error.toText}"
| .gateway status message =>
    s!"gateway error ({status}): {message}"
| .paymentRejected body =>
    s!"payment rejected by gateway: {body}"
| .noCompatibleScheme =>
    "no compatible payment scheme in 402 response"
| .network error => s!"network error: {error.message}"
| .streamError message => s!"stream interrupted: {message}"
| .parseError message =>
    s!"failed to parse response: {message}"
| .recipientMismatch expected actual =>
    "payment recipient mismatch: " ++
      s!"expected {expected}, got {actual}"
| .amountExceedsMax amount max =>
    s!"payment amount {amount} exceeds maximum allowed {max}"
| .budgetExceeded spent cap =>
    s!"cumulative payments {spent} atomic exceed budget " ++
      s!"{cap} atomic for this request"
| .balanceError message =>
    s!"balance check failed: {message}"

end ClientError

end Solvela
