import Mathlib.Data.Rat.Defs

/-
  The wire types shared by the client and the gateway, and
  JSON documents.

  The types are those of the protocol crate, as the client
  builds and reads them.  A role is one of the two the code
  names or some other variant.  Floating-point settings and
  JSON numbers are held by their exact value.

  Key definitions include:
    * `Json`, `Json.get`, `Json.index`, `Json.asF64`
    * `ChatRequest`, `ChatResponse`
    * `PaymentRequired`, `PaymentAccept`, `PaymentPayload`
-/

------------------------------------------------------------
-- JSON Documents
------------------------------------------------------------

namespace Solvela

/- A JSON document, with the fields of an object in order. -/
inductive Json where
  | null
  | bool (value : Bool)
  | number (value : ℚ)
  | string (value : String)
  | array (items : List Json)
  | object (fields : List (String × Json))
  deriving Inhabited

namespace Json

/- The field of an object, if the document has it. -/
def get
    (value : Json)
    (key : String) : Option Json :=
  match value with
  | .object fields => fields.lookup key
  | _ => none

/- The field of an object, or `null`. -/
def index
    (value : Json)
    (key : String) : Json :=
  (value.get key).getD .null

/- The text of a string. -/
def asStr
    (value : Json) : Option String :=
  match value with
  | .string text => some text
  | _ => none

/- The value of a number. -/
def asF64
    (value : Json) : Option ℚ :=
  match value with
  | .number exact => some exact
  | _ => none

end Json

end Solvela

------------------------------------------------------------
-- Chat Messages
------------------------------------------------------------

namespace Solvela

/- The author of a message. -/
inductive Role where
  | user
  | assistant
  | other (variant : Nat)
  deriving DecidableEq

/- A message of a conversation. -/
structure ChatMessage where
  role : Role
  content : String
  name : Option String
  toolCalls : Option (List Json)
  toolCallId : Option String

/- A question to a model, with its options. -/
structure ChatRequest where
  model : String
  messages : List ChatMessage
  maxTokens : Option Nat
  temperature : Option ℚ
  topP : Option ℚ
  stream : Bool
  tools : Option (List Json)
  toolChoice : Option Json

/- One of the answers of a model. -/
structure ChatChoice where
  index : Nat
  message : ChatMessage
  finishReason : Option String

/- How many tokens were used. -/
structure Usage where
  promptTokens : Nat
  completionTokens : Nat
  totalTokens : Nat
  deriving DecidableEq

/- The response of a model. -/
structure ChatResponse where
  id : String
  object : String
  created : Nat
  model : String
  choices : List ChatChoice
  usage : Option Usage

end Solvela

------------------------------------------------------------
-- Payment Terms
------------------------------------------------------------

namespace Solvela

/- What is paid for. -/
structure Resource where
  url : String
  method : String
  deriving DecidableEq

/- One way of paying that the gateway accepts. -/
structure PaymentAccept where
  scheme : String
  network : String
  amount : String
  asset : String
  payTo : String
  maxTimeoutSeconds : Nat
  escrowProgramId : Option String
  deriving DecidableEq

/- What a request costs, and to whom it goes. -/
structure CostBreakdown where
  providerCost : String
  platformFee : String
  total : String
  currency : String
  feePercent : Nat
  deriving DecidableEq

/- The body of a 402 response. -/
structure PaymentRequired where
  x402Version : Nat
  resource : Resource
  accepts : List PaymentAccept
  costBreakdown : CostBreakdown
  error : String
  deriving DecidableEq

/- A signed transaction, in base64. -/
structure SolanaPayload where
  transaction : String
  deriving DecidableEq

/- The proof of payment; the client builds direct ones only. -/
inductive PayloadData where
  | direct (payload : SolanaPayload)
  deriving DecidableEq

/- What a PAYMENT-SIGNATURE header carries. -/
structure PaymentPayload where
  x402Version : Nat
  resource : Resource
  accepted : PaymentAccept
  payload : PayloadData
  deriving DecidableEq

end Solvela
