import Solvela.Http
import Solvela.Wallet

/-
  Signing of exact payments.

  Key definitions include:
    * `associatedTokenAddress`
    * `getLatestBlockhash`
    * `signExactPayment`
    * `buildPaymentPayload`, `encodePaymentHeader`
-/

------------------------------------------------------------
-- Token Accounts
------------------------------------------------------------

namespace Solvela

/- USDC has six decimal places. -/
def usdcDecimals : UInt8 := 6

/- The account that holds a wallet's tokens of a mint. -/
def associatedTokenAddress
    (X : Crates)
    (wallet mint : Pubkey) : Pubkey :=
  let ataProgram :=
    (X.pubkeyFromStr associatedTokenProgramId).toOption.get
      X.ataProgram_valid
  X.findProgramAddress
    [wallet.bytes.toList, X.splTokenId.bytes.toList,
      mint.bytes.toList]
    ataProgram

/- A JSON-RPC request. -/
def rpcBody
    (method : String)
    (params : List Json) : Json :=
  .object [("jsonrpc", .string "2.0"), ("id", .number 1),
    ("method", .string method), ("params", .array params)]

end Solvela

------------------------------------------------------------
-- Signing
------------------------------------------------------------

namespace Solvela

open Effects

variable {X : Crates}

/- Read the block hash out of an RPC document. -/
def blockhashOf
    (X : Crates)
    (json : Json) : Except SignerError X.BlockHash :=
  match json.get "error" with
  | some errObj =>
      .error (.rpcError
        s!"RPC error: {X.valueToString errObj}")
  | none =>
      match
        (((json.index "result").index "value").index
          "blockhash").asStr
      with
      | none =>
          .error (.rpcError
            "missing blockhash in RPC response")
      | some blockhashStr =>
          (X.blockHashFromStr blockhashStr).mapError
            (fun e =>
              .rpcError s!"invalid blockhash: {e}")

/- The block hash that the endpoint's response carries. -/
def readBlockhash
    (X : Crates)
    (resp : HttpResponse) : Except SignerError X.BlockHash :=
  if resp.isSuccess then do
    let text ← resp.body.mapError (fun e =>
      SignerError.rpcError
        s!"failed to parse RPC response: {e.message}")
    let json ← (X.valueFromStr text).mapError (fun e =>
      SignerError.rpcError
        s!"failed to parse RPC response: {e}")
    blockhashOf X json
  else
    .error (.rpcError
      s!"RPC returned HTTP {X.statusDisplay resp.status}")

/- The request for a recent block hash. -/
def blockhashRequest
    (rpcUrl : String) : HttpRequest :=
  .post rpcUrl [] (.json (rpcBody "getLatestBlockhash" []))

/- Ask the endpoint for a recent block hash. -/
def getLatestBlockhash
    (env : Env)
    (rpcUrl : String) : Prog X SignerError X.BlockHash :=
  exchange env .rpc (blockhashRequest rpcUrl)
    (fun e => .rpcError e.message) (readBlockhash X)

/- The instruction that transfers to the recipient. -/
def transferInstruction
    (wallet : Wallet X)
    (recipient : String)
    (amountAtomic : UInt64) :
    Except SignerError X.Instruction := do
  let mint ← (X.pubkeyFromStr X.usdcMint).mapError (fun e =>
    SignerError.transactionBuild s!"invalid USDC mint: {e}")
  let recipientPubkey ←
    (X.pubkeyFromStr recipient).mapError (fun e =>
      SignerError.transactionBuild s!"invalid recipient: {e}")
  let sourceAta :=
    associatedTokenAddress X wallet.pubkey mint
  let destAta :=
    associatedTokenAddress X recipientPubkey mint
  (X.transferChecked X.splTokenId sourceAta mint destAta
    wallet.pubkey [] amountAtomic usdcDecimals).mapError
    (fun e =>
      SignerError.transactionBuild s!"instruction build: {e}")

/- The signed transaction of one instruction, in base64. -/
def signTransaction
    (wallet : Wallet X)
    (ix : X.Instruction)
    (blockhash : X.BlockHash) : Except SignerError String := do
  let message := X.messageNew [ix] (some wallet.pubkey)
  let tx := X.transactionNew [wallet.keypair] message blockhash
  let txBytes ← (X.bincodeSerialize tx).mapError (fun e =>
    SignerError.transactionBuild s!"serialize: {e}")
  pure (X.base64Encode txBytes)

/- Build and sign the transfer of an exact amount. -/
def signExactPayment
    (wallet : Wallet X)
    (env : Env)
    (rpcUrl recipient : String)
    (amountAtomic : UInt64) : Prog X SignerError String := do
  let ix ← ofOutcome
    (transferInstruction wallet recipient amountAtomic)
  let blockhash ← getLatestBlockhash env rpcUrl
  ofOutcome (signTransaction wallet ix blockhash)

/- The payload of a payment header. -/
def buildPaymentPayload
    (X : Crates)
    (resource : Resource)
    (accept : PaymentAccept)
    (signedTxB64 : String) : PaymentPayload where
  x402Version := X.x402Version
  resource := resource
  accepted := accept
  payload := .direct { transaction := signedTxB64 }

/- The text of a payment header. -/
def encodePaymentHeader
    (X : Crates)
    (payload : PaymentPayload) : String :=
  X.base64Encode
    (Delimited.utf8Bytes (X.paymentPayloadToString payload))

end Solvela
