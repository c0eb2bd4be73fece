import Solvela.Cache.Model
import Solvela.Error
import Solvela.Integers
import Solvela.Protocol
import Solvela.Quality

/-
  The third-party code that the client calls.

  Everything the repository takes from other crates is a
  field of `Crates`, so the model says what the client does
  whatever those crates compute.  What a result relies on is
  a named structure of assumptions about them.

  Key definitions include:
    * `Pubkey`, `Transfer`
    * `Crates`
    * `TransferSemantics`, `PaymentReader`
    * `Payable`
-/

------------------------------------------------------------
-- Keys And Transfers
------------------------------------------------------------

namespace Solvela

/- A Solana address. -/
structure Pubkey where
  bytes : Vector UInt8 32
  deriving DecidableEq

/- A checked transfer of tokens between token accounts. -/
structure Transfer where
  source : Pubkey
  mint : Pubkey
  destination : Pubkey
  authority : Pubkey
  amount : UInt64
  decimals : UInt8
  deriving DecidableEq

end Solvela

------------------------------------------------------------
-- Third-Party Functions
------------------------------------------------------------

namespace Solvela

/- The program that owns associated token accounts. -/
def associatedTokenProgramId : String :=
  "ATokenGPvbdGVxr1b2hvZbsiqW5xWH25efTNsLJA8knL"

/- The third-party crates, as far as the code uses them. -/
structure Crates where
  -- solvela_protocol
  solanaNetwork : String
  usdcMint : String
  x402Version : Nat
  -- serde_json
  chatResponseFromStr : String → Except String ChatResponse
  paymentRequiredFromStr :
    String → Except String PaymentRequired
  valueFromStr : String → Except String Json
  ChatChunk : Type
  chatChunkFromStr : String → Except String ChatChunk
  ModelInfo : Type
  modelsFromStr : String → Except String (List ModelInfo)
  valueToString : Json → String
  roleToString : Role → String
  paymentPayloadToString : PaymentPayload → String
  -- base64, bincode and eventsource_stream
  base64Encode : List UInt8 → String
  sseEvents :
    Except ReqwestError String → List (Except String String)
  -- solana_sdk and spl_token
  Keypair : Type
  BlockHash : Type
  Instruction : Type
  Message : Type
  Transaction : Type
  pubkeyFromStr : String → Except String Pubkey
  pubkeyToString : Pubkey → String
  keypairTryFrom : List UInt8 → Except String Keypair
  keypairPubkey : Keypair → Pubkey
  findProgramAddress : List (List UInt8) → Pubkey → Pubkey
  blockHashFromStr : String → Except String BlockHash
  splTokenId : Pubkey
  transferChecked :
    Pubkey → (source mint destination authority : Pubkey) →
      List Pubkey → (amount : UInt64) → (decimals : UInt8) →
        Except String Instruction
  messageNew : List Instruction → Option Pubkey → Message
  transactionNew :
    List Keypair → Message → BlockHash → Transaction
  bincodeSerialize :
    Transaction → Except String (List UInt8)
  -- ahash, the standard hasher and lru
  aHasher : List UInt8 → UInt64
  defaultHasher : List UInt8 → UInt64
  LruCache : Type
  lru : Recency.LruOps LruCache UInt64 CacheEntry
  -- http and the tables of Unicode
  statusDisplay : Nat → String
  methodFromBytes : List UInt8 → Option String
  headerValueToStr : List UInt8 → Option String
  unicode : UnicodeTables
  -- the constant address of the code is well formed
  ataProgram_valid :
    (pubkeyFromStr associatedTokenProgramId).toOption.isSome

end Solvela

------------------------------------------------------------
-- What A Signed Payment Means
------------------------------------------------------------

namespace Solvela

/-
  The token transfers a transaction performs.  A key pair has
  the public key that it was made with.  A transaction built
  around one checked-transfer instruction performs exactly
  that transfer if the key pair that signs it is that of the
  transfer's authority.
-/
structure TransferSemantics (X : Crates) where
  transfers : X.Transaction → List Transfer
  keypairPubkey_eq :
    ∀ {bytes : List UInt8} {keypair : X.Keypair},
      X.keypairTryFrom bytes = .ok keypair →
        (X.keypairPubkey keypair).bytes.toList =
          bytes.drop 32
  transfers_signed :
    ∀ (transfer : Transfer) {instruction : X.Instruction}
      {keypair : X.Keypair} (hash : X.BlockHash),
      X.keypairPubkey keypair = transfer.authority →
      X.transferChecked X.splTokenId transfer.source
          transfer.mint transfer.destination
          transfer.authority [] transfer.amount
          transfer.decimals =
        .ok instruction →
      transfers
          (X.transactionNew [keypair]
            (X.messageNew [instruction]
              (some transfer.authority)) hash) =
        [transfer]

/-
  Readers that invert the encoders: JSON in base64 for a
  payment header, bincode in base64 for a transaction.
-/
structure PaymentReader (X : Crates)
    extends TransferSemantics X where
  readPayload : String → Option PaymentPayload
  readTransaction : String → Option X.Transaction
  readPayload_encode : ∀ payload,
    readPayload (X.base64Encode (Delimited.utf8Bytes
        (X.paymentPayloadToString payload))) =
      some payload
  readTransaction_encode : ∀ transaction bytes,
    X.bincodeSerialize transaction = .ok bytes →
      readTransaction (X.base64Encode bytes) =
        some transaction

/- The document that carries a block hash. -/
def blockhashDocument
    (blockhash : String) : Json :=
  .object [("result", .object [("value", .object
    [("blockhash", .string blockhash)])])]

/-
  Nothing outside the client stands in the way of a payment:
  the mint parses, the token program and the serializer do
  not fail, a gateway can ask for any amount to any recipient
  and can answer without choices, and an RPC endpoint can
  answer with a block hash.
-/
structure Payable (X : Crates) : Prop where
  usdcMint_parses : ∃ mint, X.pubkeyFromStr X.usdcMint = .ok mint
  transferChecked_ok :
    ∀ source mint destination authority amount decimals,
      ∃ instruction,
        X.transferChecked X.splTokenId source mint
            destination authority [] amount decimals =
          .ok instruction
  bincodeSerialize_ok : ∀ transaction,
    ∃ bytes, X.bincodeSerialize transaction = .ok bytes
  emptyResponse_text : ∃ text response,
    X.chatResponseFromStr text = .ok response ∧
      response.choices = []
  offer_text : ∀ payTo amount, ∃ text required accept,
    X.paymentRequiredFromStr text = .ok required ∧
      required.accepts = [accept] ∧
        accept.scheme = "exact" ∧
          accept.network = X.solanaNetwork ∧
            accept.asset = X.usdcMint ∧
              accept.payTo = payTo ∧
                parseU64 accept.amount = .ok amount
  blockhash_text : ∃ text blockhash hash,
    X.valueFromStr text = .ok (blockhashDocument blockhash) ∧
      X.blockHashFromStr blockhash = .ok hash

end Solvela
