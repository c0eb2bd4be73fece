import Mathlib
import Solvela.Crates

/-
  One bundle of crates on which all assumptions hold.

  The formats stand in for JSON, base58, base64 and bincode.
  Encoders are injective, and the documents that a gateway or
  an RPC endpoint sends have a text.  The LRU map is the list
  of its entries by recency.

  Main declarations:
    * `sampleCrates`
    * `sampleSemantics`, `sampleReader`
    * `sampleCrates_roles`
    * `sampleCrates_payable`
-/

------------------------------------------------------------
-- Encodings
------------------------------------------------------------

namespace Solvela

open Delimited

namespace Sample

/- One character for each byte. -/
def latin
    (bytes : List UInt8) : String :=
  String.ofList (bytes.map (fun b => Char.ofNat b.toNat))

theorem charOfByte_injective :
    Function.Injective
      (fun b : UInt8 => Char.ofNat b.toNat) := by
  intro a b hEq
  have hValid : ∀ c : UInt8, c.toNat.isValidChar := by
    intro c
    have hLt := c.toNat_lt
    exact Or.inl (by omega)
  have hNat := congrArg Char.toNat hEq
  simp only [Char.toNat_ofNat, hValid, if_true] at hNat
  exact UInt8.toNat_inj.mp hNat

theorem latin_injective :
    Function.Injective latin := by
  intro a b hEq
  have hChars := String.ofList_injective hEq
  exact List.map_injective_iff.mpr charOfByte_injective
    hChars

/- The texts of a payload, in a fixed order. -/
def payloadTexts
    (payload : PaymentPayload) : List String :=
  match payload.payload with
  | .direct proof =>
      [payload.x402Version.repr, payload.resource.url,
        payload.resource.method, payload.accepted.scheme,
        payload.accepted.network, payload.accepted.amount,
        payload.accepted.asset, payload.accepted.payTo,
        payload.accepted.maxTimeoutSeconds.repr,
        proof.transaction] ++
        payload.accepted.escrowProgramId.toList

theorem payloadTexts_injective :
    Function.Injective payloadTexts := by
  intro a b hEq
  rcases a with ⟨v, ⟨url, method⟩,
    ⟨scheme, network, amount, asset, payTo, timeout, escrow⟩,
    ⟨⟨transaction⟩⟩⟩
  rcases b with ⟨v', ⟨url', method'⟩,
    ⟨scheme', network', amount', asset', payTo', timeout',
      escrow'⟩, ⟨⟨transaction'⟩⟩⟩
  simp only [payloadTexts, List.cons_append, List.nil_append,
    List.cons.injEq, Nat.repr_inj] at hEq
  rcases hEq with ⟨rfl, rfl, rfl, rfl, rfl, rfl, rfl, rfl,
    rfl, rfl, hEscrow⟩
  cases escrow <;> cases escrow' <;> simp_all

/- The texts of a transfer. -/
def transferTexts
    (transfer : Transfer) : List String :=
  [latin transfer.source.bytes.toList,
    latin transfer.mint.bytes.toList,
    latin transfer.destination.bytes.toList,
    latin transfer.authority.bytes.toList,
    transfer.amount.toNat.repr, transfer.decimals.toNat.repr]

theorem latin_bytes_inj
    {a b : Pubkey} :
    latin a.bytes.toList = latin b.bytes.toList ↔ a = b := by
  constructor
  · intro hEq
    have hList := latin_injective hEq
    cases a
    cases b
    simpa [Vector.toList_inj] using hList
  · intro hEq
    rw [hEq]

theorem transferTexts_injective :
    Function.Injective transferTexts := by
  intro a b hEq
  rcases a with ⟨source, mint, dest, auth, amount, decimals⟩
  rcases b with
    ⟨source', mint', dest', auth', amount', decimals'⟩
  simp only [transferTexts, List.cons.injEq, latin_bytes_inj,
    Nat.repr_inj, UInt64.toNat_inj, UInt8.toNat_inj,
    and_true] at hEq
  rcases hEq with ⟨rfl, rfl, rfl, rfl, rfl, rfl⟩
  rfl

end Sample

end Solvela

------------------------------------------------------------
-- The Bundle
------------------------------------------------------------

namespace Solvela

open Delimited

namespace Sample

/- An address, from the first bytes of a text. -/
def pubkeyOf
    (text : String) : Pubkey where
  bytes := Vector.ofFn
    (fun i => (utf8Bytes text).getD i.val 0)

/- The public key among the bytes of a key pair. -/
def publicHalf
    (bytes : List UInt8) : Pubkey where
  bytes := Vector.ofFn (fun i => bytes.getD (32 + i.val) 0)

theorem publicHalf_toList
    {bytes : List UInt8}
    (hLength : bytes.length = 64) :
    (publicHalf bytes).bytes.toList = bytes.drop 32 := by
  apply List.ext_getElem
  · simp [hLength]
  · intro i hLeft hRight
    have hIn : 32 + i < bytes.length := by
      rw [List.length_drop] at hRight
      omega
    simp [publicHalf, hIn]

/- Terms with one entry: an amount, a space, an address. -/
def offerOf
    (text : String) : PaymentRequired where
  x402Version := 2
  resource :=
    { url := "/v1/chat/completions", method := "POST" }
  accepts :=
    [{ scheme := "exact"
       network := "solana"
       amount := String.ofList
         (text.toList.takeWhile (fun c => c ≠ ' '))
       asset := "USDC"
       payTo := String.ofList
         ((text.toList.dropWhile (fun c => c ≠ ' ')).drop 1)
       maxTimeoutSeconds := 300
       escrowProgramId := none }]
  costBreakdown :=
    { providerCost := "0.002500"
      platformFee := "0.000125"
      total := "0.002625"
      currency := "USDC"
      feePercent := 5 }
  error := "Payment required"

/- A response without choices; its text is its id. -/
def emptyResponse
    (id : String) : ChatResponse where
  id := id
  object := "chat.completion"
  created := 1700000000
  model := "openai/gpt-4o"
  choices := []
  usage := none

/- The reply of an RPC node that lags behind. -/
def nodeBehind : Json :=
  .object [("error", .object
    [("code", .number (-32005)),
      ("message", .string "Node is behind")])]

end Sample

open Sample in
/- Every text is a document, except that no address is empty. -/
def sampleCrates : Crates where
  solanaNetwork := "solana"
  usdcMint := "USDC"
  x402Version := 2
  chatResponseFromStr := fun text => .ok (emptyResponse text)
  paymentRequiredFromStr := fun text => .ok (offerOf text)
  valueFromStr := fun text =>
    if text = "behind" then
      .ok nodeBehind
    else
      .ok (blockhashDocument text)
  ChatChunk := String
  chatChunkFromStr := fun text => .ok text
  ModelInfo := String
  modelsFromStr := fun text => .ok [text]
  valueToString := fun value => value.asStr.getD "document"
  roleToString := fun role =>
    match role with
    | .user => "user"
    | .assistant => "assistant"
    | .other variant => "role " ++ variant.repr
  paymentPayloadToString := fun payload =>
    latin (delimitedTexts (payloadTexts payload))
  base64Encode := latin
  sseEvents := fun body =>
    match body with
    | .ok text => [.ok text]
    | .error e => [.error e.message]
  Keypair := List UInt8
  BlockHash := String
  Instruction := Transfer
  Message := List Transfer
  Transaction := Option Transfer
  pubkeyFromStr := fun text =>
    if text = "" then
      .error "String is the wrong size"
    else
      .ok (pubkeyOf text)
  pubkeyToString := fun key => latin key.bytes.toList
  keypairTryFrom := fun bytes =>
    if bytes.length = 64 then
      .ok bytes
    else
      .error "expected 64 bytes"
  keypairPubkey := publicHalf
  findProgramAddress := fun seeds program =>
    { bytes := Vector.ofFn (fun i =>
        seeds.flatten.getD i.val 0 + program.bytes[i]) }
  blockHashFromStr := fun text => .ok text
  splTokenId := pubkeyOf "token"
  transferChecked := fun _ source mint destination authority _
      amount decimals =>
    .ok
      { source := source
        mint := mint
        destination := destination
        authority := authority
        amount := amount
        decimals := decimals }
  messageNew := fun instructions _ => instructions
  transactionNew := fun _ message _ => message.head?
  bincodeSerialize := fun transaction =>
    .ok (delimitedTexts
      (transaction.toList.flatMap transferTexts))
  aHasher := fun bytes =>
    bytes.foldl (fun hash b => hash * 31 + b.toUInt64) 7
  defaultHasher := fun bytes =>
    bytes.foldl (fun hash b => hash * 131 + b.toUInt64) 17
  LruCache := Recency.RecencyList UInt64 CacheEntry
  lru := Recency.RecencyList.ops
  statusDisplay := Nat.repr
  methodFromBytes := fun bytes => some (latin bytes)
  headerValueToStr := fun bytes =>
    if bytes.all (fun b => 32 ≤ b && b < 127) then
      some (latin bytes)
    else
      none
  unicode :=
    { toLowercase := fun text =>
        String.ofList (text.toList.map Char.toLower)
      isAlphanumeric := Char.isAlphanum }
  ataProgram_valid := by
    rw [if_neg (by decide)]
    rfl

end Solvela

------------------------------------------------------------
-- The Assumptions Hold
------------------------------------------------------------

namespace Solvela

open Delimited Sample

/- A transaction of the bundle is its transfer. -/
def sampleSemantics : TransferSemantics sampleCrates where
  transfers := fun transaction => Option.toList transaction
  keypairPubkey_eq := by
    intro bytes keypair hAccepted
    by_cases hLength : bytes.length = 64
    · rw [show sampleCrates.keypairTryFrom bytes = .ok bytes
        from if_pos hLength] at hAccepted
      cases hAccepted
      exact publicHalf_toList hLength
    · rw [show sampleCrates.keypairTryFrom bytes = .error _
        from if_neg hLength] at hAccepted
      cases hAccepted
  transfers_signed := by
    intro transfer instruction keypair hash _ hChecked
    cases hChecked
    rfl

theorem encodePayload_injective :
    Function.Injective
      (fun payload : PaymentPayload =>
        sampleCrates.base64Encode (utf8Bytes
          (sampleCrates.paymentPayloadToString
            payload))) := by
  intro a b hEq
  have hText := utf8Bytes_injective (latin_injective hEq)
  exact payloadTexts_injective
    (delimitedTexts_injective (latin_injective hText))

theorem encodeTransaction_injective :
    Function.Injective
      (fun transaction : sampleCrates.Transaction =>
        latin (delimitedTexts
          ((Option.toList transaction).flatMap
            transferTexts))) := by
  intro a b hEq
  have hTexts := delimitedTexts_injective
    (latin_injective hEq)
  cases a with
  | none =>
      cases b with
      | none => rfl
      | some transfer => cases hTexts
  | some transfer =>
      cases b with
      | none => cases hTexts
      | some transfer' =>
          have hSame :
              transferTexts transfer =
                transferTexts transfer' := by
            simpa using hTexts
          rw [transferTexts_injective hSame]

/- Distinct roles have distinct names. -/
theorem sampleCrates_roles :
    Function.Injective sampleCrates.roleToString := by
  have hInitial :
      ∀ (n : Nat) (name : String), name = "role " ++ n.repr →
        name.toList.head? = some 'r' := by
    intro n name hName
    rw [hName, String.toList_append]
    rfl
  intro a b hEq
  cases a with
  | user =>
      cases b with
      | user => rfl
      | assistant => exact absurd hEq (by decide)
      | other n =>
          exact absurd (hInitial n "user" hEq) (by decide)
  | assistant =>
      cases b with
      | user => exact absurd hEq (by decide)
      | assistant => rfl
      | other n =>
          exact absurd (hInitial n "assistant" hEq)
            (by decide)
  | other m =>
      cases b with
      | user =>
          exact absurd (hInitial m "user" hEq.symm)
            (by decide)
      | assistant =>
          exact absurd (hInitial m "assistant" hEq.symm)
            (by decide)
      | other n =>
          have hSame : "role " ++ m.repr = "role " ++ n.repr :=
            hEq
          rw [String.append_right_inj, Nat.repr_inj] at hSame
          rw [hSame]

/- The readers are the inverses of the encoders. -/
noncomputable def sampleReader :
    PaymentReader sampleCrates where
  toTransferSemantics := sampleSemantics
  readPayload := Function.partialInv
    (fun payload : PaymentPayload =>
      sampleCrates.base64Encode (utf8Bytes
        (sampleCrates.paymentPayloadToString payload)))
  readTransaction := Function.partialInv
    (fun transaction : sampleCrates.Transaction =>
      latin (delimitedTexts
        ((Option.toList transaction).flatMap transferTexts)))
  readPayload_encode := by
    intro payload
    exact Function.partialInv_left encodePayload_injective
      payload
  readTransaction_encode := by
    intro transaction bytes hBytes
    cases hBytes
    exact Function.partialInv_left
      encodeTransaction_injective transaction

/- A digit is no space. -/
theorem ne_space_of_digitValue
    {c : Char}
    (hDigit : (digitValue c).isSome) :
    c ≠ ' ' := by
  intro hSpace
  rw [hSpace] at hDigit
  cases hDigit

/- A text that is not empty is an address. -/
theorem pubkeyFromStr_sample
    {text : String}
    (hText : text ≠ "") :
    sampleCrates.pubkeyFromStr text =
      .ok (pubkeyOf text) := by
  unfold sampleCrates
  simp only [if_neg hText]

/- A text but one is the document of a block hash. -/
theorem valueFromStr_sample
    {text : String}
    (hText : text ≠ "behind") :
    sampleCrates.valueFromStr text =
      .ok (blockhashDocument text) := by
  unfold sampleCrates
  simp only [if_neg hText]

theorem sampleCrates_payable :
    Payable sampleCrates where
  usdcMint_parses := by
    exact ⟨pubkeyOf "USDC",
      pubkeyFromStr_sample (by decide)⟩
  transferChecked_ok := by
    intro source mint destination authority amount decimals
    exact ⟨_, rfl⟩
  bincodeSerialize_ok := by
    intro transaction
    exact ⟨_, rfl⟩
  emptyResponse_text := ⟨"id", emptyResponse "id", rfl, rfl⟩
  offer_text := by
    intro payTo amount
    rcases exists_parseU64 amount with
      ⟨digits, hDigits, hParse⟩
    have hTake :
        (digits ++ ' ' :: payTo.toList).takeWhile
            (fun c => c ≠ ' ') = digits := by
      rw [List.takeWhile_append_of_pos]
      · simp
      · intro c hMem
        simpa using ne_space_of_digitValue (hDigits c hMem)
    have hDrop :
        ((digits ++ ' ' :: payTo.toList).dropWhile
            (fun c => c ≠ ' ')).drop 1 = payTo.toList := by
      rw [List.dropWhile_append_of_pos]
      · simp
      · intro c hMem
        simpa using ne_space_of_digitValue (hDigits c hMem)
    refine ⟨String.ofList (digits ++ ' ' :: payTo.toList),
      _, _, rfl, rfl, rfl, rfl, rfl, ?_, ?_⟩
    · rw [String.toList_ofList, hDrop, String.ofList_toList]
    · rw [String.toList_ofList, hTake]
      exact hParse
  blockhash_text := by
    exact ⟨"hash", "hash", "hash",
      valueFromStr_sample (by decide), rfl⟩

end Solvela
