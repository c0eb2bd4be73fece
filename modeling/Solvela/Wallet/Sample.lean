import Solvela.Crates.Sample
import Solvela.Wallet.Import

/-
  One bundle of wallet crates on which all assumptions hold.

  On the wallet whose entropy is zero it gives the true seed,
  key, phrase and texts; elsewhere it gives stand-ins.

  Main declarations:
    * `keyCrates`, `sampleWalletCrates`
    * `sampleWalletLaws`
-/

------------------------------------------------------------
-- Encodings
------------------------------------------------------------

namespace Solvela

namespace Sample

/- One known text, and one that begins with a sharp. -/
def encodeWith
    (known : List UInt8)
    (text : String)
    (bytes : List UInt8) : String :=
  if bytes = known then
    text
  else
    String.ofList ('#' :: (latin bytes).toList)

/- The inverse of the encoder with one known text. -/
def decodeWith
    (known : List UInt8)
    (text given : String) : List UInt8 :=
  if given = text then
    known
  else
    given.toList.tail.map (fun c => UInt8.ofNat c.toNat)

end Sample

end Solvela

------------------------------------------------------------
-- The First Wallet
------------------------------------------------------------

namespace Solvela

namespace Sample

/- The wallet whose entropy is zero. -/
def zeroEntropy : Vector UInt8 16 :=
  Vector.replicate 16 0

/- The seed phrase of entropy that is all zero. -/
def zeroPhrase : String :=
  "abandon abandon abandon abandon abandon abandon " ++
    "abandon abandon abandon abandon abandon about"

/- Its secret key. -/
def zeroSecret : Vector UInt8 32 :=
  #v[94, 176, 11, 189, 220, 240, 105, 8, 72, 137, 168, 171,
    145, 85, 86, 129, 101, 245, 196, 83, 204, 184, 94, 112,
    129, 26, 174, 214, 246, 218, 95, 193]

/- Its public key. -/
def zeroPublic : Vector UInt8 32 :=
  #v[197, 120, 94, 24, 101, 183, 8, 147, 138, 255, 129, 97,
    213, 115, 0, 100, 150, 102, 59, 26, 161, 8, 52, 227,
    150, 220, 86, 104, 105, 162, 198, 106]

/- Its seed, of which the secret key is the first half. -/
def zeroSeed : Vector UInt8 64 :=
  let rest : Vector UInt8 32 :=
    #v[154, 90, 196, 11, 56, 156, 211, 112, 208, 134, 32,
      109, 236, 138, 166, 196, 61, 174, 166, 105, 15, 32,
      173, 61, 141, 72, 178, 210, 206, 158, 56, 228]
  zeroSecret ++ rest

/- Its key pair. -/
def zeroKeypair : List UInt8 :=
  zeroSecret.toList ++ zeroPublic.toList

/- Its key pair in base 58. -/
def zeroB58 : String :=
  "2toRUbaioVgUMx5nZ3bDQMiTzqqwoCn5Ghet7XtztT5X233cSAp" ++
    "iZPs6VZujgQHxQVucrpSZHimy4bXrUE3qqVXo"

/- Its key pair as a document. -/
def zeroJson : String :=
  "[94,176,11,189,220,240,105,8,72,137,168,171,145,85,86," ++
    "129,101,245,196,83,204,184,94,112,129,26,174,214," ++
    "246,218,95,193,197,120,94,24,101,183,8,147,138,255," ++
    "129,97,213,115,0,100,150,102,59,26,161,8,52,227,150," ++
    "220,86,104,105,162,198,106]"

/- The public key of a secret: the true one of the first. -/
def publicKeyOf
    (secret : Vector UInt8 32) : Vector UInt8 32 :=
  if secret = zeroSecret then
    zeroPublic
  else
    secret

/- The halves of 64 bytes. -/
def firstHalf
    (bytes : List UInt8)
    (hLength : bytes.length = 64) : Vector UInt8 32 :=
  ⟨(bytes.take 32).toArray, by simp [hLength]⟩

/- The second half of 64 bytes. -/
def secondHalf
    (bytes : List UInt8)
    (hLength : bytes.length = 64) : Vector UInt8 32 :=
  ⟨(bytes.drop 32).toArray, by simp [hLength]⟩

end Sample

end Solvela

------------------------------------------------------------
-- The Bundle
------------------------------------------------------------

namespace Solvela

open Sample

/- Key pairs are checked, and messages keep their payer. -/
def keyCrates : Crates :=
  { sampleCrates with
    Message := Option Pubkey × List Transfer
    messageNew := fun instructions payer =>
      (payer, instructions)
    transactionNew := fun _ message _ => message.2.head?
    keypairTryFrom := fun bytes =>
      if hLength : bytes.length = 64 then
        if secondHalf bytes hLength =
            publicKeyOf (firstHalf bytes hLength) then
          .ok bytes
        else
          .error "keypair bytes do not specify a pair"
      else
        .error "expected 64 bytes" }

/- The payer and the authorities of the transfers. -/
def signersOf
    (message : Option Pubkey × List Transfer) : List Pubkey :=
  (message.1.toList ++ message.2.map Transfer.authority).dedup

/- Crates that know the wallet of this phrase. -/
def sampleWalletCrates : WalletCrates keyCrates where
  verifyingKey := publicKeyOf
  requiredSigners := signersOf
  bs58Encode := encodeWith zeroKeypair zeroB58
  bs58Decode := fun text =>
    .ok (decodeWith zeroKeypair zeroB58 text)
  Mnemonic := List UInt8
  mnemonicGenerate := fun entropy => .ok entropy.toList
  mnemonicToString := encodeWith zeroEntropy.toList zeroPhrase
  mnemonicFromStr := fun text =>
    .ok (decodeWith zeroEntropy.toList zeroPhrase text)
  mnemonicToSeed := fun entropy _ =>
    if entropy = zeroEntropy.toList then
      zeroSeed
    else
      Vector.replicate 64 0
  bytesToString := fun bytes =>
    .ok (encodeWith zeroKeypair zeroJson bytes)
  bytesFromStr := fun text =>
    .ok (decodeWith zeroKeypair zeroJson text)

/- A pair is accepted if and only if its halves match. -/
theorem keypairTryFrom_keyCrates
    {bytes : List UInt8}
    {keypair : keyCrates.Keypair} :
    keyCrates.keypairTryFrom bytes = .ok keypair ↔
      keypair = bytes ∧ ∃ hLength : bytes.length = 64,
        secondHalf bytes hLength =
          publicKeyOf (firstHalf bytes hLength) := by
  unfold keyCrates
  simp only
  by_cases hLength : bytes.length = 64
  · rw [dif_pos hLength]
    by_cases hMatch :
        secondHalf bytes hLength =
          publicKeyOf (firstHalf bytes hLength)
    · rw [if_pos hMatch]
      constructor
      · intro hSame
        cases hSame
        exact ⟨rfl, hLength, hMatch⟩
      · intro hSame
        rw [hSame.1]
    · rw [if_neg hMatch]
      constructor
      · intro hNo
        cases hNo
      · intro hSame
        rcases hSame with ⟨_, _, hSome⟩
        exact absurd hSome hMatch
  · rw [dif_neg hLength]
    constructor
    · intro hNo
      cases hNo
    · intro hSame
      exact absurd hSame.2.1 hLength

end Solvela
