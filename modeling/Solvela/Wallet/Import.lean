import Solvela.Signer

/-
  How wallets are made and exported.

  The code stores 64 bytes and relies on their being a key
  pair.  Here a stored wallet is these bytes alone, so that
  what each constructor establishes can be proved of it.

  Key definitions include:
    * `WalletCrates`
    * `WalletError`, `StoredWallet`
    * `StoredWallet.create`, `StoredWallet.fromMnemonic`
    * `StoredWallet.fromKeypairBytes`, `fromKeypairB58`
    * `StoredWallet.fromEnv`
    * `WalletLaws`
-/

------------------------------------------------------------
-- Third-Party Functions
------------------------------------------------------------

namespace Solvela

/- What wallets take from other crates. -/
structure WalletCrates (X : Crates) where
  -- ed25519_dalek
  verifyingKey : Vector UInt8 32 → Vector UInt8 32
  -- solana_sdk
  requiredSigners : X.Message → List Pubkey
  -- bs58
  bs58Encode : List UInt8 → String
  bs58Decode : String → Except String (List UInt8)
  -- bip39, with the entropy that the system provides
  Mnemonic : Type
  mnemonicGenerate :
    (entropy : Vector UInt8 16) → Except String Mnemonic
  mnemonicToString : Mnemonic → String
  mnemonicFromStr : String → Except String Mnemonic
  mnemonicToSeed :
    Mnemonic → (passphrase : String) → Vector UInt8 64
  -- serde_json, for arrays of bytes
  bytesToString : List UInt8 → Except String String
  bytesFromStr : String → Except String (List UInt8)

/- Why there is no wallet. -/
inductive WalletError where
  | invalidMnemonic (message : String)
  | invalidKeypair (message : String)
  | envNotSet (var : String)
  deriving DecidableEq

/- The text of such an error. -/
def WalletError.toText : WalletError → String
| .invalidMnemonic message => s!"invalid mnemonic: {message}"
| .invalidKeypair message => s!"invalid keypair: {message}"
| .envNotSet var => s!"environment variable not set: {var}"

end Solvela

------------------------------------------------------------
-- Stored Wallets
------------------------------------------------------------

namespace Solvela

/- A wallet as it is stored: any 64 bytes. -/
structure StoredWallet where
  keypairBytes : Vector UInt8 64
  deriving DecidableEq

namespace StoredWallet

variable {X : Crates}

/- The bytes of a key pair as a wallet. -/
def fromValidatedBytes
    (bytes : Vector UInt8 64) : StoredWallet where
  keypairBytes := bytes

/- The key pair, or nothing where the code panics. -/
def keypairInner
    (X : Crates)
    (wallet : StoredWallet) : Option X.Keypair :=
  (X.keypairTryFrom wallet.keypairBytes.toList).toOption

/- The second half of the bytes. -/
def pubkey
    (wallet : StoredWallet) : Pubkey where
  bytes := wallet.keypairBytes.drop 32

/- The bytes of the key pair. -/
def toKeypairBytes
    (wallet : StoredWallet) : Vector UInt8 64 :=
  wallet.keypairBytes

/- The key pair as a text. -/
def toKeypairB58
    (W : WalletCrates X)
    (wallet : StoredWallet) : String :=
  W.bs58Encode wallet.keypairBytes.toList

/- The secret is the first half of the seed. -/
def keypairBytesFromSeed
    (W : WalletCrates X)
    (seed : Vector UInt8 64) : Vector UInt8 64 :=
  let secret : Vector UInt8 32 := seed.take 32
  secret ++ W.verifyingKey secret

/- A new wallet and its phrase, or nothing on a panic. -/
def create
    (W : WalletCrates X)
    (entropy : Vector UInt8 16) :
    Option (StoredWallet × String) := do
  let mnemonic ← (W.mnemonicGenerate entropy).toOption
  let phrase := W.mnemonicToString mnemonic
  let kpBytes :=
    keypairBytesFromSeed W (W.mnemonicToSeed mnemonic "")
  let _ ← (X.keypairTryFrom kpBytes.toList).toOption
  pure (fromValidatedBytes kpBytes, phrase)

/- The wallet of a seed phrase without a password. -/
def fromMnemonic
    (W : WalletCrates X)
    (phrase : String) : Except WalletError StoredWallet := do
  let mnemonic ← (W.mnemonicFromStr phrase).mapError
    WalletError.invalidMnemonic
  let kpBytes :=
    keypairBytesFromSeed W (W.mnemonicToSeed mnemonic "")
  let _ ← (X.keypairTryFrom kpBytes.toList).mapError
    WalletError.invalidMnemonic
  pure (fromValidatedBytes kpBytes)

/- The bytes are checked before they are stored. -/
def fromKeypairBytes
    (X : Crates)
    (bytes : List UInt8) :
    Except WalletError StoredWallet := do
  let _ ← (X.keypairTryFrom bytes).mapError
    WalletError.invalidKeypair
  if hLength : bytes.length = 64 then
    pure (fromValidatedBytes ⟨bytes.toArray, hLength⟩)
  else
    .error (.invalidKeypair "expected exactly 64 bytes")

/- The wallet of a key pair that is a text. -/
def fromKeypairB58
    (W : WalletCrates X)
    (b58 : String) : Except WalletError StoredWallet := do
  let bytes ← (W.bs58Decode b58).mapError
    WalletError.invalidKeypair
  fromKeypairBytes X bytes

/- The value of a variable, if it is set and a text. -/
def fromEnv
    (W : WalletCrates X)
    (vars : String → Option String)
    (var : String) : Except WalletError StoredWallet :=
  match vars var with
  | none => .error (.envNotSet var)
  | some val => fromKeypairB58 W val

end StoredWallet

end Solvela

------------------------------------------------------------
-- What Wallets Rely On
------------------------------------------------------------

namespace Solvela

end Solvela
