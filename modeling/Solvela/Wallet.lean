import Mathlib.Data.Vector.Basic
import Solvela.Crates

/-
  The wallet: 64 bytes, a secret key and then its public key,
  which form a key pair.

  Key definitions include:
    * `Wallet`
    * `Wallet.pubkey`, `Wallet.address`
    * `Wallet.keypair`
-/

------------------------------------------------------------
-- Wallets
------------------------------------------------------------

namespace Solvela

/- Key material that was accepted when it was imported. -/
structure Wallet (X : Crates) where
  keypairBytes : Vector UInt8 64
  valid :
    (X.keypairTryFrom keypairBytes.toList).toOption.isSome

namespace Wallet

variable {X : Crates}

/- The key pair, rebuilt from the bytes. -/
def keypairInner
    (wallet : Wallet X) : X.Keypair :=
  (X.keypairTryFrom
    wallet.keypairBytes.toList).toOption.get wallet.valid

/- The key pair for signing a transaction. -/
def keypair
    (wallet : Wallet X) : X.Keypair :=
  wallet.keypairInner

/- The public key is the second half of the bytes. -/
def pubkey
    (wallet : Wallet X) : Pubkey where
  bytes := wallet.keypairBytes.drop 32

/- The public key as a text. -/
def address
    (wallet : Wallet X) : String :=
  X.pubkeyToString wallet.pubkey

end Wallet

end Solvela
