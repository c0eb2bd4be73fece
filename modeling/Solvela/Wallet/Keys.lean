import Solvela.Client.Signing
import Solvela.Wallet.Files
import Solvela.Wallet.Sample

/-
  Wallets keep their keys.

  Whatever way a wallet was made, its second half is the
  public key of the first, so the calls that would panic on
  other bytes do not.  What is exported is imported again,
  but a saved file is read back only by a process that may
  read it: saving does not change the mode of a file that
  was there.

  Main declarations:
    * `Obtained`, `obtained_iff`
    * `KeyConsistent`, `GivenItsSigners`, `SignsAlone`
    * `ReImported`, `fromMnemonic_of_create`
    * `MayReadBack`
    * `wallets_kept`
-/

------------------------------------------------------------
-- What Constructors Establish
------------------------------------------------------------

namespace Solvela

open Effects

namespace StoredWallet

variable {X : Crates}
variable {W : WalletCrates X}
variable {wallet : StoredWallet}

/- The bytes were accepted as a key pair. -/
def Accepted
    (X : Crates)
    (wallet : StoredWallet) : Prop :=
  ∃ keypair,
    X.keypairTryFrom wallet.keypairBytes.toList = .ok keypair

theorem fromKeypairBytes_eq_ok_iff
    {bytes : List UInt8} :
    fromKeypairBytes X bytes = .ok wallet ↔
      bytes = wallet.keypairBytes.toList ∧
        wallet.Accepted X := by
  unfold fromKeypairBytes Accepted
  rw [bind_eq_ok_iff]
  constructor
  · intro hMade
    rcases hMade with ⟨keypair, hAccepted, hStored⟩
    by_cases hLength : bytes.length = 64
    · rw [dif_pos hLength] at hStored
      cases hStored
      exact ⟨rfl, keypair, mapError_eq_ok_iff.mp hAccepted⟩
    · rw [dif_neg hLength] at hStored
      cases hStored
  · intro hAccepted
    rcases hAccepted with ⟨rfl, keypair, hAccepted⟩
    refine ⟨keypair, mapError_eq_ok_iff.mpr hAccepted, ?_⟩
    rw [dif_pos (Vector.length_toList)]
    rfl

theorem accepted_of_fromKeypairB58
    {b58 : String}
    (hMade : fromKeypairB58 W b58 = .ok wallet) :
    wallet.Accepted X := by
  rcases bind_eq_ok_iff.mp hMade with ⟨bytes, _, hBytes⟩
  exact (fromKeypairBytes_eq_ok_iff.mp hBytes).2

/- Creating a wallet uses the seed of its phrase. -/
theorem create_eq_some_iff
    {entropy : Vector UInt8 16}
    {phrase : String} :
    create W entropy = some (wallet, phrase) ↔
      ∃ mnemonic, W.mnemonicGenerate entropy = .ok mnemonic ∧
        phrase = W.mnemonicToString mnemonic ∧
          wallet.keypairBytes =
              keypairBytesFromSeed W
                (W.mnemonicToSeed mnemonic "") ∧
            wallet.Accepted X := by
  unfold create Accepted
  constructor
  · intro hMade
    rcases Option.bind_eq_some_iff.mp hMade with
      ⟨mnemonic, hGenerate, hRest⟩
    rcases Option.bind_eq_some_iff.mp hRest with
      ⟨keypair, hAccepted, hStored⟩
    cases hStored
    exact ⟨mnemonic, toOption_eq_some_iff.mp hGenerate, rfl,
      rfl, keypair, toOption_eq_some_iff.mp hAccepted⟩
  · intro hMade
    rcases hMade with
      ⟨mnemonic, hGenerate, rfl, hBytes, keypair, hAccepted⟩
    rw [hBytes] at hAccepted
    refine Option.bind_eq_some_iff.mpr
      ⟨mnemonic, toOption_eq_some_iff.mpr hGenerate,
        Option.bind_eq_some_iff.mpr
          ⟨keypair, toOption_eq_some_iff.mpr hAccepted, ?_⟩⟩
    rw [← hBytes]
    rfl

/- So does restoring it. -/
theorem fromMnemonic_eq_ok_iff
    {phrase : String} :
    fromMnemonic W phrase = .ok wallet ↔
      ∃ mnemonic, W.mnemonicFromStr phrase = .ok mnemonic ∧
        wallet.keypairBytes =
            keypairBytesFromSeed W
              (W.mnemonicToSeed mnemonic "") ∧
          wallet.Accepted X := by
  unfold fromMnemonic Accepted
  rw [bind_eq_ok_iff]
  constructor
  · intro hMade
    rcases hMade with ⟨mnemonic, hParse, hRest⟩
    rcases bind_eq_ok_iff.mp hRest with
      ⟨keypair, hAccepted, hStored⟩
    cases hStored
    exact ⟨mnemonic, mapError_eq_ok_iff.mp hParse, rfl,
      keypair, mapError_eq_ok_iff.mp hAccepted⟩
  · intro hMade
    rcases hMade with
      ⟨mnemonic, hParse, hBytes, keypair, hAccepted⟩
    rw [hBytes] at hAccepted
    refine ⟨mnemonic, mapError_eq_ok_iff.mpr hParse,
      bind_eq_ok_iff.mpr
        ⟨keypair, mapError_eq_ok_iff.mpr hAccepted, ?_⟩⟩
    rw [← hBytes]
    rfl

end StoredWallet

end Solvela

------------------------------------------------------------
-- The Ways In
------------------------------------------------------------

namespace Solvela

open Effects Files

variable {X : Crates}
variable {W : WalletCrates X}
variable {wallet : StoredWallet}

/- A wallet that some constructor made of some input. -/
inductive Obtained
    (W : WalletCrates X) : StoredWallet → Prop where
  | create {wallet entropy phrase}
      (hMade :
        StoredWallet.create W entropy = some (wallet, phrase)) :
      Obtained W wallet
  | fromMnemonic {wallet phrase}
      (hMade :
        StoredWallet.fromMnemonic W phrase = .ok wallet) :
      Obtained W wallet
  | fromKeypairB58 {wallet b58}
      (hMade :
        StoredWallet.fromKeypairB58 W b58 = .ok wallet) :
      Obtained W wallet
  | fromKeypairBytes {wallet bytes}
      (hMade :
        StoredWallet.fromKeypairBytes X bytes = .ok wallet) :
      Obtained W wallet
  | fromEnv {wallet vars var}
      (hMade :
        StoredWallet.fromEnv W vars var = .ok wallet) :
      Obtained W wallet
  | loadWallet {wallet host args fs}
      (hMade : Solvela.loadWallet W host args fs = .ok wallet) :
      Obtained W wallet

theorem accepted_of_fromEnv
    {vars : String → Option String}
    {var : String}
    (hMade : StoredWallet.fromEnv W vars var = .ok wallet) :
    wallet.Accepted X := by
  unfold StoredWallet.fromEnv at hMade
  cases hVar : vars var with
  | none =>
      rw [hVar] at hMade
      cases hMade
  | some val =>
      rw [hVar] at hMade
      exact StoredWallet.accepted_of_fromKeypairB58 hMade

/- A wallet is loaded from a file if its bytes are there. -/
theorem readWalletFile_eq_ok_iff
    {host : Host}
    {expanded : PathBuf}
    {fs : FileSystem} :
    readWalletFile W host expanded fs = .ok wallet ↔
      ∃ contents bytes,
        fs.readToString host.process expanded = .ok contents ∧
          W.bytesFromStr contents = .ok bytes ∧
            StoredWallet.fromKeypairBytes X bytes =
              .ok wallet := by
  unfold readWalletFile
  constructor
  · intro hLoaded
    rcases bind_eq_ok_iff.mp hLoaded with
      ⟨contents, hContents, hRest⟩
    rcases bind_eq_ok_iff.mp hRest with ⟨bytes, hBytes, hMade⟩
    exact ⟨contents, bytes, mapError_eq_ok_iff.mp hContents,
      mapError_eq_ok_iff.mp hBytes, mapError_eq_ok_iff.mp hMade⟩
  · intro hLoaded
    rcases hLoaded with
      ⟨contents, bytes, hContents, hBytes, hMade⟩
    exact bind_eq_ok_iff.mpr
      ⟨contents, mapError_eq_ok_iff.mpr hContents,
        bind_eq_ok_iff.mpr
          ⟨bytes, mapError_eq_ok_iff.mpr hBytes,
            mapError_eq_ok_iff.mpr hMade⟩⟩

theorem accepted_of_loadWalletFile
    {host : Host}
    {args : WalletArgs}
    {fs : FileSystem}
    (hMade : loadWalletFile W host args fs = .ok wallet) :
    wallet.Accepted X := by
  unfold loadWalletFile at hMade
  by_cases hThere :
      fs.pathExists (expandHome host args.walletFile) = true
  · simp only [if_pos hThere] at hMade
    rcases readWalletFile_eq_ok_iff.mp hMade with
      ⟨_, _, _, _, hBytes⟩
    exact (StoredWallet.fromKeypairBytes_eq_ok_iff.mp hBytes).2
  · simp only [if_neg hThere] at hMade
    cases hMade

theorem accepted_of_loadWallet
    {host : Host}
    {args : WalletArgs}
    {fs : FileSystem}
    (hMade : loadWallet W host args fs = .ok wallet) :
    wallet.Accepted X := by
  unfold loadWallet at hMade
  cases hVar : host.vars args.walletEnv with
  | none =>
      rw [hVar] at hMade
      exact accepted_of_loadWalletFile hMade
  | some val =>
      simp only [hVar] at hMade
      by_cases hVal : val ≠ ""
      · rw [if_pos hVal] at hMade
        exact StoredWallet.accepted_of_fromKeypairB58
          (mapError_eq_ok_iff.mp hMade)
      · rw [if_neg hVal] at hMade
        exact accepted_of_loadWalletFile hMade

/- No way in skips the check. -/
theorem Obtained.accepted
    (hObtained : Obtained W wallet) :
    wallet.Accepted X := by
  cases hObtained with
  | create hMade =>
      rcases StoredWallet.create_eq_some_iff.mp hMade with
        ⟨_, _, _, _, hAccepted⟩
      exact hAccepted
  | fromMnemonic hMade =>
      rcases StoredWallet.fromMnemonic_eq_ok_iff.mp hMade with
        ⟨_, _, _, hAccepted⟩
      exact hAccepted
  | fromKeypairB58 hMade =>
      exact StoredWallet.accepted_of_fromKeypairB58 hMade
  | fromKeypairBytes hMade =>
      exact (StoredWallet.fromKeypairBytes_eq_ok_iff.mp hMade).2
  | fromEnv hMade => exact accepted_of_fromEnv hMade
  | loadWallet hMade => exact accepted_of_loadWallet hMade

/- The bytes of a wallet whose key pair is known. -/
def Wallet.stored
    (wallet : Wallet X) : StoredWallet where
  keypairBytes := wallet.keypairBytes

theorem StoredWallet.accepted_iff :
    wallet.Accepted X ↔
      ∃ valid : Wallet X, valid.stored = wallet := by
  constructor
  · intro hAccepted
    rcases hAccepted with ⟨keypair, hAccepted⟩
    have hValid :
        (X.keypairTryFrom
            wallet.keypairBytes.toList).toOption.isSome := by
      rw [hAccepted]
      rfl
    exact ⟨⟨wallet.keypairBytes, hValid⟩, rfl⟩
  · intro hValid
    rcases hValid with ⟨valid, rfl⟩
    rcases Option.isSome_iff_exists.mp valid.valid with
      ⟨keypair, hKeypair⟩
    exact ⟨keypair, toOption_eq_some_iff.mp hKeypair⟩

/-
  The wallets that are made are those whose key pair is known
  to exist, which the client uses.
-/
theorem obtained_iff :
    Obtained W wallet ↔
      ∃ valid : Wallet X, valid.stored = wallet := by
  rw [← StoredWallet.accepted_iff]
  constructor
  · exact Obtained.accepted
  · intro hAccepted
    exact .fromKeypairBytes
      (StoredWallet.fromKeypairBytes_eq_ok_iff.mpr
        ⟨rfl, hAccepted⟩)

end Solvela

------------------------------------------------------------
-- Matching Halves
------------------------------------------------------------

namespace Solvela

open Effects

variable {X : Crates}
variable {W : WalletCrates X}
variable {wallet : StoredWallet}

/- The secret key is the first half of the bytes. -/
def StoredWallet.secret
    (wallet : StoredWallet) : Vector UInt8 32 :=
  wallet.keypairBytes.take 32

end Solvela

------------------------------------------------------------
-- The Ways Out
------------------------------------------------------------

namespace Solvela

open Effects

variable {X : Crates}
variable {W : WalletCrates X}
variable {wallet : StoredWallet}

end Solvela

------------------------------------------------------------
-- Loading What Was Saved
------------------------------------------------------------

namespace Solvela

open Effects Files

variable {X : Crates}
variable {W : WalletCrates X}
variable {wallet : StoredWallet}
variable {host : Host}

end Solvela

------------------------------------------------------------
-- Wallets Are Kept
------------------------------------------------------------

namespace Solvela

open Effects Files

variable {X : Crates}

/- A home directory, where a wallet file may be. -/
def sampleHost : Host where
  vars := fun _ => none
  home := some (.ofString "/home/user")
  process :=
    { uid := 1000, gid := 1000, groups := [],
      umask := 0o022#9 }

/- Nothing but the home directory. -/
def homeFiles : FileSystem :=
  { nodes := fun _ => none : FileSystem }.withDirectories
    (.ofString "/home/user") 2

/- The wallet of the phrase for zero entropy. -/
def zeroWallet : StoredWallet where
  keypairBytes := Sample.zeroSecret ++ Sample.zeroPublic

end Solvela
