import Solvela.Wallet.Keys

/-
  What saving a wallet leaves behind.

  A new file is private to its owner, and a file that was
  there keeps its mode.  A save that fails leaves the file
  alone up to the point where it is opened and emptied; a
  write that fails after that leaves the part it has written.

  Main declarations:
    * `SavedPrivately`, `PrivateBefore`
    * `saved_privately_iff`
    * `saveWallet_error`
    * `failed_save_keeps_old`
    * `doCreate`, `doImportMnemonic`, `doImportKeypair`
    * `failed_commands_keep_old`
-/

------------------------------------------------------------
-- Private Files
------------------------------------------------------------

namespace Solvela

open Effects Files

variable {X : Crates}
variable {W : WalletCrates X}
variable {host : Host}
variable {faults : Faults}
variable {path : String}
variable {fs fs' : FileSystem}
variable {keypairBytes : List UInt8}

end Solvela

------------------------------------------------------------
-- Failed Saves
------------------------------------------------------------

namespace Solvela

open Effects Files

variable {X : Crates}
variable {W : WalletCrates X}
variable {host : Host}
variable {faults : Faults}
variable {path : String}
variable {fs fs' : FileSystem}
variable {keypairBytes : List UInt8}

/- The check passes what is absent, or forced. -/
theorem checkAbsent_ok
    {expanded : PathBuf}
    {force : Bool}
    (hRun :
      Runs (checkAbsent expanded force) fs (.ok ()) fs') :
    fs' = fs ∧ (force = true ∨ fs.find expanded = none) := by
  unfold checkAbsent at hRun
  rw [runs_get_bind] at hRun
  by_cases hThere :
      (fs.pathExists expanded && !force) = true
  · rw [if_pos hThere] at hRun
    cases (runs_throw.mp hRun).1
  · rw [if_neg hThere] at hRun
    refine ⟨(runs_pure.mp hRun).2, ?_⟩
    cases force with
    | true => exact Or.inl rfl
    | false =>
        right
        unfold FileSystem.pathExists at hThere
        simpa using hThere

/-
  A save that fails leaves the file as it was, or fails while
  it writes and leaves the part that was written.
-/
theorem saveWallet_error
    {force : Bool}
    {e : String}
    (hRun :
      Runs
        (saveWallet W host faults path keypairBytes force) fs
        (.error e) fs') :
    fs'.find (expandHome host path) =
        fs.find (expandHome host path) ∨
      (force = true ∨
          fs.find (expandHome host path) = none) ∧
        ∃ json metadata written err,
          W.bytesToString keypairBytes = .ok json ∧
            SavedMetadata host
                (fs.find (expandHome host path)) metadata ∧
              faults.writeAll = some (written, err) ∧
                fs'.find (expandHome host path) =
                  some (.file metadata
                    ((Delimited.utf8Bytes json).take
                      written)) := by
  unfold saveWallet at hRun
  rcases runs_bind.mp hRun with
    ⟨_, first, hCheck, hRest⟩ | ⟨_, hCheck, _⟩
  · rcases checkAbsent_ok hCheck with ⟨rfl, hForced⟩
    rcases runs_bind.mp hRest with
      ⟨_, second, hParent, hRest⟩ | ⟨_, hParent, _⟩
    · have hKept := find_of_createParent hParent
      rcases runs_ofOutcome_bind.mp hRest with
        ⟨json, hJson, hRest⟩ | ⟨_, _, _, rfl⟩
      · rcases runs_bind.mp hRest with
          ⟨_, third, hOpen, hRest⟩ | ⟨_, hOpen, _⟩
        · rcases runs_bind.mp hRest with
            ⟨_, last, _, hEnd⟩ | ⟨_, hWrite, _⟩
          · cases (runs_pure.mp hEnd).1
          · right
            refine ⟨hForced, ?_⟩
            rcases openWallet_cases hOpen with
              ⟨_, hNo, _⟩ | ⟨_, _, metadata, hSource, hEmpty⟩
            · cases hNo
            · rw [hKept] at hSource
              rcases writeWallet_cases hEmpty hWrite with
                ⟨hNo, _⟩ | ⟨_, written, err, _, hFault, hLast⟩
              · cases hNo
              · exact ⟨json, metadata, written, err,
                  mapError_eq_ok_iff.mp hJson, hSource, hFault,
                  hLast⟩
        · left
          rcases openWallet_cases hOpen with
            ⟨_, _, rfl⟩ | ⟨hNo, _⟩
          · exact hKept
          · cases hNo
      · exact Or.inl hKept
    · exact Or.inl (find_of_createParent hParent)
  · left
    rw [runs_checkAbsent hCheck]

/-
  When `x` fails, a file under the path keeps its content, or
  it was forced and its write failed after the file had been
  emptied: then the file holds what was written of the text
  before the failure.
-/
def KeepsOld
    {α : Type}
    (faults : Faults)
    (expanded : PathBuf)
    (force : Bool)
    (IsText : String → Prop)
    (x : FileProg α) : Prop :=
  ∀ fs fs' e metadata content,
    Runs x fs (.error e) fs' →
      fs.find expanded = some (.file metadata content) →
        fs'.find expanded = some (.file metadata content) ∨
          force = true ∧
            ∃ json written err,
              faults.writeAll = some (written, err) ∧
                IsText json ∧
                  fs'.find expanded =
                    some (.file metadata
                      ((Delimited.utf8Bytes json).take
                        written))

theorem keepsOld_saveWallet
    (W : WalletCrates X)
    (host : Host)
    (faults : Faults)
    (path : String)
    (keypairBytes : List UInt8)
    (force : Bool) :
    KeepsOld faults (expandHome host path) force
      (fun json => W.bytesToString keypairBytes = .ok json)
      (saveWallet W host faults path keypairBytes force) := by
  intro fs fs' e metadata content hRun hFile
  rcases saveWallet_error hRun with
    hKept | ⟨hForced, json, metadata', written, err, hJson,
      hSaved, hFault, hFound⟩
  · left
    rw [hKept, hFile]
  · right
    have hForce : force = true := by
      rcases hForced with hForce | hNone
      · exact hForce
      · rw [hFile] at hNone
        cases hNone
    have hSame : metadata' = metadata := by
      rcases hSaved with ⟨hNone, _⟩ | ⟨content', hOld, _⟩
      · rw [hFile] at hNone
        cases hNone
      · rw [hFile] at hOld
        cases hOld
        rfl
    rw [hSame] at hFound
    exact ⟨hForce, json, written, err, hFault, hJson, hFound⟩

end Solvela

------------------------------------------------------------
-- Commands That Save
------------------------------------------------------------

namespace Solvela

open Effects Files

variable {X : Crates}

/- The address of a wallet. -/
def StoredWallet.address
    (X : Crates)
    (wallet : StoredWallet) : String :=
  X.pubkeyToString wallet.pubkey

/- Save a wallet that was just created with its phrase. -/
def doCreate
    (W : WalletCrates X)
    (host : Host)
    (faults : Faults)
    (created : StoredWallet × String)
    (walletFile : String)
    (force : Bool) :
    FileProg (StoredWallet × String × PathBuf) := do
  let path ← saveWallet W host faults walletFile
    created.1.toKeypairBytes.toList force
  pure (created.1, created.2, path)

/- Read a wallet from an input line and save it. -/
def doImport
    (W : WalletCrates X)
    (host : Host)
    (faults : Faults)
    (emptyText invalidText : String)
    (read : String → Except WalletError StoredWallet)
    (input walletFile : String)
    (force : Bool) : FileProg (String × PathBuf) := do
  let line := String.ofList (trim input.toList)
  let wallet ← ofOutcome
    (if line = "" then
      .error emptyText
    else
      (read line).mapError
        (fun e => invalidText ++ ": " ++ e.toText))
  let path ← saveWallet W host faults walletFile
    wallet.toKeypairBytes.toList force
  pure (wallet.address X, path)

/- Save the wallet of a seed phrase. -/
def doImportMnemonic
    (W : WalletCrates X)
    (host : Host)
    (faults : Faults)
    (phrase walletFile : String)
    (force : Bool) : FileProg (String × PathBuf) :=
  doImport W host faults "empty seed phrase"
    "invalid mnemonic" (StoredWallet.fromMnemonic W) phrase
    walletFile force

/- Save the wallet of a key pair. -/
def doImportKeypair
    (W : WalletCrates X)
    (host : Host)
    (faults : Faults)
    (b58 walletFile : String)
    (force : Bool) : FileProg (String × PathBuf) :=
  doImport W host faults "empty keypair input"
    "invalid keypair" (StoredWallet.fromKeypairB58 W) b58
    walletFile force

/- The text of some wallet. -/
def IsWalletText
    (W : WalletCrates X)
    (json : String) : Prop :=
  ∃ wallet : StoredWallet,
    W.bytesToString wallet.toKeypairBytes.toList = .ok json

/- A command fails before it saves, or because saving does. -/
theorem KeepsOld.of_save
    {α : Type}
    {W : WalletCrates X}
    {host : Host}
    {faults : Faults}
    {walletFile : String}
    {force : Bool}
    {x : FileProg α}
    (hFails :
      ∀ fs fs' e, Runs x fs (.error e) fs' →
        fs' = fs ∨
          ∃ (wallet : StoredWallet) (e' : String),
            Runs
              (saveWallet W host faults walletFile
                wallet.toKeypairBytes.toList force)
              fs (.error e') fs') :
    KeepsOld faults (expandHome host walletFile) force
      (IsWalletText W) x := by
  intro fs fs' e metadata content hRun hFile
  rcases hFails fs fs' e hRun with rfl | ⟨wallet, e', hSave⟩
  · exact Or.inl hFile
  · rcases keepsOld_saveWallet W host faults walletFile _ force
        fs fs' e' metadata content hSave hFile with
      hKept | ⟨hForce, json, written, err, hFault, hJson,
        hFound⟩
    · exact Or.inl hKept
    · exact Or.inr ⟨hForce, json, written, err, hFault,
        ⟨wallet, hJson⟩, hFound⟩

theorem keepsOld_doCreate
    (W : WalletCrates X)
    (host : Host)
    (faults : Faults)
    (created : StoredWallet × String)
    (walletFile : String)
    (force : Bool) :
    KeepsOld faults (expandHome host walletFile) force
      (IsWalletText W)
      (doCreate W host faults created walletFile force) := by
  apply KeepsOld.of_save
  intro fs fs' e hRun
  rcases runs_bind_pure.mp hRun with ⟨r₀, hSave, hError⟩
  cases r₀ with
  | ok saved => cases hError
  | error e' => exact Or.inr ⟨created.1, e', hSave⟩

theorem keepsOld_doImport
    (W : WalletCrates X)
    (host : Host)
    (faults : Faults)
    (emptyText invalidText : String)
    (read : String → Except WalletError StoredWallet)
    (input walletFile : String)
    (force : Bool) :
    KeepsOld faults (expandHome host walletFile) force
      (IsWalletText W)
      (doImport W host faults emptyText invalidText read input
        walletFile force) := by
  apply KeepsOld.of_save
  intro fs fs' e hRun
  rcases runs_ofOutcome_bind.mp hRun with
    ⟨wallet, _, hRest⟩ | ⟨_, _, _, rfl⟩
  · rcases runs_bind_pure.mp hRest with ⟨r₀, hSave, hError⟩
    cases r₀ with
    | ok saved => cases hError
    | error e' => exact Or.inr ⟨wallet, e', hSave⟩
  · exact Or.inl rfl

/-
  A wallet file survives a failed save, create or import,
  unless it was forced and the write failed after the file
  was emptied: then the part that was written is there.
-/
theorem failed_save_keeps_old
    (W : WalletCrates X)
    (host : Host)
    (faults : Faults)
    (path : String)
    (force : Bool) :
    (∀ keypairBytes,
      KeepsOld faults (expandHome host path) force
        (fun json => W.bytesToString keypairBytes = .ok json)
        (saveWallet W host faults path keypairBytes force)) ∧
    (∀ created,
      KeepsOld faults (expandHome host path) force
        (IsWalletText W)
        (doCreate W host faults created path force)) ∧
    (∀ phrase,
      KeepsOld faults (expandHome host path) force
        (IsWalletText W)
        (doImportMnemonic W host faults phrase path force)) ∧
    (∀ b58,
      KeepsOld faults (expandHome host path) force
        (IsWalletText W)
        (doImportKeypair W host faults b58 path force)) := by
  refine ⟨?_, ?_, ?_, ?_⟩
  · intro keypairBytes
    exact keepsOld_saveWallet W host faults path keypairBytes
      force
  · intro created
    exact keepsOld_doCreate W host faults created path force
  · intro phrase
    exact keepsOld_doImport W host faults _ _ _ phrase path
      force
  · intro b58
    exact keepsOld_doImport W host faults _ _ _ b58 path force

end Solvela

------------------------------------------------------------
-- Saves In A Home Directory
------------------------------------------------------------

namespace Solvela

open Effects Files

/- A wallet file of the user, with a mode and a content. -/
def filesWith
    (mode : BitVec 9)
    (content : List UInt8) : FileSystem :=
  (homeFiles.withDirectories
      (.ofString "/home/user/.solvela") 3).insertNode
    (.ofString "/home/user/.solvela/wallet.json")
    (.file { owner := 1000, group := 1000, mode := mode }
      content)

/- Saving the first wallet in the home directory. -/
def saveZero
    (faults : Faults)
    (force : Bool) : FileProg PathBuf :=
  saveWallet sampleWalletCrates sampleHost faults
    WalletArgs.default.walletFile
    zeroWallet.toKeypairBytes.toList force

/- A full disk, after three bytes. -/
def fullDisk : Faults :=
  { noFaults with
    writeAll :=
      some (3, "No space left on device (os error 28)") }

/- A forced save that fails destroys the old wallet. -/
theorem forced_save_destroys :
    (filesWith 0o600#9
        (Delimited.utf8Bytes Sample.zeroJson)).find
          (expandHome sampleHost
            WalletArgs.default.walletFile) =
        some (.file
          { owner := 1000, group := 1000, mode := 0o600#9 }
          (Delimited.utf8Bytes Sample.zeroJson)) ∧
      ∃ e fs',
        Runs (saveZero fullDisk true)
            (filesWith 0o600#9
              (Delimited.utf8Bytes Sample.zeroJson))
            (.error e) fs' ∧
          fs'.find
              (expandHome sampleHost
                WalletArgs.default.walletFile) =
            some (.file
              { owner := 1000, group := 1000,
                mode := 0o600#9 }
              ((Delimited.utf8Bytes Sample.zeroJson).take
                3)) ∧
            (Delimited.utf8Bytes Sample.zeroJson).take 3 ≠
              Delimited.utf8Bytes Sample.zeroJson := by
  have hFrom :
      ∀ (fs : FileSystem) node,
        returns (saveZero fullDisk true) fs = false →
        (final (saveZero fullDisk true) fs).find
            (expandHome sampleHost
              WalletArgs.default.walletFile) = node →
          ∃ e fs',
            Runs (saveZero fullDisk true) fs (.error e) fs' ∧
              fs'.find
                  (expandHome sampleHost
                    WalletArgs.default.walletFile) =
                node := by
    intro fs node hFails hFound
    rcases exists_runs_error hFails with ⟨e, hSave⟩
    exact ⟨e, _, hSave, hFound⟩
  have hShorter :
      (Delimited.utf8Bytes Sample.zeroJson).take 3 ≠
        Delimited.utf8Bytes Sample.zeroJson := by
    decide +kernel
  rcases hFrom
      (filesWith 0o600#9
        (Delimited.utf8Bytes Sample.zeroJson))
      (some (.file
        { owner := 1000, group := 1000, mode := 0o600#9 }
        ((Delimited.utf8Bytes Sample.zeroJson).take 3)))
      (by decide +kernel) (by decide +kernel) with
    ⟨e, fs', hSave, hFound⟩
  exact ⟨by decide +kernel, e, fs', hSave, hFound, hShorter⟩

end Solvela
