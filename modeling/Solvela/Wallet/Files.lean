import Solvela.Foundations.Files
import Solvela.Wallet.Import

/-
  The wallet file, as the programs of the command line keep
  it.  The code for Unix is modelled.

  Key definitions include:
    * `Host`, `WalletArgs`
    * `expandHome`
    * `loadWallet`
    * `saveWallet`, `saveWallet_ok`
-/

------------------------------------------------------------
-- The Host
------------------------------------------------------------

namespace Solvela

open Files

/- The environment that a program is run in. -/
structure Host where
  vars : String → Option String
  home : Option PathBuf
  process : Process

/- Where a wallet is looked for. -/
structure WalletArgs where
  walletEnv : String
  walletFile : String

/- The defaults of the command line. -/
def WalletArgs.default : WalletArgs where
  walletEnv := "SOLVELA_WALLET_KEY"
  walletFile := "~/.solvela/wallet.json"

/- A leading `~/` stands for the home directory. -/
def expandHome
    (host : Host)
    (path : String) : PathBuf :=
  match path.toList with
  | '~' :: '/' :: rest =>
      match host.home with
      | some home =>
          home.join (.ofString (String.ofList rest))
      | none => .ofString path
  | _ => .ofString path

end Solvela

------------------------------------------------------------
-- Loading
------------------------------------------------------------

namespace Solvela

open Files

variable {X : Crates}

/- The wallet in a file that exists. -/
def readWalletFile
    (W : WalletCrates X)
    (host : Host)
    (expanded : PathBuf)
    (fs : FileSystem) : Except String StoredWallet := do
  let contents ←
    (fs.readToString host.process expanded).mapError
      (fun e => s!"failed to read {expanded.display}: {e}")
  let bytes ← (W.bytesFromStr contents).mapError (fun e =>
    s!"invalid wallet file format in {expanded.display}: {e}")
  (StoredWallet.fromKeypairBytes X bytes).mapError (fun e =>
    s!"invalid keypair in {expanded.display}: {e.toText}")

/- The wallet in the file, if there is one. -/
def loadWalletFile
    (W : WalletCrates X)
    (host : Host)
    (args : WalletArgs)
    (fs : FileSystem) : Except String StoredWallet :=
  let expanded := expandHome host args.walletFile
  if fs.pathExists expanded then
    readWalletFile W host expanded fs
  else
    .error ("no wallet found: set " ++ args.walletEnv ++
      " env var or create " ++ expanded.display)

/- The variable comes first, unless it is empty. -/
def loadWallet
    (W : WalletCrates X)
    (host : Host)
    (args : WalletArgs)
    (fs : FileSystem) : Except String StoredWallet :=
  match host.vars args.walletEnv with
  | some val =>
      if val ≠ "" then
        (StoredWallet.fromKeypairB58 W val).mapError (fun e =>
          s!"invalid keypair in {args.walletEnv}: {e.toText}")
      else
        loadWalletFile W host args fs
  | none => loadWalletFile W host args fs

end Solvela

------------------------------------------------------------
-- Saving
------------------------------------------------------------

namespace Solvela

open Effects Files

variable {X : Crates}

/- Only the owner may read and write a new wallet file. -/
def walletMode : BitVec 9 := 0o600#9

/- Without force, nothing may be there. -/
def checkAbsent
    (expanded : PathBuf)
    (force : Bool) : FileProg Unit := do
  let fs ← get
  if fs.pathExists expanded && !force then
    throw ("wallet file already exists at " ++
      expanded.display ++ " (use --force to overwrite)")
  else
    pure ()

/- The directory of the file is there after this. -/
def createParent
    (faults : Faults)
    (expanded : PathBuf) : FileProg Unit :=
  match expanded.parent with
  | none => pure ()
  | some parent =>
      EStateM.adaptExcept
        (fun e =>
          s!"failed to create directory {parent.display}: {e}")
        (FileSystem.createDirAll faults parent)

/- Open the file for the owner alone, and empty it. -/
def openWallet
    (host : Host)
    (faults : Faults)
    (expanded : PathBuf) : FileProg Unit :=
  EStateM.adaptExcept
    (fun e => s!"failed to create {expanded.display}: {e}")
    (FileSystem.openTruncate host.process faults walletMode
      expanded)

/- Write the text to the opened file. -/
def writeWallet
    (faults : Faults)
    (expanded : PathBuf)
    (json : String) : FileProg Unit :=
  EStateM.adaptExcept
    (fun e => s!"failed to write {expanded.display}: {e}")
    (FileSystem.writeAll faults expanded
      (Delimited.utf8Bytes json))

/- Save a key pair, and tell where. -/
def saveWallet
    (W : WalletCrates X)
    (host : Host)
    (faults : Faults)
    (path : String)
    (keypairBytes : List UInt8)
    (force : Bool) : FileProg PathBuf := do
  let expanded := expandHome host path
  checkAbsent expanded force
  createParent faults expanded
  let json ← ofOutcome
    ((W.bytesToString keypairBytes).mapError
      (fun e => s!"failed to serialize keypair: {e}"))
  openWallet host faults expanded
  writeWallet faults expanded json
  pure expanded

end Solvela

------------------------------------------------------------
-- What Saving And Loading Do
------------------------------------------------------------

namespace Solvela

open Effects Files

variable {X : Crates}
variable {W : WalletCrates X}
variable {host : Host}
variable {faults : Faults}
variable {path : String}
variable {fs fs' : FileSystem}

/-
  The metadata of a file that was saved: those it had, if it
  was there and may be written, else those of a new file.
-/
def SavedMetadata
    (host : Host)
    (before : Option Node)
    (metadata : Metadata) : Prop :=
  before = none ∧
      metadata = host.process.created walletMode ∨
    ∃ content, before = some (.file metadata content) ∧
      host.process.may .write metadata = true

/- The check changes nothing. -/
theorem runs_checkAbsent
    {expanded : PathBuf}
    {force : Bool}
    {r : Except String Unit}
    (hRun : Runs (checkAbsent expanded force) fs r fs') :
    fs' = fs := by
  unfold checkAbsent at hRun
  rw [runs_get_bind] at hRun
  by_cases hThere :
      (fs.pathExists expanded && !force) = true
  · rw [if_pos hThere] at hRun
    exact (runs_throw.mp hRun).2
  · rw [if_neg hThere] at hRun
    exact (runs_pure.mp hRun).2

/- Creating directories neither makes nor touches the file. -/
theorem find_of_createParent
    {expanded : PathBuf}
    {r : Except String Unit}
    (hRun :
      Runs (createParent faults expanded) fs r fs') :
    fs'.find expanded = fs.find expanded := by
  unfold createParent at hRun
  cases hParent : expanded.parent with
  | none =>
      rw [hParent] at hRun
      rw [(runs_pure.mp hRun).2]
  | some parent =>
      rw [hParent] at hRun
      rcases runs_adaptExcept.mp hRun with ⟨r₀, hCreate, _⟩
      exact (FileSystem.createDirAll_spec hCreate).1 expanded
        (PathBuf.not_leadsTo_parent hParent)

/- An open leaves the file alone, or leaves it empty. -/
theorem openWallet_cases
    {expanded : PathBuf}
    {r : Except String Unit}
    (hRun :
      Runs (openWallet host faults expanded) fs r fs') :
    (∃ e, r = .error e ∧ fs' = fs) ∨
      r = .ok () ∧ faults.openTruncate = none ∧
        ∃ metadata,
          SavedMetadata host (fs.find expanded) metadata ∧
            fs'.find expanded =
              some (.file metadata []) := by
  rcases runs_adaptExcept.mp hRun with ⟨r₀, hOpen, rfl⟩
  rcases FileSystem.openTruncate_cases hOpen with
    ⟨e, rfl, rfl⟩ | ⟨rfl, hFault, hPath, metadata, rfl, hSource⟩
  · exact Or.inl ⟨_, rfl, rfl⟩
  · exact Or.inr ⟨rfl, hFault, metadata, hSource,
      FileSystem.find_insertNode_self fs hPath _⟩

/- The text is written to the empty file, or a part of it. -/
theorem writeWallet_cases
    {expanded : PathBuf}
    {metadata : Metadata}
    {json : String}
    {r : Except String Unit}
    (hEmpty :
      fs.find expanded = some (.file metadata []))
    (hRun :
      Runs (writeWallet faults expanded json) fs r fs') :
    r = .ok () ∧
        fs'.find expanded =
          some (.file metadata
            (Delimited.utf8Bytes json)) ∨
      ∃ e written err,
        r = .error e ∧
          faults.writeAll = some (written, err) ∧
            fs'.find expanded =
              some (.file metadata
                ((Delimited.utf8Bytes json).take
                  written)) := by
  rcases runs_adaptExcept.mp hRun with ⟨r₀, hWrite, rfl⟩
  cases r₀ with
  | ok _ =>
      left
      rw [FileSystem.writeAll_ok hWrite]
      exact ⟨rfl, FileSystem.find_writeFrom_empty hEmpty _⟩
  | error err =>
      rcases FileSystem.writeAll_error hWrite with
        ⟨written, hFault, rfl⟩
      exact Or.inr ⟨_, written, err, rfl, hFault,
        FileSystem.find_writeFrom_empty hEmpty _⟩

end Solvela
