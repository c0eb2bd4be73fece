import Mathlib.Logic.Function.Basic
import Solvela.Foundations.Delimited
import Solvela.Foundations.Effects

/-
  Files of a POSIX system, as a process sees them.

  A file has an owner, a group, permission bits and a content.
  The operations are those of the standard library of Rust.
  Each of them can fail for the reasons that the state of the
  files gives, and for others, such as a full disk, that are
  left to a list of faults.

  Main declarations:
    * `PathBuf`, `PathBuf.ofString`, `PathBuf.parent`
    * `PathBuf.NamesFile`
    * `Metadata`, `Node`, `FileSystem`
    * `Process`, `Process.may`
    * `createDirAll`, `openTruncate`, `writeAll`
    * `openTruncate_cases`, `writeAll_ok`, `writeAll_error`
    * `Process.may_of_ownerOnly`, `Process.may_of_owner`
    * `FileSystem.readToString`
-/

------------------------------------------------------------
-- Paths
------------------------------------------------------------

namespace Files

/-
  A path is held by the names that it passes.  One that ends
  in a slash or a dot can only be the path of a directory.
-/
structure PathBuf where
  absolute : Bool
  components : List String
  ofDirectory : Bool
  deriving DecidableEq

namespace PathBuf

/- Drop what a path does not need: empty names and dots. -/
def normal : List String → List String
| "." :: names =>
    "." :: names.filter (fun n => decide (n ≠ "" ∧ n ≠ "."))
| names =>
    names.filter (fun n => decide (n ≠ "" ∧ n ≠ "."))

/- The names between the slashes of a text. -/
def names
    (text : String) : List String :=
  (text.toList.splitOn '/').map String.ofList

/- A leading dot is kept. -/
def ofString
    (text : String) : PathBuf where
  absolute := decide (text.toList.head? = some '/')
  components := normal (names text)
  ofDirectory :=
    decide ((names text).getLast? ∈ [some "", some "."])

/- The text has no dots and slashes that are not needed. -/
def display
    (path : PathBuf) : String :=
  (if path.absolute then "/" else "") ++
    String.intercalate "/" path.components ++
      (if path.ofDirectory ∧ path.components ≠ [] then
        "/"
      else
        "")

/- An absolute path replaces the one that it is joined to. -/
def join
    (base path : PathBuf) : PathBuf :=
  if path.absolute then
    path
  else
    { path with
      absolute := base.absolute
      components := base.components ++ path.components }

/- The path without what its end asks for. -/
def entry
    (path : PathBuf) : PathBuf :=
  { path with ofDirectory := false }

/- Whether it can be the path of a file. -/
def NamesFile
    (path : PathBuf) : Prop :=
  path.components ≠ [] ∧ path.ofDirectory = false

/- The root and the empty path have no parent. -/
def parent
    (path : PathBuf) : Option PathBuf :=
  if path.components = [] then
    none
  else
    some
      { path.entry with
        components := path.components.dropLast }

/- The path is one of the directories on the way to `dir`. -/
def LeadsTo
    (path dir : PathBuf) : Prop :=
  path.absolute = dir.absolute ∧
    path.components <+: dir.components

instance
    (path dir : PathBuf) :
    Decidable (path.LeadsTo dir) := by
  unfold LeadsTo
  infer_instance

/- No path leads to its parent. -/
theorem not_leadsTo_parent
    {path dir : PathBuf}
    (hParent : path.parent = some dir) :
    ¬ path.LeadsTo dir := by
  intro hLeads
  unfold parent at hParent
  by_cases hNone : path.components = []
  · rw [if_pos hNone] at hParent
    cases hParent
  · rw [if_neg hNone] at hParent
    cases hParent
    have hLength := hLeads.2.length_le
    have hPositive := List.length_pos_iff.mpr hNone
    rw [List.length_dropLast] at hLength
    omega

end PathBuf

end Files

------------------------------------------------------------
-- Nodes And Processes
------------------------------------------------------------

namespace Files

/- The mode holds the nine permission bits. -/
structure Metadata where
  owner : Nat
  group : Nat
  mode : BitVec 9
  deriving DecidableEq

/- What a path can stand for. -/
inductive Node where
  | file (metadata : Metadata) (content : List UInt8)
  | directory
  deriving DecidableEq

/- The nodes under their paths. -/
structure FileSystem where
  nodes : PathBuf → Option Node

/- Whom a process acts for, and the bits it never grants. -/
structure Process where
  uid : Nat
  gid : Nat
  groups : List Nat
  umask : BitVec 9

/- The bits for the owner; the group and others follow. -/
inductive Access where
  | read
  | write

/- The place of the bit in a class. -/
def Access.bit : Access → Nat
| .read => 2
| .write => 1

/-
  The superuser may do anything.  Anyone else is judged by
  the first class that fits.
-/
def Process.may
    (process : Process)
    (access : Access)
    (metadata : Metadata) : Bool :=
  if process.uid = 0 then
    true
  else if metadata.owner = process.uid then
    metadata.mode.getLsbD (access.bit + 6)
  else if metadata.group = process.gid ∨
      metadata.group ∈ process.groups then
    metadata.mode.getLsbD (access.bit + 3)
  else
    metadata.mode.getLsbD access.bit

/- What a process gives to a file that it creates. -/
def Process.created
    (process : Process)
    (mode : BitVec 9) : Metadata where
  owner := process.uid
  group := process.gid
  mode := mode &&& ~~~process.umask

namespace FileSystem

/-
  The root is a directory, and the empty path is nothing.  A
  file is not found under the path of a directory.
-/
def find
    (fs : FileSystem)
    (path : PathBuf) : Option Node :=
  if path.components = [] then
    if path.absolute then
      some .directory
    else
      none
  else
    match fs.nodes path.entry with
    | some (.file metadata content) =>
        if path.ofDirectory then
          none
        else
          some (.file metadata content)
    | node => node

/- Whether anything is found under the path. -/
def pathExists
    (fs : FileSystem)
    (path : PathBuf) : Bool :=
  (fs.find path).isSome

/- Put a node under a path. -/
def insertNode
    (fs : FileSystem)
    (path : PathBuf)
    (node : Node) : FileSystem where
  nodes := Function.update fs.nodes path.entry (some node)

/- Make the first `depth` directories on the way to `dir`. -/
def withDirectories
    (fs : FileSystem)
    (dir : PathBuf)
    (depth : Nat) : FileSystem where
  nodes := fun path =>
    if fs.nodes path = none ∧ path.LeadsTo dir ∧
        path.components.length ≤ depth then
      some .directory
    else
      fs.nodes path

/- Some name on the way to `dir` is a file. -/
def blocked
    (fs : FileSystem)
    (dir : PathBuf) : Bool :=
  dir.components.inits.any (fun names =>
    match fs.find { dir.entry with components := names } with
    | some (.file _ _) => true
    | _ => false)

/- A file has a name. -/
theorem namesFile_of_file
    {fs : FileSystem}
    {path : PathBuf}
    {metadata : Metadata}
    {content : List UInt8}
    (hFound :
      fs.find path = some (.file metadata content)) :
    path.NamesFile := by
  unfold find at hFound
  by_cases hEmpty : path.components = []
  · rw [if_pos hEmpty] at hFound
    cases hAbsolute : path.absolute with
    | true => simp [hAbsolute] at hFound
    | false => simp [hAbsolute] at hFound
  · refine ⟨hEmpty, ?_⟩
    rw [if_neg hEmpty] at hFound
    cases hNode : fs.nodes path.entry with
    | none => simp [hNode] at hFound
    | some node =>
        cases node with
        | directory => simp [hNode] at hFound
        | file metadata' content' =>
            cases hEnd : path.ofDirectory with
            | false => rfl
            | true => simp [hNode, hEnd] at hFound

theorem find_insertNode_self
    (fs : FileSystem)
    {path : PathBuf}
    (hPath : path.NamesFile)
    (node : Node) :
    (fs.insertNode path node).find path = some node := by
  unfold find insertNode
  rw [if_neg hPath.1]
  cases node with
  | directory => simp
  | file metadata content => simp [hPath.2]

/- What leads nowhere on the way is not made. -/
theorem find_withDirectories
    (fs : FileSystem)
    {path dir : PathBuf}
    (hAside : ¬ path.LeadsTo dir)
    (depth : Nat) :
    (fs.withDirectories dir depth).find path =
      fs.find path := by
  have hAside' : ¬ path.entry.LeadsTo dir := hAside
  unfold find withDirectories
  simp [hAside']

/- What is there is kept. -/
theorem find_withDirectories_of_some
    {fs : FileSystem}
    {path : PathBuf}
    {node : Node}
    (hFound : fs.find path = some node)
    (dir : PathBuf)
    (depth : Nat) :
    (fs.withDirectories dir depth).find path = some node := by
  unfold find at hFound ⊢
  by_cases hEmpty : path.components = []
  · rw [if_pos hEmpty] at hFound ⊢
    exact hFound
  · rw [if_neg hEmpty] at hFound ⊢
    have hThere : fs.nodes path.entry ≠ none := by
      intro hNone
      rw [hNone] at hFound
      cases hFound
    unfold withDirectories
    simp only [hThere, false_and, if_false]
    exact hFound

end FileSystem

end Files

------------------------------------------------------------
-- Operations
------------------------------------------------------------

namespace Files

open Effects

/- A program over the files with errors as texts. -/
abbrev FileProg (α : Type) :=
  EStateM String FileSystem α

/-
  What goes wrong besides.  A failing creation of directories
  leaves the first ones, and a failing write a prefix.
-/
structure Faults where
  createDirAll : Option (Nat × String)
  openTruncate : Option String
  writeAll : Option (Nat × String)

/- Nothing goes wrong besides. -/
def noFaults : Faults where
  createDirAll := none
  openTruncate := none
  writeAll := none

namespace FileSystem

/- The file is the directory itself, or on the way to it. -/
def blockedError
    (fs : FileSystem)
    (dir : PathBuf) : String :=
  match fs.find dir.entry with
  | some (.file _ _) => "File exists (os error 17)"
  | _ => "Not a directory (os error 20)"

/- Create a directory and all that lead to it. -/
def createDirAll
    (faults : Faults)
    (dir : PathBuf) : FileProg Unit := do
  let fs ← get
  if dir.components = [] then
    pure ()
  else if fs.blocked dir then
    throw (fs.blockedError dir)
  else
    match faults.createDirAll with
    | some (depth, e) => do
        set (fs.withDirectories dir depth)
        throw e
    | none =>
        set (fs.withDirectories dir dir.components.length)

/-
  Open a file for writing and empty it.  The mode is that of
  a file that is created here.  Nothing is created under the
  path of a directory.
-/
def openTruncate
    (process : Process)
    (faults : Faults)
    (mode : BitVec 9)
    (path : PathBuf) : FileProg Unit := do
  let fs ← get
  match faults.openTruncate with
  | some e => throw e
  | none =>
      match fs.find path with
      | some .directory => throw "Is a directory (os error 21)"
      | some (.file metadata _) =>
          if process.may .write metadata then
            set (fs.insertNode path (.file metadata []))
          else
            throw "Permission denied (os error 13)"
      | none =>
          match path.parent with
          | none => throw "No such file or directory (os error 2)"
          | some dir =>
              if dir.components = [] ∨
                  fs.find dir = some .directory then
                if path.ofDirectory then
                  throw "Is a directory (os error 21)"
                else
                  set (fs.insertNode path
                    (.file (process.created mode) []))
              else
                throw "No such file or directory (os error 2)"

/-
  Write from the beginning of an opened file.  If the name is
  gone meanwhile, nothing is left of what is written.
-/
def writeFrom
    (path : PathBuf)
    (bytes : List UInt8)
    (fs : FileSystem) : FileSystem :=
  match fs.find path with
  | some (.file metadata content) =>
      fs.insertNode path
        (.file metadata
          (bytes ++ content.drop bytes.length))
  | _ => fs

/- Write all bytes to an opened file. -/
def writeAll
    (faults : Faults)
    (path : PathBuf)
    (bytes : List UInt8) : FileProg Unit :=
  match faults.writeAll with
  | some (written, e) => do
      modify (writeFrom path (bytes.take written))
      throw e
  | none => modify (writeFrom path bytes)

/- The text of a file, if the process may read it. -/
def readToString
    (fs : FileSystem)
    (process : Process)
    (path : PathBuf) : Except String String :=
  match fs.find path with
  | none =>
      if (fs.find path.entry).isSome then
        .error "Not a directory (os error 20)"
      else
        .error "No such file or directory (os error 2)"
  | some .directory => .error "Is a directory (os error 21)"
  | some (.file metadata content) =>
      if process.may .read metadata then
        match String.fromUTF8? ⟨content.toArray⟩ with
        | some text => .ok text
        | none => .error "stream did not contain valid UTF-8"
      else
        .error "Permission denied (os error 13)"

end FileSystem

end Files

------------------------------------------------------------
-- What The Operations Leave
------------------------------------------------------------

namespace Files

open Effects

namespace FileSystem

variable {process : Process}
variable {faults : Faults}
variable {path dir : PathBuf}
variable {fs fs' : FileSystem}

/-
  Creating directories touches only paths that lead to them,
  and nothing that is there, even if it fails.
-/
theorem createDirAll_spec
    {r : Except String Unit}
    (hRun : Runs (createDirAll faults dir) fs r fs') :
    (∀ path, ¬ path.LeadsTo dir →
      fs'.find path = fs.find path) ∧
      ∀ path node, fs.find path = some node →
        fs'.find path = some node := by
  have hKept :
      fs' = fs ∨ ∃ depth, fs' = fs.withDirectories dir depth := by
    unfold createDirAll at hRun
    rw [runs_get_bind] at hRun
    by_cases hEmpty : dir.components = []
    · rw [if_pos hEmpty] at hRun
      exact Or.inl (runs_pure.mp hRun).2
    · rw [if_neg hEmpty] at hRun
      by_cases hBlocked : fs.blocked dir = true
      · rw [if_pos hBlocked] at hRun
        exact Or.inl (runs_throw.mp hRun).2
      · rw [if_neg hBlocked] at hRun
        cases hFault : faults.createDirAll with
        | some fault =>
            rw [hFault] at hRun
            rw [runs_set_bind] at hRun
            exact Or.inr ⟨_, (runs_throw.mp hRun).2⟩
        | none =>
            rw [hFault] at hRun
            exact Or.inr ⟨_, hRun.2⟩
  rcases hKept with rfl | ⟨depth, rfl⟩
  · exact ⟨fun _ _ => rfl, fun _ _ hFound => hFound⟩
  · exact
      ⟨fun _ hAside => find_withDirectories fs hAside depth,
        fun _ _ hFound =>
          find_withDirectories_of_some hFound dir depth⟩

/-
  A file that cannot be opened is left alone.  An opened file
  is empty: it is a new one, or it was there and the process
  may write it.
-/
theorem openTruncate_cases
    {mode : BitVec 9}
    {r : Except String Unit}
    (hRun :
      Runs (openTruncate process faults mode path) fs r fs') :
    (∃ e, r = .error e ∧ fs' = fs) ∨
      r = .ok () ∧ faults.openTruncate = none ∧
        path.NamesFile ∧ ∃ metadata,
          fs' = fs.insertNode path (.file metadata []) ∧
            (fs.find path = none ∧
                metadata = process.created mode ∨
              ∃ content,
                fs.find path =
                    some (.file metadata content) ∧
                  process.may .write metadata = true) := by
  have hThrown :
      ∀ e, Runs (throw e : FileProg Unit) fs r fs' →
        ∃ e, r = .error e ∧ fs' = fs := by
    intro e hThrow
    exact ⟨e, runs_throw.mp hThrow⟩
  unfold openTruncate at hRun
  rw [runs_get_bind] at hRun
  cases hFault : faults.openTruncate with
  | some e =>
      rw [hFault] at hRun
      exact Or.inl (hThrown _ hRun)
  | none =>
      rw [hFault] at hRun
      cases hFound : fs.find path with
      | none =>
          simp only [hFound] at hRun
          cases hParent : path.parent with
          | none =>
              simp only [hParent] at hRun
              exact Or.inl (hThrown _ hRun)
          | some dir =>
              simp only [hParent] at hRun
              have hNames : path.components ≠ [] := by
                intro hEmpty
                unfold PathBuf.parent at hParent
                rw [if_pos hEmpty] at hParent
                cases hParent
              by_cases hDir :
                  dir.components = [] ∨
                    fs.find dir = some .directory
              · rw [if_pos hDir] at hRun
                cases hEnd : path.ofDirectory with
                | true =>
                    rw [if_pos hEnd] at hRun
                    exact Or.inl (hThrown _ hRun)
                | false =>
                    simp only [hEnd, Bool.false_eq_true,
                      if_false] at hRun
                    exact Or.inr ⟨hRun.1, rfl,
                      ⟨hNames, hEnd⟩, _, hRun.2,
                      Or.inl ⟨rfl, rfl⟩⟩
              · rw [if_neg hDir] at hRun
                exact Or.inl (hThrown _ hRun)
      | some node =>
          cases node with
          | directory =>
              simp only [hFound] at hRun
              exact Or.inl (hThrown _ hRun)
          | file metadata content =>
              simp only [hFound] at hRun
              have hNames := namesFile_of_file hFound
              by_cases hWrite :
                  process.may .write metadata = true
              · rw [if_pos hWrite] at hRun
                exact Or.inr ⟨hRun.1, rfl, hNames, metadata,
                  hRun.2, Or.inr ⟨content, rfl, hWrite⟩⟩
              · rw [if_neg hWrite] at hRun
                exact Or.inl (hThrown _ hRun)

/- A file that the process may write is opened and emptied. -/
theorem openTruncate_existing
    {mode : BitVec 9}
    {metadata : Metadata}
    {content : List UInt8}
    (hFault : faults.openTruncate = none)
    (hFound : fs.find path = some (.file metadata content))
    (hMay : process.may .write metadata = true) :
    Runs (openTruncate process faults mode path) fs (.ok ())
      (fs.insertNode path (.file metadata [])) := by
  unfold openTruncate
  rw [runs_get_bind, hFault]
  simp only [hFound, if_pos hMay]
  exact ⟨rfl, rfl⟩

/- A write that fails leaves the part that was written. -/
theorem writeAll_error
    {bytes : List UInt8}
    {e : String}
    (hRun :
      Runs (writeAll faults path bytes) fs (.error e) fs') :
    ∃ written,
      faults.writeAll = some (written, e) ∧
        fs' = writeFrom path (bytes.take written) fs := by
  unfold writeAll at hRun
  cases hFault : faults.writeAll with
  | some fault =>
      rw [hFault] at hRun
      simp only at hRun
      rw [runs_modify_bind] at hRun
      rcases runs_throw.mp hRun with ⟨hError, rfl⟩
      cases hError
      exact ⟨fault.1, rfl, rfl⟩
  | none =>
      rw [hFault] at hRun
      cases hRun.1

/- A write that succeeds writes everything. -/
theorem writeAll_ok
    {bytes : List UInt8}
    (hRun :
      Runs (writeAll faults path bytes) fs (.ok ()) fs') :
    fs' = writeFrom path bytes fs := by
  unfold writeAll at hRun
  cases hFault : faults.writeAll with
  | some fault =>
      rw [hFault] at hRun
      simp only at hRun
      rw [runs_modify_bind] at hRun
      cases (runs_throw.mp hRun).1
  | none =>
      rw [hFault] at hRun
      exact hRun.2

/- What is written replaces the beginning of the content. -/
theorem find_writeFrom
    {metadata : Metadata}
    {content : List UInt8}
    (hFound : fs.find path = some (.file metadata content))
    (bytes : List UInt8) :
    (writeFrom path bytes fs).find path =
      some (.file metadata
        (bytes ++ content.drop bytes.length)) := by
  unfold writeFrom
  rw [hFound]
  exact find_insertNode_self _
    (namesFile_of_file hFound) _

/- What is written to an empty file is its content. -/
theorem find_writeFrom_empty
    {metadata : Metadata}
    (hFound : fs.find path = some (.file metadata []))
    (bytes : List UInt8) :
    (writeFrom path bytes fs).find path =
      some (.file metadata bytes) := by
  rw [find_writeFrom hFound, List.drop_nil, List.append_nil]

end FileSystem

end Files
