import Solvela.Foundations.Transitions
import Solvela.Wallet.Saving

/-
  Processes that save to one path without force.

  A save checks that nothing is there, makes the directory,
  opens the file and writes it, and the steps of several
  saves interleave.  A file that is made between the check
  and the open of another save is emptied by that open.  As
  long as this does not happen, one save at most succeeds and
  its key stays in the file.

  Main declarations:
    * `SaveCall`, `SaveStage`, `SaveCall.advance`
    * `SaveRace`, `SaveRace.step`, `SaveRace.overwrites`
    * `saveWallet_eq_stages`
    * `RaceInv`, `raceInv_stepFresh`
    * `racing_saves_exclusive`
-/

------------------------------------------------------------
-- Stages Of A Save
------------------------------------------------------------

namespace Solvela

open Effects Files

variable {X : Crates}

/- A save without force, by some process. -/
structure SaveCall where
  host : Host
  faults : Faults
  path : String
  keypairBytes : List UInt8

/- What a save does next, or the path that it returned. -/
inductive SaveStage where
  | checking
  | creating
  | opening
  | writing (json : String)
  | saved (path : PathBuf)
  deriving DecidableEq

/- Whether the call has returned the path. -/
def SaveStage.isSaved : SaveStage → Bool
| .saved _ => true
| _ => false

namespace SaveCall

/- The path that the call saves to. -/
def target
    (call : SaveCall) : PathBuf :=
  expandHome call.host call.path

/- The text of the key is made just before the open. -/
def advance
    (W : WalletCrates X)
    (call : SaveCall) : SaveStage → FileProg SaveStage
| .checking => do
    checkAbsent call.target false
    pure .creating
| .creating => do
    createParent call.faults call.target
    pure .opening
| .opening => do
    let json ← ofOutcome
      ((W.bytesToString call.keypairBytes).mapError
        (fun e => s!"failed to serialize keypair: {e}"))
    openWallet call.host call.faults call.target
    pure (.writing json)
| .writing json => do
    writeWallet call.faults call.target json
    pure (.saved call.target)
| .saved path => pure (.saved path)

end SaveCall

/- A save that is left alone passes its four stages. -/
theorem saveWallet_eq_stages
    (W : WalletCrates X)
    (call : SaveCall) :
    (do
      let path ← saveWallet W call.host call.faults call.path
        call.keypairBytes false
      pure (SaveStage.saved path)) =
      (do
        let stage ← call.advance W .checking
        let stage ← call.advance W stage
        let stage ← call.advance W stage
        call.advance W stage) := by
  unfold saveWallet SaveCall.advance
  simp only [bind_assoc, pure_bind]
  rfl

end Solvela

------------------------------------------------------------
-- Races
------------------------------------------------------------

namespace Solvela

open Effects Files

variable {X : Crates}
variable {ι : Type}

/- Saves whose paths all lead to one file. -/
structure SaveRace (ι : Type) where
  calls : ι → SaveCall
  target : PathBuf
  same : ∀ i, (calls i).target = target

/- The files, and what each save does next or its error. -/
structure RaceState (ι : Type) where
  files : FileSystem
  stages : ι → Except String SaveStage

/- Whether the open of a save would empty what is there. -/
def SaveCall.mayOverwrite
    (W : WalletCrates X)
    (call : SaveCall) : Option Node → Bool
| some (.file metadata _) =>
    (W.bytesToString call.keypairBytes).toOption.isSome &&
      call.faults.openTruncate.isNone &&
        call.host.process.may .write metadata
| _ => false

namespace SaveRace

/- No call has done anything yet. -/
def start
    (fs : FileSystem) : RaceState ι where
  files := fs
  stages := fun _ => .ok .checking

/- A save that has returned takes no more steps. -/
def step
    [DecidableEq ι]
    (W : WalletCrates X)
    (race : SaveRace ι)
    (s : RaceState ι)
    (i : ι) : Option (RaceState ι) :=
  match s.stages i with
  | .error _ => none
  | .ok stage =>
      let next := (race.calls i).advance W stage
      if stage.isSaved then
        none
      else
        some
          { files := final next s.files
            stages := Function.update s.stages i
              (outcome next s.files) }

/- The save is about to open and empty a file. -/
def overwrites
    (W : WalletCrates X)
    (race : SaveRace ι)
    (s : RaceState ι)
    (i : ι) : Bool :=
  match s.stages i with
  | .ok .opening =>
      (race.calls i).mayOverwrite W
        (s.files.find race.target)
  | _ => false

/- A step that empties no file. -/
def stepFresh
    [DecidableEq ι]
    (W : WalletCrates X)
    (race : SaveRace ι)
    (s : RaceState ι)
    (i : ι) : Option (RaceState ι) :=
  if race.overwrites W s i then
    none
  else
    race.step W s i

/-
  One save at most has succeeded, its key is in the file, and
  what was there before is there.
-/
structure SavedOnce
    (W : WalletCrates X)
    (race : SaveRace ι)
    (before : Option Node)
    (s : RaceState ι) : Prop where
  unique :
    ∀ i j path path',
      s.stages i = .ok (.saved path) →
        s.stages j = .ok (.saved path') → i = j
  kept :
    ∀ i path, s.stages i = .ok (.saved path) →
      path = race.target ∧
        ∃ json metadata,
          W.bytesToString (race.calls i).keypairBytes =
              .ok json ∧
            s.files.find race.target =
              some (.file metadata
                (Delimited.utf8Bytes json))
  untouched :
    ∀ node, before = some node →
      s.files.find race.target = some node

/- A step is that of one save, which had not returned. -/
theorem step_cases
    [DecidableEq ι]
    {W : WalletCrates X}
    {race : SaveRace ι}
    {s t : RaceState ι}
    {i : ι}
    (hStep : race.step W s i = some t) :
    ∃ stage r,
      s.stages i = .ok stage ∧
        stage.isSaved = false ∧
          Runs ((race.calls i).advance W stage) s.files r
              t.files ∧
            t.stages = Function.update s.stages i r := by
  unfold step at hStep
  cases hStage : s.stages i with
  | error e =>
      rw [hStage] at hStep
      cases hStep
  | ok stage =>
      rw [hStage] at hStep
      simp only at hStep
      by_cases hSaved : stage.isSaved = true
      · rw [if_pos hSaved] at hStep
        cases hStep
      · rw [if_neg hSaved] at hStep
        cases hStep
        exact ⟨stage, _, rfl, Bool.eq_false_iff.mpr hSaved,
          runs_outcome _ _, rfl⟩

/- The next stage of a save is a step. -/
theorem step_of_runs
    [DecidableEq ι]
    {W : WalletCrates X}
    {race : SaveRace ι}
    {s : RaceState ι}
    {i : ι}
    {stage : SaveStage}
    {r : Except String SaveStage}
    {fs : FileSystem}
    (hStage : s.stages i = .ok stage)
    (hNot : stage.isSaved = false)
    (hRun :
      Runs ((race.calls i).advance W stage) s.files r fs) :
    race.step W s i =
      some
        { files := fs
          stages := Function.update s.stages i r } := by
  rcases (runs_outcome _ _).unique hRun with
    ⟨hOutcome, hFinal⟩
  unfold step
  rw [hStage]
  simp only
  rw [hNot, hOutcome, hFinal]
  rfl

/- A fresh step is a step that overwrites nothing. -/
theorem stepFresh_eq_some_iff
    [DecidableEq ι]
    {W : WalletCrates X}
    {race : SaveRace ι}
    {s t : RaceState ι}
    {i : ι} :
    race.stepFresh W s i = some t ↔
      race.overwrites W s i = false ∧
        race.step W s i = some t := by
  unfold stepFresh
  cases race.overwrites W s i with
  | true => simp
  | false => simp

end SaveRace

end Solvela

------------------------------------------------------------
-- What A Stage Does
------------------------------------------------------------

namespace Solvela

open Effects Files

variable {X : Crates}
variable {W : WalletCrates X}
variable {call : SaveCall}
variable {fs fs' : FileSystem}

/-
  A save that has not opened the file.  It is past its check
  only if nothing was there before the race.
-/
inductive Waiting
    (before : Option Node) :
    Except String SaveStage → Prop where
  | checking : Waiting before (.ok .checking)
  | creating
      (hAbsent : before = none) :
      Waiting before (.ok .creating)
  | opening
      (hAbsent : before = none) :
      Waiting before (.ok .opening)
  | failed (e : String) : Waiting before (.error e)

/- What the save that opened the file has made of it. -/
inductive Holds
    (W : WalletCrates X)
    (call : SaveCall)
    (content : List UInt8) :
    Except String SaveStage → Prop where
  | writing {json}
      (hText : W.bytesToString call.keypairBytes = .ok json)
      (hEmpty : content = []) :
      Holds W call content (.ok (.writing json))
  | saved {json}
      (hText : W.bytesToString call.keypairBytes = .ok json)
      (hContent : content = Delimited.utf8Bytes json) :
      Holds W call content (.ok (.saved call.target))
  | failed (e : String) : Holds W call content (.error e)

/- The save opens a file that is new or is emptied here. -/
structure Opens
    (W : WalletCrates X)
    (call : SaveCall)
    (fs fs' : FileSystem)
    (json : String)
    (metadata : Metadata) : Prop where
  text : W.bytesToString call.keypairBytes = .ok json
  source :
    fs.find call.target = none ∨
      call.mayOverwrite W (fs.find call.target) = true
  empty :
    fs'.find call.target = some (.file metadata [])

theorem advance_opening
    {r : Except String SaveStage}
    (hRun : Runs (call.advance W .opening) fs r fs') :
    (∃ e, r = .error e ∧ fs' = fs) ∨
      ∃ json metadata,
        r = .ok (.writing json) ∧
          Opens W call fs fs' json metadata := by
  unfold SaveCall.advance at hRun
  rcases runs_ofOutcome_bind.mp hRun with
    ⟨json, hJson, hRest⟩ | ⟨e, _, hError, hSame⟩
  · have hText := mapError_eq_ok_iff.mp hJson
    rcases runs_bind_pure.mp hRest with ⟨r₀, hOpen, rfl⟩
    rcases openWallet_cases hOpen with
      ⟨e, rfl, rfl⟩ | ⟨rfl, hFault, metadata, hSource, hEmpty⟩
    · exact Or.inl ⟨e, rfl, rfl⟩
    · right
      refine ⟨json, metadata, rfl, hText, ?_, hEmpty⟩
      rcases hSource with ⟨hNone, _⟩ | ⟨content, hOld, hMay⟩
      · exact Or.inl hNone
      · right
        unfold SaveCall.mayOverwrite
        rw [hOld, hText, hFault]
        simp only [hMay]
        rfl
  · exact Or.inl ⟨e, hError, hSame⟩

/- The open of a save empties a file that it may write. -/
theorem advance_overwrites
    {metadata : Metadata}
    {content : List UInt8}
    {json : String}
    (hFile :
      fs.find call.target = some (.file metadata content))
    (hText : W.bytesToString call.keypairBytes = .ok json)
    (hFault : call.faults.openTruncate = none)
    (hMay : call.host.process.may .write metadata = true) :
    Runs (call.advance W .opening) fs (.ok (.writing json))
      (fs.insertNode call.target (.file metadata [])) := by
  have hOpen :
      Runs (openWallet call.host call.faults call.target) fs
        (.ok ())
        (fs.insertNode call.target (.file metadata [])) :=
    runs_adaptExcept_ok.mpr
      (FileSystem.openTruncate_existing hFault hFile hMay)
  unfold SaveCall.advance
  rw [runs_ofOutcome_bind]
  exact Or.inl ⟨json, mapError_eq_ok_iff.mpr hText,
    runs_bind_pure.mpr ⟨_, hOpen, rfl⟩⟩

/-
  A waiting save waits on and leaves the file, or opens it.
  It passes its check only if nothing is there.
-/
theorem advance_waiting
    {before : Option Node}
    {stage : SaveStage}
    {r : Except String SaveStage}
    (hWaiting : Waiting before (.ok stage))
    (hBefore : fs.find call.target = none → before = none)
    (hRun : Runs (call.advance W stage) fs r fs') :
    Waiting before r ∧
        fs'.find call.target = fs.find call.target ∨
      stage = .opening ∧ before = none ∧
        ∃ json metadata,
          r = .ok (.writing json) ∧
            Opens W call fs fs' json metadata := by
  cases hWaiting with
  | checking =>
      left
      rcases runs_bind_pure.mp hRun with ⟨r₀, hCheck, rfl⟩
      have hSame := runs_checkAbsent hCheck
      cases r₀ with
      | error e => exact ⟨.failed e, by rw [hSame]⟩
      | ok _ =>
          rcases (checkAbsent_ok hCheck).2 with
            hNo | hNone
          · cases hNo
          · exact ⟨.creating (hBefore hNone), by rw [hSame]⟩
  | creating hAbsent =>
      left
      rcases runs_bind_pure.mp hRun with ⟨r₀, hParent, rfl⟩
      have hKept := find_of_createParent hParent
      cases r₀ with
      | error e => exact ⟨.failed e, hKept⟩
      | ok _ => exact ⟨.opening hAbsent, hKept⟩
  | opening hAbsent =>
      rcases advance_opening hRun with
        ⟨e, rfl, rfl⟩ | hOpened
      · exact Or.inl ⟨.failed e, rfl⟩
      · exact Or.inr ⟨rfl, hAbsent, hOpened⟩

/- The save that opened the file writes its own key. -/
theorem advance_holds
    {metadata : Metadata}
    {content : List UInt8}
    {stage : SaveStage}
    {r : Except String SaveStage}
    (hHolds : Holds W call content (.ok stage))
    (hNot : stage.isSaved = false)
    (hFile :
      fs.find call.target = some (.file metadata content))
    (hRun : Runs (call.advance W stage) fs r fs') :
    ∃ content',
      fs'.find call.target =
          some (.file metadata content') ∧
        Holds W call content' r := by
  cases hHolds with
  | saved hText hContent => cases hNot
  | @writing json hText hEmpty =>
      rw [hEmpty] at hFile
      rcases runs_bind_pure.mp hRun with ⟨r₀, hWrite, rfl⟩
      rcases writeWallet_cases hFile hWrite with
        ⟨rfl, hFile'⟩ | ⟨e, _, _, rfl, _, hFile'⟩
      · exact ⟨_, hFile', .saved hText rfl⟩
      · exact ⟨_, hFile', .failed e⟩

end Solvela

------------------------------------------------------------
-- The Invariant Of Fresh Steps
------------------------------------------------------------

namespace Solvela

open Effects Files

variable {X : Crates}
variable {W : WalletCrates X}
variable {ι : Type}
variable {race : SaveRace ι}
variable {before : Option Node}
variable {s t : RaceState ι}

/-
  Either no save has opened the file, and it is as it was, or
  nothing was there and one save alone has opened it.
-/
inductive RaceInv
    (W : WalletCrates X)
    (race : SaveRace ι)
    (before : Option Node)
    (s : RaceState ι) : Prop where
  | untouched
      (hFile : s.files.find race.target = before)
      (hWaiting : ∀ i, Waiting before (s.stages i)) :
      RaceInv W race before s
  | held
      (i : ι)
      (metadata : Metadata)
      (content : List UInt8)
      (hAbsent : before = none)
      (hFile :
        s.files.find race.target =
          some (.file metadata content))
      (hHolds :
        Holds W (race.calls i) content (s.stages i))
      (hWaiting :
        ∀ j, j ≠ i → Waiting before (s.stages j)) :
      RaceInv W race before s

theorem raceInv_start
    (W : WalletCrates X)
    (race : SaveRace ι)
    (fs : FileSystem) :
    RaceInv W race (fs.find race.target)
      (SaveRace.start fs) :=
  .untouched rfl (fun _ => .checking)

/- One save at most is past its open without an error. -/
theorem RaceInv.savedOnce
    (hInv : RaceInv W race before s) :
    race.SavedOnce W before s := by
  cases hInv with
  | untouched hFile hWaiting =>
      have hNever :
          ∀ i path, s.stages i ≠ .ok (.saved path) := by
        intro i path hSaved
        have hWait := hWaiting i
        rw [hSaved] at hWait
        cases hWait
      refine ⟨?_, ?_, ?_⟩
      · intro i j path path' hSaved
        exact absurd hSaved (hNever i path)
      · intro i path hSaved
        exact absurd hSaved (hNever i path)
      · intro node hBefore
        rw [hFile, hBefore]
  | held holder metadata content hAbsent hFile hHolds
      hWaiting =>
      have hOnly :
          ∀ i path, s.stages i = .ok (.saved path) →
            i = holder := by
        intro i path hSaved
        by_contra hOther
        have hWait := hWaiting i hOther
        rw [hSaved] at hWait
        cases hWait
      refine ⟨?_, ?_, ?_⟩
      · intro i j path path' hSaved hSaved'
        rw [hOnly i path hSaved, hOnly j path' hSaved']
      · intro i path hSaved
        rw [← hOnly i path hSaved, hSaved] at hHolds
        cases hHolds with
        | @saved json hText hContent =>
            rw [hContent] at hFile
            exact ⟨race.same i, json, metadata, hText, hFile⟩
      · intro node hBefore
        rw [hAbsent] at hBefore
        cases hBefore

/- What is absent now was absent before. -/
theorem RaceInv.absent_before
    (hInv : RaceInv W race before s)
    (hNone : s.files.find race.target = none) :
    before = none := by
  cases hInv with
  | untouched hFile _ => rw [← hFile, hNone]
  | held _ _ _ hAbsent _ _ _ => exact hAbsent

/- Without an overwrite, nothing is there to be opened. -/
theorem absent_of_fresh
    {i : ι}
    {json : String}
    {metadata : Metadata}
    (hFresh : race.overwrites W s i = false)
    (hStage : s.stages i = .ok .opening)
    (hOpens :
      Opens W (race.calls i) s.files t.files json metadata) :
    s.files.find race.target = none := by
  have hSource := hOpens.source
  rw [race.same i] at hSource
  rcases hSource with hNone | hOverwrites
  · exact hNone
  · unfold SaveRace.overwrites at hFresh
    rw [hStage] at hFresh
    simp only at hFresh
    rw [hOverwrites] at hFresh
    cases hFresh

end Solvela

------------------------------------------------------------
-- Fresh Steps Keep The Invariant
------------------------------------------------------------

namespace Solvela

open Effects Files

variable {X : Crates}
variable {W : WalletCrates X}
variable {ι : Type}
variable [DecidableEq ι]
variable {race : SaveRace ι}
variable {before : Option Node}
variable {s t : RaceState ι}
variable {i : ι}
variable {stage : SaveStage}
variable {r : Except String SaveStage}

/- A save that waits on leaves the others and the file. -/
theorem RaceInv.of_waits
    (hInv : RaceInv W race before s)
    (hStage : s.stages i = .ok stage)
    (hWait : Waiting before (.ok stage))
    (hWait' : Waiting before r)
    (hKept :
      t.files.find race.target = s.files.find race.target)
    (hStages : t.stages = Function.update s.stages i r) :
    RaceInv W race before t := by
  cases hInv with
  | untouched hFile hWaiting =>
      refine .untouched (hKept.trans hFile) ?_
      rw [hStages]
      apply (Function.forall_update_iff s.stages
        (fun _ => Waiting before)).mpr
      exact ⟨hWait', fun j _ => hWaiting j⟩
  | held holder metadata content hAbsent hFile hHolds
      hWaiting =>
      have hHolder : holder ≠ i := by
        intro hSelf
        rw [hSelf, hStage] at hHolds
        cases hHolds with
        | writing hText hEmpty => cases hWait
        | saved hText hContent => cases hWait
      refine .held holder metadata content hAbsent
        (hKept.trans hFile) ?_ ?_
      · rw [hStages, Function.update_of_ne hHolder]
        exact hHolds
      · rw [hStages]
        apply (Function.forall_update_iff s.stages
          (fun j stage => j ≠ holder →
            Waiting before stage)).mpr
        exact ⟨fun _ => hWait', fun j _ => hWaiting j⟩

/- A step of a save that has not opened the file. -/
theorem RaceInv.waiting_step
    (hInv : RaceInv W race before s)
    (hFresh : race.overwrites W s i = false)
    (hStage : s.stages i = .ok stage)
    (hWait : Waiting before (.ok stage))
    (hRun :
      Runs ((race.calls i).advance W stage) s.files r t.files)
    (hStages : t.stages = Function.update s.stages i r) :
    RaceInv W race before t := by
  have hSame := race.same i
  have hBefore :
      s.files.find (race.calls i).target = none →
        before = none := by
    rw [hSame]
    exact hInv.absent_before
  rcases advance_waiting hWait hBefore hRun with
    ⟨hWait', hKept⟩ |
    ⟨rfl, hAbsent, json, metadata, rfl, hOpens⟩
  · rw [hSame] at hKept
    exact hInv.of_waits hStage hWait hWait' hKept hStages
  · have hNone := absent_of_fresh hFresh hStage hOpens
    cases hInv with
    | untouched hFile hWaiting =>
        refine .held i metadata [] hAbsent ?_ ?_ ?_
        · rw [← hSame]
          exact hOpens.empty
        · rw [hStages, Function.update_self]
          exact .writing hOpens.text rfl
        · intro j hOther
          rw [hStages, Function.update_of_ne hOther]
          exact hWaiting j
    | held _ _ _ _ hFile _ _ =>
        -- nothing is there, but the holder has a file
        rw [hNone] at hFile
        cases hFile

theorem raceInv_stepFresh
    (hInv : RaceInv W race before s)
    (hStep : race.stepFresh W s i = some t) :
    RaceInv W race before t := by
  rcases SaveRace.stepFresh_eq_some_iff.mp hStep with
    ⟨hFresh, hStep⟩
  rcases SaveRace.step_cases hStep with
    ⟨stage, r, hStage, hNot, hRun, hStages⟩
  cases hInv with
  | untouched hFile hWaiting =>
      have hWait := hWaiting i
      rw [hStage] at hWait
      exact (RaceInv.untouched hFile hWaiting).waiting_step
        hFresh hStage hWait hRun hStages
  | held holder metadata content hAbsent hFile hHolds
      hWaiting =>
      by_cases hHolder : i = holder
      · rw [← hHolder] at hHolds hWaiting
        rw [hStage] at hHolds
        rw [← race.same i] at hFile
        rcases advance_holds hHolds hNot hFile hRun with
          ⟨content', hFile', hHolds'⟩
        refine .held i metadata content' hAbsent ?_ ?_ ?_
        · rw [← race.same i]
          exact hFile'
        · rw [hStages, Function.update_self]
          exact hHolds'
        · intro j hOther
          rw [hStages, Function.update_of_ne hOther]
          exact hWaiting j hOther
      · have hWait := hWaiting i hHolder
        rw [hStage] at hWait
        exact (RaceInv.held holder metadata content hAbsent
          hFile hHolds hWaiting).waiting_step hFresh hStage
            hWait hRun hStages

/- A save that has returned stays as it is. -/
theorem saved_stays
    {j : ι}
    {path : PathBuf}
    (hStep : race.stepFresh W s i = some t)
    (hSaved : s.stages j = .ok (.saved path)) :
    t.stages j = .ok (.saved path) := by
  rcases SaveRace.stepFresh_eq_some_iff.mp hStep with
    ⟨_, hStep⟩
  rcases SaveRace.step_cases hStep with
    ⟨stage, r, hStage, hNot, _, hStages⟩
  rw [hStages]
  by_cases hSelf : j = i
  · rw [← hSelf, hSaved] at hStage
    cases hStage
    cases hNot
  · rw [Function.update_of_ne hSelf]
    exact hSaved

end Solvela

------------------------------------------------------------
-- Races Without Overwrites
------------------------------------------------------------

namespace Solvela

open Effects Files Transitions

variable {X : Crates}
variable {ι : Type}
variable [DecidableEq ι]

/- What an overwriting step leaves of the file. -/
theorem emptied_of_overwrites
    {W : WalletCrates X}
    {race : SaveRace ι}
    {s : RaceState ι}
    {i : ι}
    (hOverwrites : race.overwrites W s i = true) :
    ∃ metadata content t,
      s.files.find race.target =
          some (.file metadata content) ∧
        race.step W s i = some t ∧
          t.files.find race.target =
            some (.file metadata []) := by
  unfold SaveRace.overwrites at hOverwrites
  split at hOverwrites
  · next hStage =>
    unfold SaveCall.mayOverwrite at hOverwrites
    split at hOverwrites
    · next metadata content hFile =>
      rw [Bool.and_eq_true, Bool.and_eq_true]
        at hOverwrites
      rcases hOverwrites with ⟨⟨hOk, hFault⟩, hMay⟩
      rcases Option.isSome_iff_exists.mp hOk with
        ⟨json, hSome⟩
      have hText := toOption_eq_some_iff.mp hSome
      have hOld :
          s.files.find (race.calls i).target =
            some (.file metadata content) := by
        rw [race.same i]
        exact hFile
      have hRun := advance_overwrites hOld hText
        (Option.isNone_iff_eq_none.mp hFault) hMay
      refine ⟨metadata, content, _, hFile,
        SaveRace.step_of_runs hStage rfl hRun, ?_⟩
      rw [← race.same i]
      exact FileSystem.find_insertNode_self _
        (FileSystem.namesFile_of_file hOld) _
    · cases hOverwrites
  · cases hOverwrites

/-
  While no save empties a file, one at most succeeds, its key
  stays in the file and what was there before is there.  An
  overwriting step empties a file that is there.
-/
theorem racing_saves_exclusive
    (W : WalletCrates X)
    (race : SaveRace ι)
    (fs : FileSystem) :
    (∀ past rest s t,
      LabelledRun (Executes (race.stepFresh W))
          (SaveRace.start fs) past s →
        LabelledRun (Executes (race.stepFresh W)) s rest t →
          race.SavedOnce W (fs.find race.target) t ∧
            ∀ i path, s.stages i = .ok (.saved path) →
              t.stages i = .ok (.saved path)) ∧
      ∀ s i, race.overwrites W s i = true →
        ∃ metadata content t,
          s.files.find race.target =
              some (.file metadata content) ∧
            race.step W s i = some t ∧
              t.files.find race.target =
                some (.file metadata []) := by
  constructor
  · intro past rest s t hPast hRest
    constructor
    · apply RaceInv.savedOnce
      apply (labelledRun_append.mpr
        ⟨s, hPast, hRest⟩).invariant
        (fun _ u => RaceInv W race (fs.find race.target) u)
        (raceInv_start W race fs)
      intro _ u i v _ hInv hStep
      exact raceInv_stepFresh hInv hStep
    · intro i path hSaved
      apply hRest.invariant
        (fun _ u => u.stages i = .ok (.saved path)) hSaved
      intro _ u j v _ hStays hStep
      exact saved_stays hStep hStays
  · intro s i hOverwrites
    exact emptied_of_overwrites hOverwrites

end Solvela

------------------------------------------------------------
-- Two Saves
------------------------------------------------------------

namespace Solvela

open Effects Files Transitions

/- A key pair that is not the first one. -/
def sevenKeypair : List UInt8 :=
  List.replicate 64 7

/- Its text, as the sample crates make it. -/
def sevenJson : String :=
  Sample.encodeWith Sample.zeroKeypair Sample.zeroJson
    sevenKeypair

/- Two processes of a user who save different keys. -/
def twoSaves : SaveRace Bool where
  calls := fun first =>
    { host := sampleHost
      faults := noFaults
      path := WalletArgs.default.walletFile
      keypairBytes :=
        if first then
          zeroWallet.toKeypairBytes.toList
        else
          sevenKeypair }
  target :=
    expandHome sampleHost WalletArgs.default.walletFile
  same := fun _ => rfl

/- These saves have succeeded, and the text is in the file. -/
def HaveSaved
    (saved : List Bool)
    (json : String)
    (s : RaceState Bool) : Prop :=
  (∀ i ∈ saved,
    (s.stages i).toOption = some (.saved twoSaves.target)) ∧
    s.files.find twoSaves.target =
      some (.file
        { owner := 1000, group := 1000, mode := 0o600#9 }
        (Delimited.utf8Bytes json))

instance
    (saved : List Bool)
    (json : String)
    (s : RaceState Bool) :
    Decidable (HaveSaved saved json s) := by
  unfold HaveSaved
  infer_instance

/- The second save starts when the first has returned. -/
theorem saves_in_turn :
    ∃ s : RaceState Bool,
      HaveSaved [true] Sample.zeroJson s ∧
        twoSaves.SavedOnce sampleWalletCrates none s := by
  have hNone : homeFiles.find twoSaves.target = none := by
    decide +kernel
  have hTest :
      ([true, true, true, true, false].foldlM
          (twoSaves.stepFresh sampleWalletCrates)
          (SaveRace.start homeFiles)).any
            (fun s =>
              decide (HaveSaved [true] Sample.zeroJson s)) =
        true := by
    decide +kernel
  rcases exists_labelledRun hTest with ⟨s, hRun, hSaved⟩
  refine ⟨s, of_decide_eq_true hSaved, ?_⟩
  rw [← hNone]
  exact ((racing_saves_exclusive sampleWalletCrates twoSaves
    homeFiles).1 _ [] _ _ hRun rfl).1

/-
  Both saves find nothing and the first succeeds.  Then the
  second empties the file, succeeds and leaves another key.
-/
theorem racing_saves_overwrite :
    sevenJson ≠ Sample.zeroJson ∧
      ∃ s t : RaceState Bool,
        LabelledRun
            (Executes (twoSaves.step sampleWalletCrates))
            (SaveRace.start homeFiles)
            [true, false, true, true, true] s ∧
          HaveSaved [true] Sample.zeroJson s ∧
        LabelledRun
            (Executes (twoSaves.step sampleWalletCrates))
            s [false, false, false] t ∧
          HaveSaved [true, false] sevenJson t := by
  have hTest :
      ([true, false, true, true, true].foldlM
          (twoSaves.step sampleWalletCrates)
          (SaveRace.start homeFiles)).any
            (fun s =>
              decide (HaveSaved [true] Sample.zeroJson s) &&
                ([false, false, false].foldlM
                  (twoSaves.step sampleWalletCrates) s).any
                    (fun t =>
                      decide
                        (HaveSaved [true, false] sevenJson
                          t))) =
        true := by
    decide +kernel
  rcases exists_labelledRun hTest with ⟨s, hFirst, hSeen⟩
  rw [Bool.and_eq_true] at hSeen
  rcases hSeen with ⟨hSaved, hTest'⟩
  rcases exists_labelledRun hTest' with ⟨t, hSecond, hBoth⟩
  exact ⟨by decide +kernel, s, t, hFirst,
    of_decide_eq_true hSaved, hSecond,
    of_decide_eq_true hBoth⟩

end Solvela
