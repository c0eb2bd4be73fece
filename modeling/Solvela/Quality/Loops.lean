import Solvela.Foundations.Words
import Solvela.Quality

/-
  Repetitive loops: what the counting loop over joined
  windows says about the words of a text.

  The keys of the loop are windows of three words joined by a
  space.  Words hold no space, so a key determines its window,
  and counting keys counts positions of triples.

  Main declarations:
    * `TripleAt`, `RepeatsTriple`
    * `join_wordWindows_injective`
    * `hasRepetitiveLoop_eq_true_iff`
-/

------------------------------------------------------------
-- Triples And Their Positions
------------------------------------------------------------

namespace Solvela

variable {α : Type}

/- The elements at three consecutive positions. -/
def TripleAt
    (words : List α)
    (a b c : α)
    (i : Nat) : Prop :=
  words[i]? = some a ∧ words[i + 1]? = some b ∧
    words[i + 2]? = some c

/- Some triple stands at five or more positions. -/
def RepeatsTriple
    (words : List α) : Prop :=
  ∃ a b c : α, ∃ positions : Finset Nat,
    5 ≤ positions.card ∧
      ∀ i ∈ positions, TripleAt words a b c i

/- A triple is a window of three elements. -/
theorem tripleAt_iff
    {words : List α}
    {a b c : α}
    {i : Nat} :
    TripleAt words a b c i ↔
      i < words.length + 1 - 3 ∧
        (words.drop i).take 3 = [a, b, c] := by
  constructor
  · rintro ⟨hFirst, hSecond, hThird⟩
    rcases List.getElem?_eq_some_iff.mp hFirst with
      ⟨hLt, rfl⟩
    rcases List.getElem?_eq_some_iff.mp hSecond with
      ⟨hLt', rfl⟩
    rcases List.getElem?_eq_some_iff.mp hThird with
      ⟨hLt'', rfl⟩
    refine ⟨by omega, ?_⟩
    rw [List.drop_eq_getElem_cons hLt,
      List.drop_eq_getElem_cons hLt',
      List.drop_eq_getElem_cons hLt'']
    rfl
  · rintro ⟨_, hWindow⟩
    have hAt :
        ∀ k, k < 3 → words[i + k]? = [a, b, c][k]? := by
      intro k hk
      rw [← hWindow, List.getElem?_take_of_lt hk,
        List.getElem?_drop]
    exact ⟨hAt 0 (by omega), hAt 1 (by omega),
      hAt 2 (by omega)⟩

/- Every window of three elements is a triple. -/
theorem exists_tripleAt
    {words : List α}
    {i : Nat}
    (hInside : i < words.length + 1 - 3) :
    ∃ a b c, TripleAt words a b c i := by
  have hLt : i + 2 < words.length := by omega
  exact ⟨words[i], words[i + 1], words[i + 2],
    List.getElem?_eq_getElem _, List.getElem?_eq_getElem _,
    List.getElem?_eq_getElem _⟩

end Solvela

------------------------------------------------------------
-- The Keys Of The Loop
------------------------------------------------------------

namespace Solvela

/- The words of a text, in order. -/
def contentWords
    (content : String) : List String :=
  (splitWhitespace content.toList).map String.ofList

/- The joined windows that the loop counts. -/
def loopKeys
    (content : String) : List String :=
  (wordWindows repetitionWindow (contentWords content)).map
    (fun window => " ".intercalate window)

/- A text of fewer than three words has no keys. -/
theorem hasRepetitiveLoop_eq_countLoop
    (content : String) :
    hasRepetitiveLoop content =
      Windows.countLoop repetitionThreshold
        (loopKeys content) (fun _ => 0) := by
  unfold hasRepetitiveLoop
  dsimp only
  split
  · next hShort =>
      have hNone : loopKeys content = [] := by
        have hLength :
            (contentWords content).length + 1 -
              repetitionWindow = 0 := by
          unfold contentWords
          omega
        unfold loopKeys wordWindows
        rw [hLength]
        rfl
      rw [hNone]
      rfl
  · rfl

/- No word of a text contains a space. -/
theorem space_not_mem_contentWords
    {content word : String}
    (hWord : word ∈ contentWords content) :
    ' ' ∉ word.toList := by
  rcases List.mem_map.mp hWord with ⟨run, hRun, rfl⟩
  rw [String.toList_ofList]
  exact Words.separator_not_mem_of_mem_words rfl hRun

/- The joined text determines the words of a window. -/
theorem join_injective
    {content : String}
    {window window' : List String}
    (hWords : ∀ w ∈ window, w ∈ contentWords content)
    (hWords' : ∀ w ∈ window', w ∈ contentWords content)
    (hNonempty : window ≠ [])
    (hNonempty' : window' ≠ [])
    (hJoin :
      " ".intercalate window = " ".intercalate window') :
    window = window' := by
  have hFree :
      ∀ ws : List String,
        (∀ w ∈ ws, w ∈ contentWords content) →
          ∀ run ∈ ws.map String.toList, ' ' ∉ run := by
    intro ws hMem run hRun
    rcases List.mem_map.mp hRun with ⟨w, hw, rfl⟩
    exact space_not_mem_contentWords (hMem w hw)
  have hTexts := congrArg String.toList hJoin
  rw [String.toList_intercalate,
    String.toList_intercalate] at hTexts
  have hRuns :
      window.map String.toList = window'.map String.toList :=
    Words.intercalate_injective (hFree window hWords)
      (hFree window' hWords') (by simpa using hNonempty)
      (by simpa using hNonempty') hTexts
  have hInjective : Function.Injective String.toList := by
    intro s t hEq
    exact String.toList_inj.mp hEq
  exact List.map_injective_iff.mpr hInjective hRuns

/- Two windows of a text with the same key are equal. -/
theorem join_wordWindows_injective
    {content : String}
    {window window' : List String}
    (hWindow :
      window ∈
        wordWindows repetitionWindow (contentWords content))
    (hWindow' :
      window' ∈
        wordWindows repetitionWindow (contentWords content))
    (hJoin :
      " ".intercalate window = " ".intercalate window') :
    window = window' := by
  have hParts :
      ∀ {ws},
        ws ∈ wordWindows repetitionWindow
            (contentWords content) →
          (∀ w ∈ ws, w ∈ contentWords content) ∧
            ws ≠ [] := by
    intro ws hMem
    rcases List.mem_map.mp hMem with ⟨i, hRange, rfl⟩
    constructor
    · intro w hw
      exact List.mem_of_mem_drop (List.mem_of_mem_take hw)
    · rcases exists_tripleAt (List.mem_range.mp hRange) with
        ⟨a, b, c, hTriple⟩
      have hThree := (tripleAt_iff.mp hTriple).2
      change (((contentWords content).drop i).take 3) ≠ []
      rw [hThree]
      exact List.cons_ne_nil _ _
  exact join_injective (hParts hWindow).1 (hParts hWindow').1
    (hParts hWindow).2 (hParts hWindow').2 hJoin

/- A key occurs often when its triple does. -/
theorem exists_le_count_loopKeys_iff
    (content : String) :
    (∃ key, 5 ≤ (loopKeys content).count key) ↔
      RepeatsTriple (contentWords content) := by
  have hKeys :
      loopKeys content =
        (List.range
          ((contentWords content).length + 1 - 3)).map
          (fun i =>
            " ".intercalate
              (((contentWords content).drop i).take 3)) := by
    unfold loopKeys wordWindows
    rw [List.map_map]
    rfl
  rw [hKeys]
  constructor
  · rintro ⟨key, hCount⟩
    rcases Words.le_count_map_range_iff.mp hCount with
      ⟨positions, hMany, hAt⟩
    have hSome : positions.Nonempty := by
      rw [← Finset.card_pos]
      omega
    rcases hSome with ⟨j, hj⟩
    rcases hAt j hj with ⟨hjLt, hjKey⟩
    rcases exists_tripleAt hjLt with ⟨a, b, c, hTriple⟩
    refine ⟨a, b, c, positions, hMany, ?_⟩
    intro i hi
    rcases hAt i hi with ⟨hiLt, hiKey⟩
    have hMem :
        ∀ {k}, k < (contentWords content).length + 1 - 3 →
          ((contentWords content).drop k).take 3 ∈
            wordWindows repetitionWindow
              (contentWords content) := by
      intro k hk
      exact List.mem_map.mpr
        ⟨k, List.mem_range.mpr hk, rfl⟩
    have hSame :=
      join_wordWindows_injective (hMem hiLt) (hMem hjLt)
        (hiKey.trans hjKey.symm)
    apply tripleAt_iff.mpr
    exact ⟨hiLt, hSame.trans (tripleAt_iff.mp hTriple).2⟩
  · rintro ⟨a, b, c, positions, hMany, hAt⟩
    refine ⟨" ".intercalate [a, b, c], ?_⟩
    apply Words.le_count_map_range_iff.mpr
    refine ⟨positions, hMany, ?_⟩
    intro i hi
    rcases tripleAt_iff.mp (hAt i hi) with ⟨hLt, hWindow⟩
    exact ⟨hLt, by rw [hWindow]⟩

end Solvela

------------------------------------------------------------
-- The Answer Of The Loop
------------------------------------------------------------

namespace Solvela

theorem hasRepetitiveLoop_iff_repeatsTriple
    (content : String) :
    hasRepetitiveLoop content = true ↔
      RepeatsTriple (contentWords content) := by
  rw [hasRepetitiveLoop_eq_countLoop,
    Windows.countLoop_eq_true_iff (fun _ => by decide)]
  simp only [Nat.zero_add]
  exact exists_le_count_loopKeys_iff content

/-
  The loop finds a triple of words that stands at five or
  more positions: the keys of different windows differ, and
  the full counts give the same answer as the early return.
-/
theorem hasRepetitiveLoop_eq_true_iff
    (content : String) :
    ∃ runs,
      Words.MaximalRuns isWhitespace content.toList runs ∧
      (hasRepetitiveLoop content = true ↔
        RepeatsTriple (runs.map String.ofList)) ∧
      (∀ window ∈
          wordWindows repetitionWindow
            (runs.map String.ofList),
        ∀ window' ∈
            wordWindows repetitionWindow
              (runs.map String.ofList),
          " ".intercalate window = " ".intercalate window' →
            window = window') ∧
      (hasRepetitiveLoop content = true ↔
        ∃ key, repetitionThreshold ≤
          Windows.countAll
            ((wordWindows repetitionWindow
              (runs.map String.ofList)).map
                (fun window => " ".intercalate window))
            (fun _ => 0) key) := by
  refine ⟨splitWhitespace content.toList,
    Words.maximalRuns_iff.mpr rfl,
    hasRepetitiveLoop_iff_repeatsTriple content, ?_, ?_⟩
  · intro window hWindow window' hWindow' hJoin
    exact join_wordWindows_injective hWindow hWindow' hJoin
  · rw [hasRepetitiveLoop_eq_countLoop,
      Windows.countLoop_eq_true_iff (fun _ => by decide)]
    simp only [Windows.countAll_apply]
    rfl

end Solvela
