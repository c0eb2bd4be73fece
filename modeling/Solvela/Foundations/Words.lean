import Mathlib.Data.Nat.Count
import Mathlib.Data.List.TakeWhile

/-
  The words of a text: its maximal runs of characters that
  are not separators, in order.

  `words` cuts at every separator and drops the empty pieces;
  `MaximalRuns` reads the runs off the text.  A join of words
  by a separator determines them, and the number of windows
  with a given value is a number of positions.

  Main declarations:
    * `words`, `MaximalRuns`
    * `maximalRuns_iff`
    * `intercalate_injective`
    * `le_count_map_range_iff`
-/

------------------------------------------------------------
-- Cutting At The Separators
------------------------------------------------------------

namespace Words

variable {α : Type}

/- The non-empty pieces between separators. -/
def words
    (p : α → Bool)
    (text : List α) : List (List α) :=
  (text.splitOnP p).filter (fun word => !word.isEmpty)

@[simp] theorem words_nil
    (p : α → Bool) :
    words p [] = [] := by
  simp [words]

@[simp] theorem words_cons_separator
    {p : α → Bool}
    {c : α}
    (hSeparator : p c = true)
    (text : List α) :
    words p (c :: text) = words p text := by
  unfold words
  rw [List.splitOnP_cons_eq_if_modifyHead, if_pos hSeparator]
  rfl

/- Separators in front of a text belong to no word. -/
theorem words_append_of_separators
    {p : α → Bool}
    {gap : List α}
    (hGap : ∀ c ∈ gap, p c = true)
    (text : List α) :
    words p (gap ++ text) = words p text := by
  induction gap with
  | nil => rfl
  | cons c gap ih =>
      rw [List.cons_append,
        words_cons_separator (hGap c List.mem_cons_self)]
      apply ih
      intro b hMem
      exact hGap b (List.mem_cons_of_mem c hMem)

/- A run that ends at a separator, or at the end, is a word. -/
theorem words_append_of_run
    {p : α → Bool}
    {run rest : List α}
    (hNonempty : run ≠ [])
    (hRun : ∀ c ∈ run, p c = false)
    (hEnd : ∀ c ∈ rest.head?, p c = true) :
    words p (run ++ rest) = run :: words p rest := by
  have hKept :
      ∀ pieces : List (List α),
        (run :: pieces).filter (fun word => !word.isEmpty) =
          run ::
            pieces.filter (fun word => !word.isEmpty) := by
    intro pieces
    apply List.filter_cons_of_pos
    simpa using hNonempty
  cases rest with
  | nil =>
      unfold words
      rw [List.append_nil, List.splitOnP_eq_singleton hRun,
        hKept]
      simp
  | cons c rest =>
      have hSeparator : p c = true := hEnd c rfl
      rw [words_cons_separator hSeparator]
      unfold words
      rw [List.splitOnP_append_cons_of_forall_mem hRun c
        hSeparator, hKept]

end Words

------------------------------------------------------------
-- Maximal Runs
------------------------------------------------------------

namespace Words

variable {α : Type}

/-
  The maximal runs of a text in order: gaps of separators
  stand before the runs, and a run ends where the text ends
  or a separator follows.
-/
inductive MaximalRuns
    (p : α → Bool) :
    List α → List (List α) → Prop
| blank
    {gap : List α}
    (hGap : ∀ c ∈ gap, p c = true) :
    MaximalRuns p gap []
| run
    {gap run rest : List α}
    {runs : List (List α)}
    (hGap : ∀ c ∈ gap, p c = true)
    (hNonempty : run ≠ [])
    (hRun : ∀ c ∈ run, p c = false)
    (hEnd : ∀ c ∈ rest.head?, p c = true)
    (hRest : MaximalRuns p rest runs) :
    MaximalRuns p (gap ++ (run ++ rest)) (run :: runs)

/- The words are the only maximal runs. -/
theorem MaximalRuns.eq_words
    {p : α → Bool}
    {text : List α}
    {runs : List (List α)}
    (hRuns : MaximalRuns p text runs) :
    runs = words p text := by
  induction hRuns with
  | @blank gap hGap =>
      have hBlank := words_append_of_separators hGap []
      rw [List.append_nil, words_nil] at hBlank
      exact hBlank.symm
  | run hGap hNonempty hRun hEnd hRest ih =>
      rw [words_append_of_separators hGap,
        words_append_of_run hNonempty hRun hEnd, ih]

/- What is left after dropping does not start in the class. -/
theorem eq_false_of_mem_head?_dropWhile
    {q : α → Bool}
    {text : List α}
    {c : α}
    (hHead : c ∈ (text.dropWhile q).head?) :
    q c = false := by
  have hNot := List.head?_dropWhile_not q text
  rw [Option.mem_def.mp hHead] at hNot
  exact hNot

/- Every text has maximal runs: cut off its first one. -/
theorem exists_maximalRuns
    (p : α → Bool)
    (text : List α) :
    ∃ runs, MaximalRuns p text runs := by
  induction hLength : text.length using
    Nat.strong_induction_on generalizing text with
  | h n ih =>
      let gap := text.takeWhile p
      let kept := text.dropWhile p
      let run := kept.takeWhile (fun c => !p c)
      let rest := kept.dropWhile (fun c => !p c)
      have hText : gap ++ kept = text :=
        List.takeWhile_append_dropWhile
      have hKept : run ++ rest = kept :=
        List.takeWhile_append_dropWhile
      have hGap : ∀ c ∈ gap, p c = true := by
        intro c hMem
        exact List.mem_takeWhile_imp hMem
      cases hCase : kept with
      | nil =>
          refine ⟨[], ?_⟩
          rw [← hText, hCase, List.append_nil]
          exact .blank hGap
      | cons c tail =>
          have hFirst : p c = false := by
            have hHead : c ∈ kept.head? := by
              rw [hCase]
              rfl
            exact eq_false_of_mem_head?_dropWhile hHead
          have hRunCons :
              run = c :: tail.takeWhile (fun c => !p c) := by
            change kept.takeWhile (fun c => !p c) = _
            rw [hCase, List.takeWhile_cons_of_pos]
            simpa using hFirst
          have hRun : ∀ b ∈ run, p b = false := by
            intro b hMem
            have hNot := List.mem_takeWhile_imp hMem
            simpa using hNot
          have hEnd : ∀ b ∈ rest.head?, p b = true := by
            intro b hMem
            have hNot :=
              eq_false_of_mem_head?_dropWhile hMem
            simpa using hNot
          have hShorter : rest.length < n := by
            have hLengths :=
              congrArg List.length hText
            have hLengthsKept := congrArg List.length hKept
            rw [List.length_append] at hLengths
            rw [List.length_append, hRunCons,
              List.length_cons] at hLengthsKept
            omega
          rcases ih rest.length hShorter rest rfl with
            ⟨runs, hRest⟩
          refine ⟨run :: runs, ?_⟩
          rw [← hText, ← hKept]
          apply MaximalRuns.run hGap _ hRun hEnd hRest
          rw [hRunCons]
          exact List.cons_ne_nil _ _

theorem maximalRuns_iff
    {p : α → Bool}
    {text : List α}
    {runs : List (List α)} :
    MaximalRuns p text runs ↔ runs = words p text := by
  constructor
  · exact MaximalRuns.eq_words
  · intro hEq
    rcases exists_maximalRuns p text with ⟨runs', hRuns⟩
    rw [hEq, ← hRuns.eq_words]
    exact hRuns

/- No word contains a separator. -/
theorem separator_not_mem_of_mem_words
    {p : α → Bool}
    {text word : List α}
    {c : α}
    (hSeparator : p c = true)
    (hWord : word ∈ words p text) :
    c ∉ word := by
  have hAll :
      ∀ {text runs}, MaximalRuns p text runs →
        ∀ w ∈ runs, ∀ b ∈ w, p b = false := by
    intro text runs hRuns
    induction hRuns with
    | blank hGap =>
        intro w hMem
        cases hMem
    | run hGap hNonempty hRun hEnd hRest ih =>
        intro w hMem
        rcases List.mem_cons.mp hMem with rfl | hLater
        · exact hRun
        · exact ih w hLater
  intro hMem
  have hFree :=
    hAll (maximalRuns_iff.mpr rfl) word hWord c hMem
  rw [hSeparator] at hFree
  cases hFree

end Words

------------------------------------------------------------
-- Joined Words And Windows
------------------------------------------------------------

namespace Words

variable {α : Type}

/- Words without the separator are read back from a join. -/
theorem intercalate_injective
    [DecidableEq α]
    {d : α}
    {ws ws' : List (List α)}
    (hFree : ∀ w ∈ ws, d ∉ w)
    (hFree' : ∀ w ∈ ws', d ∉ w)
    (hNonempty : ws ≠ [])
    (hNonempty' : ws' ≠ [])
    (hEq : [d].intercalate ws = [d].intercalate ws') :
    ws = ws' := by
  calc
    ws = List.splitOn d ([d].intercalate ws) :=
      (List.splitOn_intercalate d hFree hNonempty).symm
    _ = List.splitOn d ([d].intercalate ws') := by rw [hEq]
    _ = ws' := List.splitOn_intercalate d hFree' hNonempty'

/- How often a value occurs, as a number of positions. -/
theorem count_map_range
    [DecidableEq α]
    (f : Nat → α)
    (n : Nat)
    (a : α) :
    ((List.range n).map f).count a =
      ((Finset.range n).filter (fun i => f i = a)).card := by
  rw [← Nat.count_eq_card_filter_range]
  unfold Nat.count
  rw [List.count_eq_countP, List.countP_map]
  congr 1

/- A value occurs often when it stands at many positions. -/
theorem le_count_map_range_iff
    [DecidableEq α]
    {f : Nat → α}
    {n m : Nat}
    {a : α} :
    m ≤ ((List.range n).map f).count a ↔
      ∃ positions : Finset Nat, m ≤ positions.card ∧
        ∀ i ∈ positions, i < n ∧ f i = a := by
  rw [count_map_range]
  constructor
  · intro hMany
    refine ⟨_, hMany, ?_⟩
    intro i hMem
    rcases Finset.mem_filter.mp hMem with ⟨hRange, hValue⟩
    exact ⟨Finset.mem_range.mp hRange, hValue⟩
  · rintro ⟨positions, hMany, hAt⟩
    apply hMany.trans
    apply Finset.card_le_card
    intro i hMem
    rcases hAt i hMem with ⟨hLt, hValue⟩
    exact Finset.mem_filter.mpr
      ⟨Finset.mem_range.mpr hLt, hValue⟩

end Words
