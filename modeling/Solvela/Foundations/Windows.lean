import Mathlib.Data.List.Count
import Mathlib.Data.List.DropRight
import Mathlib.Data.List.Sublists
import Mathlib.Order.Hom.Basic
import Mathlib.Data.List.NodupEquivFin

/-
  Counting loops with an early exit, and sliding windows.

  `countLoop` is the loop that counts each element in a map
  and stops at a threshold.  `lastN` is the window of the
  most recent elements, and `Clusters` says that some short
  stretch of a list repeats an element often enough.

  Main declarations:
    * `countLoop`, `countLoop_eq_true_iff`, `countAll`
    * `lastN`, `pushBounded`, `pushBounded_lastN`
    * `Clusters`, `clusters_snoc_iff`
    * `clusters_three_iff`
-/

------------------------------------------------------------
-- Counting With An Early Exit
------------------------------------------------------------

namespace Windows

variable {α : Type} [DecidableEq α]

/-
  Count the elements in turn; stop with `true` at the first
  count that reaches the threshold.
-/
def countLoop
    (threshold : Nat) :
    List α → (α → Nat) → Bool
| [], _ => false
| a :: l, counts =>
    let count := counts a + 1
    if threshold ≤ count then
      true
    else
      countLoop threshold l
        (Function.update counts a count)

/-
  The early exit does not change the answer: the loop
  reports whether some element reaches the threshold.
-/
theorem countLoop_eq_true_iff
    {threshold : Nat}
    {l : List α}
    {counts : α → Nat}
    (hBelow : ∀ a, counts a < threshold) :
    countLoop threshold l counts = true ↔
      ∃ a, threshold ≤ counts a + l.count a := by
  induction l generalizing counts with
  | nil =>
      constructor
      · intro hLoop
        cases hLoop
      · rintro ⟨a, hReached⟩
        have := hBelow a
        simp only [List.count_nil] at hReached
        omega
  | cons b l ih =>
      unfold countLoop
      by_cases hReached : threshold ≤ counts b + 1
      · simp only [hReached, if_true, true_iff]
        refine ⟨b, ?_⟩
        rw [List.count_cons_self]
        omega
      · simp only [hReached, if_false]
        have hBelow' :
            ∀ a, Function.update counts b (counts b + 1) a <
              threshold := by
          intro a
          by_cases hEq : a = b
          · subst hEq
            rw [Function.update_self]
            omega
          · rw [Function.update_of_ne hEq]
            exact hBelow a
        rw [ih hBelow']
        have hSame :
            ∀ a, Function.update counts b (counts b + 1) a +
                l.count a =
              counts a + (b :: l).count a := by
          intro a
          by_cases hEq : a = b
          · subst hEq
            rw [Function.update_self, List.count_cons_self]
            omega
          · rw [Function.update_of_ne hEq,
              List.count_cons_of_ne (Ne.symm hEq)]
        simp only [hSame]

/- The same counts without an exit. -/
def countAll :
    List α → (α → Nat) → α → Nat
| [], counts => counts
| a :: l, counts =>
    countAll l (Function.update counts a (counts a + 1))

theorem countAll_apply
    (l : List α)
    (counts : α → Nat)
    (a : α) :
    countAll l counts a = counts a + l.count a := by
  induction l generalizing counts with
  | nil => rfl
  | cons b l ih =>
      unfold countAll
      rw [ih]
      by_cases hEq : a = b
      · subst hEq
        rw [Function.update_self, List.count_cons_self]
        omega
      · rw [Function.update_of_ne hEq,
          List.count_cons_of_ne (Ne.symm hEq)]

end Windows

------------------------------------------------------------
-- The Window Of Most Recent Elements
------------------------------------------------------------

namespace Windows

variable {α : Type}

/- The last `n` elements, or all of a shorter list. -/
def lastN
    (n : Nat)
    (l : List α) : List α :=
  l.drop (l.length - n)

/- Append to a window of at most `n` elements. -/
def pushBounded
    (n : Nat)
    (window : List α)
    (a : α) : List α :=
  (if n ≤ window.length then window.tail else window) ++ [a]

theorem length_lastN
    (n : Nat)
    (l : List α) :
    (lastN n l).length = min l.length n := by
  simp [lastN]
  omega

/- Pushing onto the window is the window of the push. -/
theorem pushBounded_lastN
    {n : Nat}
    (hPos : 0 < n)
    (l : List α)
    (a : α) :
    pushBounded n (lastN n l) a = lastN n (l ++ [a]) := by
  unfold pushBounded
  rw [length_lastN]
  by_cases hFull : n ≤ l.length
  · have hMin : min l.length n = n := by omega
    have hDrop :
        (l ++ [a]).length - n = l.length - n + 1 := by
      simp
      omega
    rw [hMin, if_pos (Nat.le_refl n)]
    unfold lastN
    rw [hDrop, List.drop_append_of_le_length (by omega),
      List.tail_drop]
  · have hMin : ¬ n ≤ min l.length n := by omega
    have hWhole : l.length - n = 0 := by omega
    have hDrop : (l ++ [a]).length - n = 0 := by
      simp
      omega
    rw [if_neg hMin]
    unfold lastN
    rw [hDrop, hWhole]
    simp

/- A short enough suffix lies in the window. -/
theorem suffix_lastN
    {n : Nat}
    {l w : List α}
    (hSuffix : w <:+ l)
    (hShort : w.length ≤ n) :
    w <:+ lastN n l := by
  rcases hSuffix with ⟨pre, rfl⟩
  refine ⟨pre.drop ((pre ++ w).length - n), ?_⟩
  unfold lastN
  rw [List.drop_append_of_le_length]
  simp
  omega

end Windows

------------------------------------------------------------
-- Repetitions Within A Short Stretch
------------------------------------------------------------

namespace Windows

variable {α : Type} [DecidableEq α]

/-
  Some stretch of at most `n` consecutive elements holds one
  element at least `m` times.
-/
def Clusters
    (n m : Nat)
    (l : List α) : Prop :=
  ∃ w, w <:+: l ∧ w.length ≤ n ∧ ∃ a, m ≤ w.count a

/-
  A list that grows by one element gains a cluster only in
  the window of its most recent elements.
-/
theorem clusters_snoc_iff
    {n m : Nat}
    {l : List α}
    {a : α} :
    Clusters n m (l ++ [a]) ↔
      Clusters n m l ∨
        ∃ x, m ≤ (lastN n (l ++ [a])).count x := by
  constructor
  · rintro ⟨w, ⟨pre, post, hParts⟩, hShort, x, hCount⟩
    rcases List.eq_nil_or_concat post with
      hEnd | ⟨rest, b, hConcat⟩
    · apply Or.inr
      refine ⟨x, ?_⟩
      have hSuffix : w <:+ l ++ [a] := by
        refine ⟨pre, ?_⟩
        rw [← hParts, hEnd, List.append_nil]
      have hLe :=
        (suffix_lastN hSuffix hShort).sublist.count_le x
      omega
    · apply Or.inl
      rw [hConcat, List.concat_eq_append,
        ← List.append_assoc] at hParts
      have hInit := (List.append_inj' hParts rfl).1
      exact ⟨w, ⟨pre, rest, hInit⟩, hShort, x, hCount⟩
  · rintro (⟨w, hInfix, hShort, x, hCount⟩ | ⟨x, hCount⟩)
    · exact ⟨w, hInfix.trans (List.prefix_append l [a]).isInfix,
        hShort, x, hCount⟩
    · refine ⟨lastN n (l ++ [a]), ?_, ?_, x, hCount⟩
      · exact (List.drop_suffix _ _).isInfix
      · rw [length_lastN]
        exact Nat.min_le_right _ _

/- Three equal elements in order form a sublist. -/
theorem three_le_count_iff
    {l : List α}
    {a : α} :
    3 ≤ l.count a ↔
      ∃ i j k : Nat, i < j ∧ j < k ∧ l[i]? = some a ∧
        l[j]? = some a ∧ l[k]? = some a := by
  rw [← List.replicate_sublist_iff]
  constructor
  · intro hSublist
    rcases List.sublist_iff_exists_orderEmbedding_getElem?_eq.mp
        hSublist with ⟨f, hAt⟩
    have hFirst : l[f 0]? = some a := by
      rw [← hAt 0]
      rfl
    have hSecond : l[f 1]? = some a := by
      rw [← hAt 1]
      rfl
    have hThird : l[f 2]? = some a := by
      rw [← hAt 2]
      rfl
    exact ⟨f 0, f 1, f 2, f.lt_iff_lt.mpr (by omega),
      f.lt_iff_lt.mpr (by omega), hFirst, hSecond, hThird⟩
  · rintro ⟨i, j, k, hij, hjk, hi, hj, hk⟩
    have hTail :
        [a].Sublist (l.drop (j + 1)) := by
      rw [List.singleton_sublist]
      apply List.mem_of_getElem? (i := k - (j + 1))
      rw [List.getElem?_drop]
      rw [show j + 1 + (k - (j + 1)) = k by omega]
      exact hk
    have hCons :
        ∀ {n : Nat} {s : List α}, l[n]? = some a →
          s.Sublist (l.drop (n + 1)) →
            (a :: s).Sublist (l.drop n) := by
      intro n s hAt hRest
      rcases List.getElem?_eq_some_iff.mp hAt with
        ⟨hLt, hGet⟩
      rw [List.drop_eq_getElem_cons hLt, hGet]
      exact hRest.cons_cons a
    have hLater :
        ∀ {m n : Nat}, m ≤ n →
          (l.drop n).Sublist (l.drop m) := by
      intro m n hLe
      exact List.drop_sublist_drop_left l hLe
    have hPair := hCons hj hTail
    have hTriple := hCons hi (hPair.trans (hLater hij))
    exact hTriple.trans (List.drop_sublist i l)

/-
  Three equal elements within `n + 1` consecutive positions,
  read by their indices.
-/
theorem clusters_three_iff
    {n : Nat}
    {l : List α} :
    Clusters (n + 1) 3 l ↔
      ∃ i j k : Nat, i < j ∧ j < k ∧ k - i ≤ n ∧
        ∃ a, l[i]? = some a ∧ l[j]? = some a ∧
          l[k]? = some a := by
  constructor
  · rintro ⟨w, ⟨pre, post, rfl⟩, hShort, a, hCount⟩
    rcases three_le_count_iff.mp hCount with
      ⟨i, j, k, hij, hjk, hi, hj, hk⟩
    have hkLt : k < w.length :=
      (List.getElem?_eq_some_iff.mp hk).1
    have hShift :
        ∀ m, m < w.length →
          (pre ++ w ++ post)[pre.length + m]? = w[m]? := by
      intro m hm
      rw [List.append_assoc,
        List.getElem?_append_right (by omega),
        List.getElem?_append_left (by omega)]
      congr 1
      omega
    refine ⟨pre.length + i, pre.length + j, pre.length + k,
      by omega, by omega, by omega, a, ?_, ?_, ?_⟩
    · rw [hShift i (by omega)]
      exact hi
    · rw [hShift j (by omega)]
      exact hj
    · rw [hShift k hkLt]
      exact hk
  · rintro ⟨i, j, k, hij, hjk, hSpan, a, hi, hj, hk⟩
    have hkLt : k < l.length :=
      (List.getElem?_eq_some_iff.mp hk).1
    let w := (l.drop i).take (n + 1)
    have hAt :
        ∀ m, i ≤ m → m - i ≤ n → w[m - i]? = l[m]? := by
      intro m hLe hWithin
      rw [List.getElem?_take_of_lt (by omega),
        List.getElem?_drop]
      congr 1
      omega
    refine ⟨w, ?_, ?_, a, ?_⟩
    · exact (List.take_prefix _ _).isInfix.trans
        (List.drop_suffix _ _).isInfix
    · exact List.length_take_le _ _
    · apply three_le_count_iff.mpr
      refine ⟨0, j - i, k - i, by omega, by omega, ?_, ?_, ?_⟩
      · have hStart := hAt i (Nat.le_refl i) (by omega)
        rw [Nat.sub_self] at hStart
        rw [hStart]
        exact hi
      · rw [hAt j (by omega) (by omega)]
        exact hj
      · rw [hAt k (by omega) hSpan]
        exact hk

end Windows
