import Mathlib.Data.List.Basic

/-
  The last event of a kind in a history, and what followed.

  A state often remembers only what happened since some last
  event: since a record was opened, or a key was written.
  A property of runs may be read off each event and what came
  before it.

  Main declarations:
    * `LastAt`
    * `lastAt_snoc_self`, `LastAt.snoc`, `LastAt.of_snoc`
    * `LastAt.unique`
    * `lastAt_map`
    * `eq_of_only_event`
    * `AtEach`, `atEach_append`, `atEach_iff`
-/

------------------------------------------------------------
-- Last Events
------------------------------------------------------------

namespace Histories

variable {ℓ : Type}

/-
  `x` is the last event of `history` with `P`, and `since`
  are the events after it.
-/
def LastAt
    (P : ℓ → Prop)
    (history : List ℓ)
    (x : ℓ)
    (since : List ℓ) : Prop :=
  ∃ before, history = before ++ x :: since ∧ P x ∧
    ∀ y ∈ since, ¬ P y

variable {P : ℓ → Prop}

theorem LastAt.mem
    {history since : List ℓ}
    {x : ℓ}
    (hLast : LastAt P history x since) :
    x ∈ history := by
  rcases hLast with ⟨before, hSplit, _⟩
  rw [hSplit]
  exact List.mem_append_right _ List.mem_cons_self

/- A new event of the kind is the last one. -/
theorem lastAt_snoc_self
    {x : ℓ}
    (hHolds : P x)
    (history : List ℓ) :
    LastAt P (history ++ [x]) x [] := by
  refine ⟨history, rfl, hHolds, ?_⟩
  intro y hNone
  cases hNone

/- Another new event comes after it. -/
theorem LastAt.snoc
    {history since : List ℓ}
    {x y : ℓ}
    (hLast : LastAt P history x since)
    (hOther : ¬ P y) :
    LastAt P (history ++ [y]) x (since ++ [y]) := by
  rcases hLast with ⟨before, hSplit, hHolds, hSince⟩
  refine ⟨before, ?_, hHolds, ?_⟩
  · rw [hSplit, List.append_assoc]
    rfl
  · intro z hMem
    rcases List.mem_append.mp hMem with hOld | hNew
    · exact hSince z hOld
    · rw [List.mem_singleton.mp hNew]
      exact hOther

/- And it was the last one before the other event. -/
theorem LastAt.of_snoc
    {history since : List ℓ}
    {x y : ℓ}
    (hLast : LastAt P (history ++ [y]) x since)
    (hOther : ¬ P y) :
    ∃ earlier, LastAt P history x earlier ∧
      since = earlier ++ [y] := by
  rcases hLast with ⟨before, hSplit, hHolds, hSince⟩
  rcases List.eq_nil_or_concat since with
    hNone | ⟨earlier, z, hConcat⟩
  · rw [hNone] at hSplit
    rcases List.append_inj' hSplit rfl with ⟨_, hEvent⟩
    rw [(List.cons.inj hEvent).1] at hOther
    exact absurd hHolds hOther
  · rw [List.concat_eq_append] at hConcat
    rw [hConcat, ← List.cons_append,
      ← List.append_assoc] at hSplit
    rcases List.append_inj' hSplit rfl with
      ⟨hHistory, hEvent⟩
    rw [← (List.cons.inj hEvent).1] at hConcat
    refine ⟨earlier, ⟨before, hHistory, hHolds, ?_⟩,
      hConcat⟩
    intro w hMem
    apply hSince
    rw [hConcat]
    exact List.mem_append_left _ hMem

/- There is one last event. -/
theorem LastAt.unique
    {history since since' : List ℓ}
    {x x' : ℓ}
    (hLast : LastAt P history x since)
    (hLast' : LastAt P history x' since') :
    x = x' ∧ since = since' := by
  rcases hLast with ⟨before, hSplit, hHolds, hSince⟩
  rcases hLast' with ⟨before', hSplit', hHolds', hSince'⟩
  rw [hSplit] at hSplit'
  rcases List.append_eq_append_iff.mp hSplit' with
    ⟨middle, _, hRest⟩ | ⟨middle, _, hRest⟩
  · cases middle with
    | nil => exact List.cons.inj hRest
    | cons y middle =>
        rcases List.cons.inj hRest with ⟨_, hTail⟩
        have hMem : x' ∈ since := by
          rw [hTail]
          exact List.mem_append_right _ List.mem_cons_self
        exact absurd hHolds' (hSince x' hMem)
  · cases middle with
    | nil =>
        rcases List.cons.inj hRest with ⟨hEvent, hTail⟩
        exact ⟨hEvent.symm, hTail.symm⟩
    | cons y middle =>
        rcases List.cons.inj hRest with ⟨_, hTail⟩
        have hMem : x ∈ since' := by
          rw [hTail]
          exact List.mem_append_right _ List.mem_cons_self
        exact absurd hHolds (hSince' x hMem)

/- The last event of a translated history. -/
theorem lastAt_map
    {ℓ' : Type}
    (f : ℓ' → ℓ)
    {history : List ℓ'}
    {x : ℓ}
    {since : List ℓ} :
    LastAt P (history.map f) x since ↔
      ∃ y after,
        LastAt (fun e => P (f e)) history y after ∧
          x = f y ∧ since = after.map f := by
  constructor
  · intro hLast
    rcases hLast with ⟨before, hSplit, hHolds, hSince⟩
    rcases List.map_eq_append_iff.mp hSplit with
      ⟨first, second, hHistory, _, hSecond⟩
    rcases List.map_eq_cons_iff.mp hSecond with
      ⟨y, after, hCons, hEvent, hAfter⟩
    refine ⟨y, after, ⟨first, ?_, ?_, ?_⟩, hEvent.symm,
      hAfter.symm⟩
    · rw [hHistory, hCons]
    · change P (f y)
      rw [hEvent]
      exact hHolds
    · intro z hMem
      apply hSince
      rw [← hAfter]
      exact List.mem_map_of_mem hMem
  · intro hLast
    rcases hLast with
      ⟨y, after, ⟨before, hSplit, hHolds, hSince⟩, rfl, rfl⟩
    refine ⟨before.map f, ?_, hHolds, ?_⟩
    · rw [hSplit, List.map_append]
      rfl
    · intro z hMem
      rcases List.mem_map.mp hMem with ⟨e, hEvent, rfl⟩
      exact hSince e hEvent

/- The only event of a kind cuts a history in one way. -/
theorem eq_of_only_event
    {before before' since since' : List ℓ}
    {x y : ℓ}
    (hSame : before ++ x :: since = before' ++ y :: since')
    (hHolds : P x)
    (hBefore : ∀ z ∈ before', ¬ P z)
    (hSince : ∀ z ∈ since', ¬ P z) :
    before = before' ∧ x = y ∧ since = since' := by
  rcases List.append_eq_append_iff.mp hSame with
    ⟨middle, rfl, hRest⟩ | ⟨middle, rfl, hRest⟩
  · cases middle with
    | nil =>
        rcases List.cons.inj hRest with ⟨hEvent, hTail⟩
        exact ⟨(List.append_nil _).symm, hEvent, hTail⟩
    | cons z middle =>
        rcases List.cons.inj hRest with ⟨rfl, _⟩
        exact absurd hHolds (hBefore x
          (List.mem_append_right _ List.mem_cons_self))
  · cases middle with
    | nil =>
        rcases List.cons.inj hRest with ⟨hEvent, hTail⟩
        exact ⟨List.append_nil _, hEvent.symm, hTail.symm⟩
    | cons z middle =>
        rcases List.cons.inj hRest with ⟨_, hTail⟩
        have hMem : x ∈ since' := by
          rw [hTail]
          exact List.mem_append_right _ List.mem_cons_self
        exact absurd hHolds (hSince x hMem)

end Histories

------------------------------------------------------------
-- What Holds At Each Event
------------------------------------------------------------

namespace Histories

variable {ℓ : Type}

/-
  Each event satisfies `P`, given the events before it; the
  events of `past` come before all of them.
-/
def AtEach
    (P : List ℓ → ℓ → Prop) :
    List ℓ → List ℓ → Prop
| _, [] => True
| past, x :: xs => P past x ∧ AtEach P (past ++ [x]) xs

variable {P : List ℓ → ℓ → Prop}

theorem atEach_cons
    {past xs : List ℓ}
    {x : ℓ} :
    AtEach P past (x :: xs) ↔
      P past x ∧ AtEach P (past ++ [x]) xs :=
  Iff.rfl

theorem atEach_append
    {past first second : List ℓ} :
    AtEach P past (first ++ second) ↔
      AtEach P past first ∧
        AtEach P (past ++ first) second := by
  induction first generalizing past with
  | nil => simp [AtEach]
  | cons x first ih =>
      rw [List.cons_append, atEach_cons, atEach_cons, ih,
        and_assoc, List.append_assoc]
      rfl

/- Each event, read by its position. -/
theorem atEach_iff
    {past xs : List ℓ} :
    AtEach P past xs ↔
      ∀ before x after, xs = before ++ x :: after →
        P (past ++ before) x := by
  constructor
  · intro hEach before x after hSplit
    rw [hSplit, atEach_append] at hEach
    exact hEach.2.1
  · intro hSplits
    induction xs generalizing past with
    | nil => exact trivial
    | cons x xs ih =>
        constructor
        · have hHead := hSplits [] x xs rfl
          rw [List.append_nil] at hHead
          exact hHead
        · apply ih
          intro before y after hSplit
          have hLater :=
            hSplits (x :: before) y after (by
              rw [hSplit]
              rfl)
          rw [List.append_assoc]
          exact hLater

theorem atEach_of_forall
    {past xs : List ℓ}
    (hAll : ∀ x ∈ xs, ∀ before, P before x) :
    AtEach P past xs := by
  apply atEach_iff.mpr
  intro before x after hSplit
  apply hAll
  rw [hSplit]
  exact List.mem_append_right _ List.mem_cons_self

end Histories
