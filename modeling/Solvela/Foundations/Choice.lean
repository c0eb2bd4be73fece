import Mathlib.Data.List.Basic

/-
  The first entry of a list with a property.

  `FirstThat` follows a search through the list: an entry is
  found, or it is passed and the search goes on behind it.

  Main declarations:
    * `FirstThat`
    * `FirstThat.unique`, `FirstThat.holds`
    * `FirstThat.cons_congr`
    * `firstThat_find?`
-/

------------------------------------------------------------
-- First Entries
------------------------------------------------------------

namespace Choice

variable {α : Type}

/- The first entry of a list with a property, if any. -/
inductive FirstThat
    (P : α → Prop) :
    List α → Option α → Prop
| absent :
    FirstThat P [] none
| here
    {a : α}
    {l : List α}
    (hHolds : P a) :
    FirstThat P (a :: l) (some a)
| there
    {a : α}
    {l : List α}
    {r : Option α}
    (hNot : ¬ P a)
    (hRest : FirstThat P l r) :
    FirstThat P (a :: l) r

variable {P Q : α → Prop}
variable {l : List α}

/- A list has one first entry with a property. -/
theorem FirstThat.unique
    {r r' : Option α}
    (hFirst : FirstThat P l r)
    (hFirst' : FirstThat P l r') :
    r = r' := by
  induction hFirst with
  | absent =>
      cases hFirst'
      rfl
  | here hHolds =>
      cases hFirst' with
      | here hHolds' => rfl
      | there hNot hRest => exact absurd hHolds hNot
  | there hNot hRest ih =>
      cases hFirst' with
      | here hHolds' => exact absurd hHolds' hNot
      | there hNot' hRest' => exact ih hRest'

/- What is found has the property. -/
theorem FirstThat.holds
    {r : Option α}
    (hFirst : FirstThat P l r) :
    ∀ a ∈ r, P a := by
  induction hFirst with
  | absent =>
      intro a hMem
      cases hMem
  | here hHolds =>
      intro a hMem
      rcases Option.some.inj hMem with rfl
      exact hHolds
  | there hNot hRest ih => exact ih

/- Nothing is found where no entry has the property. -/
theorem FirstThat.not_of_none
    (hFirst : FirstThat P l none) :
    ∀ a ∈ l, ¬ P a := by
  generalize hNone : none = r at hFirst
  induction hFirst with
  | absent =>
      intro a hMem
      cases hMem
  | here hHolds => cases hNone
  | there hNot hRest ih =>
      intro a hMem
      rcases List.mem_cons.mp hMem with rfl | hLater
      · exact hNot
      · exact ih hNone a hLater

/- Agreement on an entry, and behind it when it is passed. -/
theorem FirstThat.cons_congr
    {a : α}
    {r : Option α}
    (hHead : P a ↔ Q a)
    (hTail : ¬ P a → FirstThat P l r → FirstThat Q l r)
    (hFirst : FirstThat P (a :: l) r) :
    FirstThat Q (a :: l) r := by
  cases hFirst with
  | here hHolds => exact .here (hHead.mp hHolds)
  | there hNot hRest =>
      exact .there (mt hHead.mpr hNot) (hTail hNot hRest)

/- Searching a list finds the first entry. -/
theorem firstThat_find?
    {p : α → Bool}
    (hDecides : ∀ a, p a = true ↔ P a)
    (l : List α) :
    FirstThat P l (l.find? p) := by
  induction l with
  | nil => exact .absent
  | cons a l ih =>
      by_cases hHolds : p a = true
      · rw [List.find?_cons_of_pos hHolds]
        exact .here ((hDecides a).mp hHolds)
      · rw [List.find?_cons_of_neg hHolds]
        exact .there (mt (hDecides a).mpr hHolds) ih

end Choice
