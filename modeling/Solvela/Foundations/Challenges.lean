import Mathlib.Data.List.Infix

/-
  Dialogues of challenges and answers.

  An event may pose a challenge and may carry answers.  In an
  answered dialogue each answer is valid for the challenge of
  the event right before it, so a challenge is answered at
  most once and never late.

  Main declarations:
    * `Answered`
    * `Answered.append`
    * `Answered.valid_of_mem`
    * `Answered.follows`
-/

------------------------------------------------------------
-- Answered Dialogues
------------------------------------------------------------

namespace Challenges

variable {E Q A : Type}

/-
  An event carries no answer, or one answer to the challenge
  that is pending.
-/
def AnswersTo
    (answers : E → List A)
    (Valid : Q → A → Prop)
    (pending : Option Q)
    (e : E) : Prop :=
  answers e = [] ∨
    ∃ q a, pending = some q ∧ answers e = [a] ∧ Valid q a

/-
  Each event answers to the challenge pending before it, and
  leaves its own challenge pending.
-/
def Answered
    (challenge : E → Option Q)
    (answers : E → List A)
    (Valid : Q → A → Prop) :
    Option Q → List E → Prop
| _, [] => True
| pending, e :: es =>
    AnswersTo answers Valid pending e ∧
      Answered challenge answers Valid (challenge e) es

variable {challenge : E → Option Q}
variable {answers : E → List A}
variable {Valid : Q → A → Prop}

/- A dialogue that expects no challenge may follow any. -/
theorem Answered.of_none
    {es : List E}
    (hFree : Answered challenge answers Valid none es)
    (pending : Option Q) :
    Answered challenge answers Valid pending es := by
  cases es with
  | nil => exact trivial
  | cons e es =>
      rcases hFree with ⟨hAnswers, hRest⟩
      refine ⟨?_, hRest⟩
      rcases hAnswers with hNone | ⟨q, a, hPending, _⟩
      · exact Or.inl hNone
      · cases hPending

/- Dialogues that start afresh can be joined. -/
theorem Answered.append
    {first second : List E}
    {pending : Option Q}
    (hFirst :
      Answered challenge answers Valid pending first)
    (hSecond :
      Answered challenge answers Valid none second) :
    Answered challenge answers Valid pending
      (first ++ second) := by
  induction first generalizing pending with
  | nil => exact hSecond.of_none pending
  | cons e first ih =>
      exact ⟨hFirst.1, ih hFirst.2⟩

/- So is the beginning of one. -/
theorem Answered.of_append
    {first second : List E}
    {pending : Option Q}
    (hAll :
      Answered challenge answers Valid pending
        (first ++ second)) :
    Answered challenge answers Valid pending first := by
  induction first generalizing pending with
  | nil => exact trivial
  | cons e first ih => exact ⟨hAll.1, ih hAll.2⟩

/- A dialogue without answers is answered. -/
theorem answered_of_forall_eq_nil
    {es : List E}
    (hSilent : ∀ e ∈ es, answers e = [])
    (pending : Option Q) :
    Answered challenge answers Valid pending es := by
  induction es generalizing pending with
  | nil => exact trivial
  | cons e es ih =>
      refine ⟨Or.inl (hSilent e List.mem_cons_self), ?_⟩
      apply ih
      intro x hx
      exact hSilent x (List.mem_cons_of_mem e hx)

/- Every answer is valid for some challenge. -/
theorem Answered.valid_of_mem
    {es : List E}
    {pending : Option Q}
    (hAll : Answered challenge answers Valid pending es)
    {e : E}
    {a : A}
    (hEvent : e ∈ es)
    (hAnswer : a ∈ answers e) :
    ∃ q, Valid q a := by
  induction es generalizing pending with
  | nil => cases hEvent
  | cons x es ih =>
      rcases List.mem_cons.mp hEvent with hFirst | hRest
      · subst hFirst
        rcases hAll.1 with hNone | ⟨q, a', _, hOnly, hValid⟩
        · rw [hNone] at hAnswer
          cases hAnswer
        · rw [hOnly] at hAnswer
          cases List.mem_singleton.mp hAnswer
          exact ⟨q, hValid⟩
      · exact ih hAll.2 hRest

/- The part of a dialogue after some events is answered. -/
theorem Answered.drop
    {past rest : List E}
    {e : E}
    {pending : Option Q}
    (hAll :
      Answered challenge answers Valid pending
        (past ++ e :: rest)) :
    Answered challenge answers Valid (challenge e) rest := by
  induction past generalizing pending with
  | nil => exact hAll.2
  | cons x past ih => exact ih hAll.2

/-
  An event with an answer follows directly on the event whose
  challenge it answers.
-/
theorem Answered.follows
    {past rest : List E}
    {e : E}
    (hAll :
      Answered challenge answers Valid none
        (past ++ e :: rest)) :
    answers e = [] ∨
      ∃ before probe q a,
        past = before ++ [probe] ∧ challenge probe = some q ∧
          answers e = [a] ∧ Valid q a := by
  rcases List.eq_nil_or_concat past with
    hNil | ⟨before, probe, hPast⟩
  · subst hNil
    rcases hAll.1 with hNone | ⟨q, a, hPending, _⟩
    · exact Or.inl hNone
    · cases hPending
  · subst hPast
    have hTail :
        Answered challenge answers Valid none
          (before ++ probe :: (e :: rest)) := by
      simpa using hAll
    rcases hTail.drop.1 with
      hNone | ⟨q, a, hPending, hAnswer, hValid⟩
    · exact Or.inl hNone
    · exact Or.inr ⟨before, probe, q, a, by simp, hPending,
        hAnswer, hValid⟩

end Challenges
