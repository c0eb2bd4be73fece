import Mathlib.Logic.Basic

/-
  Outcomes of programs with a mutable state and checked
  errors.

  A program is an `EStateM ε σ α`: it keeps its state when it
  fails.  `Runs` is its big-step relation, and the rules below
  take a composed program apart, one construct at a time, so
  that a proof about a program follows its text.

  Main declarations:
    * `Runs`
    * `ofOutcome`, `attempt`
    * `final`, `outcome`, `runs_outcome`, `Runs.unique`
    * `exists_runs`, `exists_runs_ok`, `exists_runs_error`
    * `thrown`, `runs_of_thrown`
    * `runs_bind`, `runs_mapOutcome`
    * `ErrorsIn`
    * `zoom`, `runs_zoom`
    * `Always`, `Always.andThen`, `Always.bind`
-/

------------------------------------------------------------
-- Big-Step Outcomes
------------------------------------------------------------

namespace Effects

variable {ε ε' σ α β : Type}

/- Running `x` from `s` ends in `s'` with outcome `r`. -/
def Runs
    (x : EStateM ε σ α)
    (s : σ)
    (r : Except ε α)
    (s' : σ) : Prop :=
  match x.run s with
  | .ok a t => r = .ok a ∧ s' = t
  | .error e t => r = .error e ∧ s' = t

/- A program that returns or throws a given value. -/
def ofOutcome
    (r : Except ε α) : EStateM ε σ α :=
  match r with
  | .ok a => pure a
  | .error e => throw e

/- Run `x` and return its outcome instead of throwing. -/
def attempt
    (x : EStateM ε σ α) : EStateM ε' σ (Except ε α) :=
  fun s =>
    match x s with
    | .ok a t => .ok (.ok a) t
    | .error e t => .ok (.error e) t

/- The state that `x` leaves behind from `s`. -/
def final
    (x : EStateM ε σ α)
    (s : σ) : σ :=
  match x.run s with
  | .ok _ t => t
  | .error _ t => t

/- What `x` returns or throws from `s`. -/
def outcome
    (x : EStateM ε σ α)
    (s : σ) : Except ε α :=
  match x.run s with
  | .ok a _ => .ok a
  | .error e _ => .error e

theorem runs_outcome
    (x : EStateM ε σ α)
    (s : σ) :
    Runs x s (outcome x s) (final x s) := by
  unfold Runs outcome final
  cases x.run s with
  | ok a t => exact ⟨rfl, rfl⟩
  | error e t => exact ⟨rfl, rfl⟩

/- Every program has an outcome from every state. -/
theorem exists_runs
    (x : EStateM ε σ α)
    (s : σ) :
    ∃ r s', Runs x s r s' :=
  ⟨outcome x s, final x s, runs_outcome x s⟩

/- A program has one outcome from a state. -/
theorem Runs.unique
    {x : EStateM ε σ α}
    {s s₁ s₂ : σ}
    {r₁ r₂ : Except ε α}
    (h₁ : Runs x s r₁ s₁)
    (h₂ : Runs x s r₂ s₂) :
    r₁ = r₂ ∧ s₁ = s₂ := by
  unfold Runs at h₁ h₂
  cases hRun : x.run s with
  | ok a t =>
      rw [hRun] at h₁ h₂
      exact ⟨h₁.1.trans h₂.1.symm, h₁.2.trans h₂.2.symm⟩
  | error e t =>
      rw [hRun] at h₁ h₂
      exact ⟨h₁.1.trans h₂.1.symm, h₁.2.trans h₂.2.symm⟩

/- A run is the computed one. -/
theorem runs_iff
    {x : EStateM ε σ α}
    {s s' : σ}
    {r : Except ε α} :
    Runs x s r s' ↔ r = outcome x s ∧ s' = final x s := by
  constructor
  · intro hRun
    exact hRun.unique (runs_outcome x s)
  · rintro ⟨rfl, rfl⟩
    exact runs_outcome x s

theorem exists_runs_final
    (x : EStateM ε σ α)
    (s : σ) :
    ∃ r, Runs x s r (final x s) :=
  ⟨outcome x s, runs_outcome x s⟩

/- Whether `x` returns from `s`. -/
def returns
    (x : EStateM ε σ α)
    (s : σ) : Bool :=
  match x.run s with
  | .ok _ _ => true
  | .error _ _ => false

theorem exists_runs_ok
    {x : EStateM ε σ α}
    {s : σ}
    (hReturns : returns x s = true) :
    ∃ a, Runs x s (.ok a) (final x s) := by
  unfold returns at hReturns
  unfold Runs final
  cases hRun : x.run s with
  | ok a t => exact ⟨a, rfl, rfl⟩
  | error e t =>
      rw [hRun] at hReturns
      cases hReturns

theorem exists_runs_error
    {x : EStateM ε σ α}
    {s : σ}
    (hFails : returns x s = false) :
    ∃ e, Runs x s (.error e) (final x s) := by
  unfold returns at hFails
  unfold Runs final
  cases hRun : x.run s with
  | ok a t =>
      rw [hRun] at hFails
      cases hFails
  | error e t => exact ⟨e, rfl, rfl⟩

/- The error that `x` throws from `s`. -/
def thrown
    (x : EStateM ε σ α)
    (s : σ) : Option ε :=
  match x.run s with
  | .ok _ _ => none
  | .error e _ => some e

theorem runs_of_thrown
    {x : EStateM ε σ α}
    {s : σ}
    {e : ε}
    (hThrown : thrown x s = some e) :
    Runs x s (.error e) (final x s) := by
  unfold thrown at hThrown
  unfold Runs final
  cases hRun : x.run s with
  | ok a t =>
      rw [hRun] at hThrown
      cases hThrown
  | error e' t =>
      rw [hRun] at hThrown
      cases hThrown
      exact ⟨rfl, rfl⟩

end Effects

------------------------------------------------------------
-- Rules For Program Constructs
------------------------------------------------------------

namespace Effects

variable {ε ε' σ α β : Type}

@[simp] theorem runs_pure
    {a : α}
    {s s' : σ}
    {r : Except ε α} :
    Runs (pure a : EStateM ε σ α) s r s' ↔
      r = .ok a ∧ s' = s := by
  rfl

@[simp] theorem runs_throw
    {e : ε}
    {s s' : σ}
    {r : Except ε α} :
    Runs (throw e : EStateM ε σ α) s r s' ↔
      r = .error e ∧ s' = s := by
  rfl

@[simp] theorem runs_ofOutcome
    {x r : Except ε α}
    {s s' : σ} :
    Runs (ofOutcome x) s r s' ↔ r = x ∧ s' = s := by
  cases x with
  | ok a => exact runs_pure
  | error e => exact runs_throw

/-
  Sequencing: the first program returns and the second runs
  on its value, or the first program throws.
-/
theorem runs_bind
    {x : EStateM ε σ α}
    {f : α → EStateM ε σ β}
    {s s' : σ}
    {r : Except ε β} :
    Runs (x >>= f) s r s' ↔
      (∃ a t, Runs x s (.ok a) t ∧ Runs (f a) t r s') ∨
        ∃ e, Runs x s (.error e) s' ∧ r = .error e := by
  have hBind :
      (x >>= f).run s =
        match x.run s with
        | .ok a t => (f a).run t
        | .error e t => .error e t := rfl
  unfold Runs
  rw [hBind]
  cases x.run s with
  | ok a t =>
      constructor
      · intro hRest
        exact Or.inl ⟨a, t, ⟨rfl, rfl⟩, hRest⟩
      · rintro (⟨a', t', ⟨hValue, rfl⟩, hRest⟩ | ⟨e, hNo, _⟩)
        · cases hValue
          exact hRest
        · cases hNo.1
  | error e t =>
      constructor
      · rintro ⟨hOutcome, hState⟩
        exact Or.inr ⟨e, ⟨rfl, hState⟩, hOutcome⟩
      · rintro (⟨a, t', hNo, _⟩ | ⟨e', ⟨hError, hState⟩, hOutcome⟩)
        · cases hNo.1
        · cases hError
          exact ⟨hOutcome, hState⟩

@[simp] theorem runs_get_bind
    {f : σ → EStateM ε σ β}
    {s s' : σ}
    {r : Except ε β} :
    Runs ((get : EStateM ε σ σ) >>= f) s r s' ↔
      Runs (f s) s r s' := by
  rfl

@[simp] theorem runs_set_bind
    {t s s' : σ}
    {f : PUnit → EStateM ε σ β}
    {r : Except ε β} :
    Runs ((set t : EStateM ε σ PUnit) >>= f) s r s' ↔
      Runs (f ⟨⟩) t r s' := by
  rfl

@[simp] theorem runs_modify_bind
    {g : σ → σ}
    {f : PUnit → EStateM ε σ β}
    {s s' : σ}
    {r : Except ε β} :
    Runs ((modify g : EStateM ε σ PUnit) >>= f) s r s' ↔
      Runs (f ⟨⟩) (g s) r s' := by
  rfl

@[simp] theorem runs_modifyGet_bind
    {g : σ → α × σ}
    {f : α → EStateM ε σ β}
    {s s' : σ}
    {r : Except ε β} :
    Runs ((modifyGet g : EStateM ε σ α) >>= f) s r s' ↔
      Runs (f (g s).1) (g s).2 r s' := by
  rfl

/- Sequencing after an outcome that is already known. -/
theorem runs_ofOutcome_bind
    {x : Except ε α}
    {f : α → EStateM ε σ β}
    {s s' : σ}
    {r : Except ε β} :
    Runs (ofOutcome x >>= f) s r s' ↔
      (∃ a, x = .ok a ∧ Runs (f a) s r s') ∨
        ∃ e, x = .error e ∧ r = .error e ∧ s' = s := by
  cases x with
  | ok a =>
      constructor
      · intro hRest
        exact Or.inl ⟨a, rfl, hRest⟩
      · rintro (⟨a', hValue, hRest⟩ | ⟨e, hNo, _⟩)
        · cases hValue
          exact hRest
        · cases hNo
  | error e =>
      constructor
      · rintro ⟨hOutcome, hState⟩
        exact Or.inr ⟨e, rfl, hOutcome, hState⟩
      · rintro (⟨a, hNo, _⟩ | ⟨e', hError, hEnd⟩)
        · cases hNo
        · cases hError
          exact hEnd

/- A program whose value is passed through a function. -/
theorem runs_bind_pure
    {x : EStateM ε σ α}
    {f : α → β}
    {s s' : σ}
    {r : Except ε β} :
    Runs (x >>= fun a => pure (f a)) s r s' ↔
      ∃ r₀, Runs x s r₀ s' ∧ r = r₀.map f := by
  rw [runs_bind]
  constructor
  · rintro (⟨a, t, hFirst, hEnd⟩ | ⟨e, hFirst, rfl⟩)
    · rcases runs_pure.mp hEnd with ⟨rfl, rfl⟩
      exact ⟨.ok a, hFirst, rfl⟩
    · exact ⟨.error e, hFirst, rfl⟩
  · intro hRun
    rcases hRun with ⟨r₀, hFirst, rfl⟩
    cases r₀ with
    | ok a =>
        exact Or.inl ⟨a, s', hFirst,
          runs_pure.mpr ⟨rfl, rfl⟩⟩
    | error e => exact Or.inr ⟨e, hFirst, rfl⟩

/- A composed program returns if both parts do. -/
theorem runs_bind_ok
    {x : EStateM ε σ α}
    {f : α → EStateM ε σ β}
    {s s' : σ}
    {b : β} :
    Runs (x >>= f) s (.ok b) s' ↔
      ∃ a t, Runs x s (.ok a) t ∧ Runs (f a) t (.ok b) s' := by
  rw [runs_bind]
  constructor
  · rintro (hBoth | ⟨e, _, hNo⟩)
    · exact hBoth
    · cases hNo
  · exact Or.inl

/- Sequencing after a program that returned. -/
theorem Runs.bind
    {x : EStateM ε σ α}
    {f : α → EStateM ε σ β}
    {s t s' : σ}
    {a : α}
    {r : Except ε β}
    (hFirst : Runs x s (.ok a) t)
    (hRest : Runs (f a) t r s') :
    Runs (x >>= f) s r s' :=
  runs_bind.mpr (Or.inl ⟨a, t, hFirst, hRest⟩)

/- A program that only changes the outcome of another. -/
theorem runs_mapOutcome
    {x : EStateM ε σ α}
    {y : EStateM ε' σ β}
    {g : Except ε α → Except ε' β}
    {s s' : σ}
    {r : Except ε' β}
    (hOutcome : outcome y s = g (outcome x s))
    (hFinal : final y s = final x s) :
    Runs y s r s' ↔ ∃ r₀, Runs x s r₀ s' ∧ r = g r₀ := by
  rw [runs_iff, hOutcome, hFinal]
  constructor
  · rintro ⟨hMapped, rfl⟩
    exact ⟨_, runs_outcome x s, hMapped⟩
  · rintro ⟨r₀, hRun, hMapped⟩
    rcases runs_iff.mp hRun with ⟨rfl, hState⟩
    exact ⟨hMapped, hState⟩

/- Translating the errors of a program. -/
theorem runs_adaptExcept
    {f : ε → ε'}
    {x : EStateM ε σ α}
    {s s' : σ}
    {r : Except ε' α} :
    Runs (EStateM.adaptExcept f x) s r s' ↔
      ∃ r₀, Runs x s r₀ s' ∧ r = r₀.mapError f := by
  apply runs_mapOutcome
  · unfold outcome EStateM.adaptExcept EStateM.run
    cases hRun : x s with
    | ok a t =>
        simp only [hRun]
        rfl
    | error e t =>
        simp only [hRun]
        rfl
  · unfold final EStateM.adaptExcept EStateM.run
    cases hRun : x s <;> simp only [hRun]

theorem runs_adaptExcept_ok
    {f : ε → ε'}
    {x : EStateM ε σ α}
    {s s' : σ}
    {a : α} :
    Runs (EStateM.adaptExcept f x) s (.ok a) s' ↔
      Runs x s (.ok a) s' := by
  rw [runs_adaptExcept]
  constructor
  · rintro ⟨r₀, hRun, hOk⟩
    cases r₀ with
    | ok a' =>
        cases hOk
        exact hRun
    | error e => cases hOk
  · intro hRun
    exact ⟨.ok a, hRun, rfl⟩

/- Sequencing after a program with translated errors. -/
theorem runs_adaptExcept_bind
    {g : ε → ε'}
    {x : EStateM ε σ α}
    {f : α → EStateM ε' σ β}
    {s s' : σ}
    {r : Except ε' β} :
    Runs (EStateM.adaptExcept g x >>= f) s r s' ↔
      (∃ a t, Runs x s (.ok a) t ∧ Runs (f a) t r s') ∨
        ∃ e, Runs x s (.error e) s' ∧ r = .error (g e) := by
  rw [runs_bind]
  constructor
  · rintro (⟨a, t, hFirst, hRest⟩ | ⟨e', hFirst, rfl⟩)
    · rcases runs_adaptExcept.mp hFirst with ⟨r₀, hRun, hOk⟩
      cases r₀ with
      | ok a' =>
          cases hOk
          exact Or.inl ⟨a, t, hRun, hRest⟩
      | error e => cases hOk
    · rcases runs_adaptExcept.mp hFirst with ⟨r₀, hRun, hEnd⟩
      cases r₀ with
      | ok a => cases hEnd
      | error e =>
          cases hEnd
          exact Or.inr ⟨e, hRun, rfl⟩
  · rintro (⟨a, t, hFirst, hRest⟩ | ⟨e, hFirst, rfl⟩)
    · exact Or.inl ⟨a, t,
        runs_adaptExcept.mpr ⟨_, hFirst, rfl⟩, hRest⟩
    · exact Or.inr ⟨g e,
        runs_adaptExcept.mpr ⟨_, hFirst, rfl⟩, rfl⟩

/- Observing a program never throws. -/
theorem runs_attempt
    {x : EStateM ε σ α}
    {s s' : σ}
    {r : Except ε' (Except ε α)} :
    Runs (attempt x) s r s' ↔
      ∃ r₀, Runs x s r₀ s' ∧ r = .ok r₀ := by
  apply runs_mapOutcome
  · unfold outcome attempt EStateM.run
    cases hRun : x s <;> simp only [hRun]
  · unfold final attempt EStateM.run
    cases hRun : x s <;> simp only [hRun]

/- Sequencing after a program that is observed. -/
theorem runs_attempt_bind
    {x : EStateM ε σ α}
    {f : Except ε α → EStateM ε' σ β}
    {s s' : σ}
    {r : Except ε' β} :
    Runs (attempt x >>= f) s r s' ↔
      ∃ r₀ t, Runs x s r₀ t ∧ Runs (f r₀) t r s' := by
  rw [runs_bind]
  constructor
  · rintro (⟨r₀, t, hFirst, hRest⟩ | ⟨e, hFirst, _⟩)
    · rcases runs_attempt.mp hFirst with ⟨r₁, hRun, hSame⟩
      cases hSame
      exact ⟨r₀, t, hRun, hRest⟩
    · rcases runs_attempt.mp hFirst with ⟨r₁, _, hNo⟩
      cases hNo
  · intro hRun
    rcases hRun with ⟨r₀, t, hFirst, hRest⟩
    exact Or.inl ⟨r₀, t,
      runs_attempt.mpr ⟨r₀, hFirst, rfl⟩, hRest⟩

end Effects

------------------------------------------------------------
-- Checked Outcomes
------------------------------------------------------------

namespace Effects

variable {ε ε' α β : Type}

theorem mapError_eq_ok_iff
    {f : ε → ε'}
    {x : Except ε α}
    {a : α} :
    x.mapError f = .ok a ↔ x = .ok a := by
  cases x with
  | ok b =>
      change Except.ok b = Except.ok a ↔ _
      rw [Except.ok.injEq, Except.ok.injEq]
  | error e =>
      constructor
      · intro hNo
        cases hNo
      · intro hNo
        cases hNo

theorem toOption_eq_some_iff
    {x : Except ε α}
    {a : α} :
    x.toOption = some a ↔ x = .ok a := by
  cases x with
  | ok b =>
      change some b = some a ↔ _
      rw [Option.some.injEq, Except.ok.injEq]
  | error e =>
      constructor
      · intro hNo
        cases hNo
      · intro hNo
        cases hNo

theorem map_eq_ok_iff
    {f : α → β}
    {x : Except ε α}
    {b : β} :
    x.map f = .ok b ↔ ∃ a, x = .ok a ∧ f a = b := by
  cases x with
  | ok a => simp [Except.map]
  | error e => simp [Except.map]

theorem bind_eq_ok_iff
    {x : Except ε α}
    {f : α → Except ε β}
    {b : β} :
    (x >>= f) = .ok b ↔ ∃ a, x = .ok a ∧ f a = .ok b := by
  cases x with
  | ok a =>
      constructor
      · intro hRest
        exact ⟨a, rfl, hRest⟩
      · intro hRest
        rcases hRest with ⟨a', hValue, hRest⟩
        cases hValue
        exact hRest
  | error e =>
      constructor
      · intro hNo
        cases hNo
      · intro hNo
        rcases hNo with ⟨a, hNo, _⟩
        cases hNo

end Effects

------------------------------------------------------------
-- Errors Of A Kind
------------------------------------------------------------

namespace Effects

variable {ε ε' α β : Type}

/- Every error of `x` satisfies `P`. -/
def ErrorsIn
    (P : ε → Prop)
    (x : Except ε α) : Prop :=
  ∀ e, x = .error e → P e

variable {P : ε → Prop}

theorem errorsIn_ok
    (a : α) :
    ErrorsIn P (.ok a) := by
  intro e hNo
  cases hNo

theorem errorsIn_error
    {e : ε}
    (hError : P e) :
    ErrorsIn P (.error e : Except ε α) := by
  intro e' hSame
  cases hSame
  exact hError

theorem ErrorsIn.bind
    {x : Except ε α}
    {f : α → Except ε β}
    (hFirst : ErrorsIn P x)
    (hRest : ∀ a, ErrorsIn P (f a)) :
    ErrorsIn P (x >>= f) := by
  cases x with
  | ok a => exact hRest a
  | error e => exact errorsIn_error (hFirst e rfl)

theorem ErrorsIn.map
    {x : Except ε α}
    (hErrors : ErrorsIn P x)
    (f : α → β) :
    ErrorsIn P (x.map f) := by
  cases x with
  | ok a => exact errorsIn_ok (f a)
  | error e => exact errorsIn_error (hErrors e rfl)

/- Translated errors are those that `f` yields. -/
theorem errorsIn_mapError
    {f : ε' → ε}
    (hErrors : ∀ e, P (f e))
    (x : Except ε' α) :
    ErrorsIn P (x.mapError f) := by
  cases x with
  | ok a => exact errorsIn_ok a
  | error e => exact errorsIn_error (hErrors e)

theorem errorsIn_ite
    {c : Prop}
    [Decidable c]
    {x y : Except ε α}
    (hThen : ErrorsIn P x)
    (hElse : ErrorsIn P y) :
    ErrorsIn P (if c then x else y) := by
  by_cases hCond : c
  · rw [if_pos hCond]
    exact hThen
  · rw [if_neg hCond]
    exact hElse

end Effects

------------------------------------------------------------
-- Programs On A Part Of The State
------------------------------------------------------------

namespace Effects

variable {ε ε' σ τ α β : Type}

/- Run a program on the part of the state that `view` shows. -/
def zoom
    (view : σ → τ)
    (put : τ → σ → σ)
    (x : EStateM ε τ α) : EStateM ε σ α :=
  fun s =>
    match x (view s) with
    | .ok a t => .ok a (put t s)
    | .error e t => .error e (put t s)

theorem runs_zoom
    {view : σ → τ}
    {put : τ → σ → σ}
    {x : EStateM ε τ α}
    {s s' : σ}
    {r : Except ε α} :
    Runs (zoom view put x) s r s' ↔
      ∃ t, Runs x (view s) r t ∧ s' = put t s := by
  unfold Runs zoom EStateM.run
  cases hRun : x (view s) with
  | ok a t =>
      simp only [hRun]
      constructor
      · rintro ⟨rfl, rfl⟩
        exact ⟨t, ⟨rfl, rfl⟩, rfl⟩
      · rintro ⟨t', ⟨rfl, rfl⟩, rfl⟩
        exact ⟨rfl, rfl⟩
  | error e t =>
      simp only [hRun]
      constructor
      · rintro ⟨rfl, rfl⟩
        exact ⟨t, ⟨rfl, rfl⟩, rfl⟩
      · rintro ⟨t', ⟨rfl, rfl⟩, rfl⟩
        exact ⟨rfl, rfl⟩

end Effects

------------------------------------------------------------
-- What Every Run Does
------------------------------------------------------------

namespace Effects

variable {ε ε' σ τ α β : Type}

/- However `x` ends, it leaves a state that `R` allows. -/
def Always
    (R : σ → σ → Prop)
    (x : EStateM ε σ α) : Prop :=
  ∀ s r s', Runs x s r s' → R s s'

variable {R : σ → σ → Prop}

theorem Always.pure
    (hRefl : ∀ s, R s s)
    (a : α) :
    Always R (Pure.pure a : EStateM ε σ α) := by
  intro s r s' hRun
  rw [(runs_pure.mp hRun).2]
  exact hRefl s

theorem Always.throw
    (hRefl : ∀ s, R s s)
    (e : ε) :
    Always R (MonadExcept.throw e : EStateM ε σ α) := by
  intro s r s' hRun
  rw [(runs_throw.mp hRun).2]
  exact hRefl s

theorem Always.ofOutcome
    (hRefl : ∀ s, R s s)
    (r : Except ε α) :
    Always R (Effects.ofOutcome r : EStateM ε σ α) := by
  intro s r' s' hRun
  rw [(runs_ofOutcome.mp hRun).2]
  exact hRefl s

theorem Always.modify
    {f : σ → σ}
    (hStep : ∀ s, R s (f s)) :
    Always R
      (MonadState.modifyGet (fun s => (PUnit.unit, f s)) :
        EStateM ε σ PUnit) := by
  intro s r s' hRun
  rw [hRun.2]
  exact hStep s

/- What holds of both parts, holds of them one by one. -/
theorem Always.andThen
    {P Q : σ → σ → Prop}
    {x : EStateM ε σ α}
    {f : α → EStateM ε σ β}
    (hFirst : Always P x)
    (hRest : ∀ a, Always Q (f a))
    (hBoth : ∀ s t u, P s t → Q t u → R s u)
    (hStop : ∀ s t, P s t → R s t) :
    Always R (x >>= f) := by
  intro s r s' hRun
  rcases runs_bind.mp hRun with
    ⟨a, t, hRun, hLater⟩ | ⟨_, hRun, _⟩
  · exact hBoth s t s' (hFirst s _ t hRun)
      (hRest a t r s' hLater)
  · exact hStop s s' (hFirst s _ s' hRun)

theorem Always.bind
    (hTrans : ∀ s t u, R s t → R t u → R s u)
    {x : EStateM ε σ α}
    {f : α → EStateM ε σ β}
    (hFirst : Always R x)
    (hRest : ∀ a, Always R (f a)) :
    Always R (x >>= f) :=
  hFirst.andThen hRest hTrans (fun _ _ hOnly => hOnly)

theorem Always.mono
    {P : σ → σ → Prop}
    {x : EStateM ε σ α}
    (hAlways : Always P x)
    (hLess : ∀ s t, P s t → R s t) :
    Always R x := by
  intro s r s' hRun
  exact hLess s s' (hAlways s r s' hRun)

theorem Always.adaptExcept
    {x : EStateM ε σ α}
    (hAlways : Always R x)
    (f : ε → ε') :
    Always R (EStateM.adaptExcept f x) := by
  intro s r s' hRun
  rcases runs_adaptExcept.mp hRun with ⟨r₀, hRun, _⟩
  exact hAlways s r₀ s' hRun

theorem Always.zoom
    {view : σ → τ}
    {put : τ → σ → σ}
    {P : τ → τ → Prop}
    {x : EStateM ε τ α}
    (hAlways : Always P x)
    (hPut : ∀ s t, P (view s) t → R s (put t s)) :
    Always R (Effects.zoom view put x) := by
  intro s r s' hRun
  rcases runs_zoom.mp hRun with ⟨t, hPart, rfl⟩
  exact hPut s t (hAlways _ r t hPart)

end Effects
