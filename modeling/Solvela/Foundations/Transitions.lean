import Mathlib.Data.List.Induction

/-
  Finite runs of a labelled transition relation, together
  with the labels they passed.

  An invariant may mention the history of labels: it then
  says what the state remembers of the run.

  Main declarations:
    * `LabelledRun`
    * `labelledRun_append`, `LabelledRun.of_mem`
    * `LabelledRun.invariant`
    * `LabelledRun.simulates`
    * `LabelledRun.filter`, `LabelledRun.eq_of_map_eq`
    * `Executes`, `exists_labelledRun`
    * `Observed`, `LabelledRun.observed`
    * `Shown`, `LabelledRun.follows`
-/

------------------------------------------------------------
-- Labelled Runs
------------------------------------------------------------

namespace Transitions

variable {σ ℓ : Type}

/- A run from `s` to `u` through the given labels, in order. -/
def LabelledRun
    (Step : σ → ℓ → σ → Prop) :
    σ → List ℓ → σ → Prop
| s, [], u => u = s
| s, l :: ls, u =>
    ∃ t, Step s l t ∧ LabelledRun Step t ls u

variable {Step : σ → ℓ → σ → Prop}

@[simp] theorem labelledRun_nil
    {s u : σ} :
    LabelledRun Step s [] u ↔ u = s :=
  Iff.rfl

@[simp] theorem labelledRun_cons
    {s u : σ}
    {l : ℓ}
    {ls : List ℓ} :
    LabelledRun Step s (l :: ls) u ↔
      ∃ t, Step s l t ∧ LabelledRun Step t ls u :=
  Iff.rfl

/- A run over joined labels passes a state in between. -/
theorem labelledRun_append
    {s u : σ}
    {ls₁ ls₂ : List ℓ} :
    LabelledRun Step s (ls₁ ++ ls₂) u ↔
      ∃ t, LabelledRun Step s ls₁ t ∧
        LabelledRun Step t ls₂ u := by
  induction ls₁ generalizing s with
  | nil => simp
  | cons l ls ih =>
      constructor
      · rintro ⟨t, hStep, hRest⟩
        rcases ih.mp hRest with ⟨m, hFirst, hSecond⟩
        exact ⟨m, ⟨t, hStep, hFirst⟩, hSecond⟩
      · rintro ⟨m, ⟨t, hStep, hFirst⟩, hSecond⟩
        exact ⟨t, hStep, ih.mpr ⟨m, hFirst, hSecond⟩⟩

/- A run whose last label is `l` ends with a step on `l`. -/
theorem labelledRun_snoc
    {s u : σ}
    {ls : List ℓ}
    {l : ℓ} :
    LabelledRun Step s (ls ++ [l]) u ↔
      ∃ t, LabelledRun Step s ls t ∧ Step t l u := by
  rw [labelledRun_append]
  simp

/- A run takes a step on each of its labels. -/
theorem LabelledRun.of_mem
    {s u : σ}
    {ls : List ℓ}
    {l : ℓ}
    (hRun : LabelledRun Step s ls u)
    (hMem : l ∈ ls) :
    ∃ past rest t v, ls = past ++ l :: rest ∧
      LabelledRun Step s past t ∧ Step t l v ∧
        LabelledRun Step v rest u := by
  rcases List.append_of_mem hMem with ⟨past, rest, rfl⟩
  rcases labelledRun_append.mp hRun with
    ⟨t, hPast, v, hStep, hRest⟩
  exact ⟨past, rest, t, v, rfl, hPast, hStep, hRest⟩

/-
  A property of histories and states that holds initially
  and is kept by each step holds after every run.
-/
theorem LabelledRun.invariant
    (Inv : List ℓ → σ → Prop)
    {s u : σ}
    {ls : List ℓ}
    (hRun : LabelledRun Step s ls u)
    (hInit : Inv [] s)
    (hKept :
      ∀ past t l v,
        LabelledRun Step s past t →
          Inv past t → Step t l v → Inv (past ++ [l]) v) :
    Inv ls u := by
  induction ls using List.reverseRecOn generalizing u with
  | nil =>
      rw [labelledRun_nil] at hRun
      rw [hRun]
      exact hInit
  | append_singleton past l ih =>
      rcases labelledRun_snoc.mp hRun with
        ⟨t, hPast, hStep⟩
      exact hKept past t l u hPast (ih hPast) hStep

/-
  If each step of a run, seen from outside, is a step of
  another relation, then so is the run.
-/
theorem LabelledRun.simulates
    {τ κ : Type}
    {Seen : τ → κ → τ → Prop}
    {view : σ → τ}
    {observe : ℓ → κ}
    {s u : σ}
    {ls : List ℓ}
    (hRun : LabelledRun Step s ls u)
    (hStep :
      ∀ t l v, l ∈ ls → Step t l v →
        Seen (view t) (observe l) (view v)) :
    LabelledRun Seen (view s) (ls.map observe) (view u) := by
  induction ls generalizing s with
  | nil =>
      rw [labelledRun_nil] at hRun
      rw [hRun]
      exact labelledRun_nil.mpr rfl
  | cons l ls ih =>
      rcases labelledRun_cons.mp hRun with ⟨t, hFirst, hRest⟩
      rw [List.map_cons]
      apply labelledRun_cons.mpr
      refine ⟨view t, ?_, ?_⟩
      · exact hStep s l t List.mem_cons_self hFirst
      · apply ih hRest
        intro t' l' v hMem
        exact hStep t' l' v (List.mem_cons_of_mem l hMem)

end Transitions

------------------------------------------------------------
-- Silent Steps And Determinism
------------------------------------------------------------

namespace Transitions

variable {σ τ ℓ κ : Type}
variable {Step : σ → ℓ → σ → Prop}
variable {Step' : τ → ℓ → τ → Prop}

/-
  A run is followed without its silent steps, when a related
  state takes the visible ones and stands still for the rest.
-/
theorem LabelledRun.filter
    (R : σ → τ → Prop)
    (visible : ℓ → Bool)
    {s u : σ}
    {s' : τ}
    {ls : List ℓ}
    (hRun : LabelledRun Step s ls u)
    (hRelated : R s s')
    (hVisible :
      ∀ t l v t', R t t' → visible l = true → Step t l v →
        ∃ v', Step' t' l v' ∧ R v v')
    (hSilent :
      ∀ t l v t', R t t' → visible l = false → Step t l v →
        R v t') :
    ∃ u', LabelledRun Step' s' (ls.filter visible) u' ∧
      R u u' := by
  induction ls generalizing s s' with
  | nil =>
      rw [labelledRun_nil] at hRun
      rw [hRun]
      exact ⟨s', rfl, hRelated⟩
  | cons l ls ih =>
      rcases labelledRun_cons.mp hRun with ⟨t, hStep, hRest⟩
      cases hCase : visible l with
      | true =>
          rcases hVisible s l t s' hRelated hCase hStep with
            ⟨t', hStep', hRelated'⟩
          rcases ih hRest hRelated' with ⟨u', hRest', hEnd⟩
          refine ⟨u', ?_, hEnd⟩
          rw [List.filter_cons_of_pos hCase]
          exact ⟨t', hStep', hRest'⟩
      | false =>
          have hNot : ¬ visible l = true := by
            rw [hCase]
            exact Bool.false_ne_true
          rw [List.filter_cons_of_neg hNot]
          exact ih hRest
            (hSilent s l t s' hRelated hCase hStep)

/- Runs on the same inputs pass the same labels. -/
theorem LabelledRun.eq_of_map_eq
    (input : ℓ → κ)
    {s u u' : σ}
    {ls ls' : List ℓ}
    (hRun : LabelledRun Step s ls u)
    (hRun' : LabelledRun Step s ls' u')
    (hInputs : ls.map input = ls'.map input)
    (hDetermined :
      ∀ t l l' v v', l ∈ ls → input l = input l' →
        Step t l v → Step t l' v' → l = l' ∧ v = v') :
    ls = ls' := by
  induction ls generalizing s ls' with
  | nil =>
      exact (List.map_eq_nil_iff.mp hInputs.symm).symm
  | cons l ls ih =>
      cases ls' with
      | nil => cases hInputs
      | cons l' ls' =>
          rw [List.map_cons, List.map_cons] at hInputs
          injection hInputs with hFirst hLater
          rcases labelledRun_cons.mp hRun with
            ⟨t, hStep, hRest⟩
          rcases labelledRun_cons.mp hRun' with
            ⟨t', hStep', hRest'⟩
          rcases hDetermined s l l' t t' List.mem_cons_self
              hFirst hStep hStep' with ⟨rfl, rfl⟩
          have hTail : ls = ls' := by
            apply ih hRest hRest' hLater
            intro w m m' v v' hMem
            exact hDetermined w m m' v v'
              (List.mem_cons_of_mem l hMem)
          rw [hTail]

end Transitions

------------------------------------------------------------
-- Executed Runs
------------------------------------------------------------

namespace Transitions

variable {σ ℓ : Type}

/- The steps that a function takes. -/
def Executes
    (f : σ → ℓ → Option σ)
    (s : σ)
    (l : ℓ)
    (t : σ) : Prop :=
  f s l = some t

/- Executing the labels in order is a run. -/
theorem labelledRun_of_foldlM
    {f : σ → ℓ → Option σ}
    {s u : σ}
    {ls : List ℓ}
    (hFold : ls.foldlM f s = some u) :
    LabelledRun (Executes f) s ls u := by
  induction ls generalizing s with
  | nil => exact (Option.some.inj hFold).symm
  | cons l ls ih =>
      rw [List.foldlM_cons] at hFold
      rcases Option.bind_eq_some_iff.mp hFold with
        ⟨t, hStep, hRest⟩
      exact ⟨t, hStep, ih hRest⟩

/- A run to a state of which only a test is computed. -/
theorem exists_labelledRun
    {f : σ → ℓ → Option σ}
    {s : σ}
    {ls : List ℓ}
    {p : σ → Bool}
    (hTest : (ls.foldlM f s).any p = true) :
    ∃ u, LabelledRun (Executes f) s ls u ∧ p u = true := by
  cases hFold : ls.foldlM f s with
  | none =>
      rw [hFold] at hTest
      cases hTest
  | some u =>
      rw [hFold] at hTest
      exact ⟨u, labelledRun_of_foldlM hFold, hTest⟩

end Transitions

------------------------------------------------------------
-- Observed Runs
------------------------------------------------------------

namespace Transitions

variable {σ ℓ κ : Type}
variable {Step : σ → ℓ → σ → Prop}

/- A step, with what is read off the state after it. -/
def Observed
    (Step : σ → ℓ → σ → Prop)
    (read : σ → κ)
    (s : σ)
    (l : ℓ × κ)
    (t : σ) : Prop :=
  Step s l.1 t ∧ l.2 = read t

/- Every run can be observed. -/
theorem LabelledRun.observed
    (read : σ → κ)
    {s u : σ}
    {ls : List ℓ}
    (hRun : LabelledRun Step s ls u) :
    ∃ os, os.map Prod.fst = ls ∧
      LabelledRun (Observed Step read) s os u := by
  induction ls generalizing s with
  | nil => exact ⟨[], rfl, hRun⟩
  | cons l ls ih =>
      rcases labelledRun_cons.mp hRun with ⟨t, hStep, hRest⟩
      rcases ih hRest with ⟨os, rfl, hObserved⟩
      exact ⟨(l, read t) :: os, rfl, t, ⟨hStep, rfl⟩,
        hObserved⟩

/- And an observed run is a run. -/
theorem unobserved
    {read : σ → κ}
    {s u : σ}
    {os : List (ℓ × κ)}
    (hRun : LabelledRun (Observed Step read) s os u) :
    LabelledRun Step s (os.map Prod.fst) u :=
  hRun.simulates (fun _ _ _ _ hStep => hStep.1)

end Transitions

------------------------------------------------------------
-- Shown Events
------------------------------------------------------------

namespace Transitions

variable {σ τ ℓ κ : Type}

/-
  The labels show the events, in order: each label shows one
  event or none.
-/
inductive Shown
    (Shows : ℓ → Option κ → Prop) :
    List ℓ → List κ → Prop where
  | nil : Shown Shows [] []
  | silent
      {l : ℓ}
      {ls : List ℓ}
      {ks : List κ}
      (hNone : Shows l none)
      (hRest : Shown Shows ls ks) :
      Shown Shows (l :: ls) ks
  | visible
      {l : ℓ}
      {ls : List ℓ}
      {k : κ}
      {ks : List κ}
      (hShows : Shows l (some k))
      (hRest : Shown Shows ls ks) :
      Shown Shows (l :: ls) (k :: ks)

variable {Step : σ → ℓ → σ → Prop}
variable {Step' : τ → κ → τ → Prop}
variable {Shows : ℓ → Option κ → Prop}

/-
  A run is followed by a run on the events it shows, when a
  related state stands still or takes a step with the event.
-/
theorem LabelledRun.follows
    (R : σ → τ → Prop)
    {s u : σ}
    {s' : τ}
    {ls : List ℓ}
    (hRun : LabelledRun Step s ls u)
    (hRelated : R s s')
    (hStep :
      ∀ t l v t', R t t' → Step t l v →
        (Shows l none ∧ R v t') ∨
          ∃ k v', Shows l (some k) ∧ Step' t' k v' ∧
            R v v') :
    ∃ ks u', Shown Shows ls ks ∧ LabelledRun Step' s' ks u' ∧
      R u u' := by
  induction ls generalizing s s' with
  | nil =>
      rw [labelledRun_nil] at hRun
      rw [hRun]
      exact ⟨[], s', .nil, rfl, hRelated⟩
  | cons l ls ih =>
      rcases labelledRun_cons.mp hRun with ⟨t, hFirst, hRest⟩
      rcases hStep s l t s' hRelated hFirst with
        ⟨hNone, hStill⟩ | ⟨k, t', hShows, hFirst', hNext⟩
      · rcases ih hRest hStill with ⟨ks, u', hShown, hRun', hEnd⟩
        exact ⟨ks, u', .silent hNone hShown, hRun', hEnd⟩
      · rcases ih hRest hNext with ⟨ks, u', hShown, hRun', hEnd⟩
        exact ⟨k :: ks, u', .visible hShows hShown,
          ⟨t', hFirst', hRun'⟩, hEnd⟩

/- One more label, with the event that it shows. -/
theorem Shown.snoc
    {ls : List ℓ}
    {ks : List κ}
    {l : ℓ}
    {k : κ}
    (hShown : Shown Shows ls ks)
    (hShows : Shows l (some k)) :
    Shown Shows (ls ++ [l]) (ks ++ [k]) := by
  induction hShown with
  | nil => exact .visible hShows .nil
  | silent hNone _ ih => exact .silent hNone ih
  | visible hFirst _ ih => exact .visible hFirst ih

/- An event is shown by a label, and cuts the labels there. -/
theorem Shown.split
    {ls : List ℓ}
    {before since : List κ}
    {k : κ}
    (hShown : Shown Shows ls (before ++ k :: since)) :
    ∃ first l after, ls = first ++ l :: after ∧
      Shows l (some k) ∧ Shown Shows first before ∧
        Shown Shows after since := by
  generalize hAll : before ++ k :: since = ks at hShown
  induction hShown generalizing before with
  | nil => exact absurd hAll (by simp)
  | @silent l ls ks hNone _ ih =>
      rcases ih hAll with
        ⟨first, l', after, rfl, hShows, hFirst, hAfter⟩
      exact ⟨l :: first, l', after, rfl, hShows,
        .silent hNone hFirst, hAfter⟩
  | @visible l ls k' ks hShows hRest ih =>
      cases before with
      | nil =>
          injection hAll with hEvent hSince
          subst hEvent hSince
          exact ⟨[], l, ls, rfl, hShows, .nil, hRest⟩
      | cons b before =>
          injection hAll with hEvent hSince
          subst hEvent
          rcases ih hSince with
            ⟨first, l', after, rfl, hShows', hFirst, hAfter⟩
          exact ⟨l :: first, l', after, rfl, hShows',
            .visible hShows hFirst, hAfter⟩

/- What is read off the labels is read off the events. -/
theorem Shown.filterMap_eq
    {γ : Type}
    {f : ℓ → Option γ}
    {g : κ → Option γ}
    {ls : List ℓ}
    {ks : List κ}
    (hShown : Shown Shows ls ks)
    (hNone : ∀ l, Shows l none → f l = none)
    (hSome : ∀ l k, Shows l (some k) → f l = g k) :
    ls.filterMap f = ks.filterMap g := by
  induction hShown with
  | nil => rfl
  | silent hSilent _ ih =>
      rw [List.filterMap_cons_none (hNone _ hSilent)]
      exact ih
  | visible hShows _ ih =>
      rw [List.filterMap_cons, List.filterMap_cons,
        hSome _ _ hShows, ih]

/- Each label shows one of the events, or none. -/
theorem Shown.of_mem
    {ls : List ℓ}
    {ks : List κ}
    {l : ℓ}
    (hShown : Shown Shows ls ks)
    (hMem : l ∈ ls) :
    Shows l none ∨ ∃ k ∈ ks, Shows l (some k) := by
  induction hShown with
  | nil => cases hMem
  | silent hNone _ ih =>
      rcases List.mem_cons.mp hMem with rfl | hLater
      · exact Or.inl hNone
      · exact ih hLater
  | visible hShows _ ih =>
      rcases List.mem_cons.mp hMem with rfl | hLater
      · exact Or.inr ⟨_, List.mem_cons_self, hShows⟩
      · rcases ih hLater with hNone | ⟨k, hIn, hShows'⟩
        · exact Or.inl hNone
        · exact Or.inr
            ⟨k, List.mem_cons_of_mem _ hIn, hShows'⟩

end Transitions
