import Mathlib.Algebra.BigOperators.Group.Finset.Piecewise
import Mathlib.Algebra.GroupWithZero.Nat
import Mathlib.Algebra.Order.BigOperators.Group.Finset
import Solvela.Foundations.Dialogues

/-
  Interleavings of dialogues over a shared state.

  Each step lets one task of a pool ask its next question; how
  it is answered, and what that does to the shared state, is
  up to a relation.  A task that takes no more turns has been
  dropped.

  Main declarations:
    * `Pool`, `PoolStep`, `ownPart`
    * `acts_of_run`, `plays_of_run`
    * `run_split`
    * `sum_eq_sum_ownPart`
    * `exists_run_of_plays`
    * `length_le_of_run`, `exists_yields`
-/

------------------------------------------------------------
-- Pools
------------------------------------------------------------

namespace Dialogues

open Transitions

/- Some tasks and the state they share. -/
structure Pool
    (σ ι : Type)
    (Q : Type)
    (A : Q → Type)
    (α : Type) where
  shared : σ
  tasks : ι → Dialogue Q A α

variable {σ ι Q α : Type} {A : Q → Type}
variable [DecidableEq ι]

/- A turn of one of the tasks. -/
inductive PoolStep
    (Acts : σ → Turn Q A → σ → Prop) :
    Pool σ ι Q A α → ι × Turn Q A → Pool σ ι Q A α → Prop where
  | turn
      {p : Pool σ ι Q A α}
      {i : ι}
      {q : Q}
      {a : A q}
      {next : A q → Dialogue Q A α}
      {s : σ}
      (hTask : p.tasks i = .ask q next)
      (hActs : Acts p.shared ⟨q, a⟩ s) :
      PoolStep Acts p (i, ⟨q, a⟩)
        { shared := s
          tasks := Function.update p.tasks i (next a) }

/- The part of a tagged list that belongs to one task. -/
def ownPart
    {β : Type}
    (i : ι)
    (ls : List (ι × β)) : List β :=
  ls.filterMap
    (fun l => if l.1 = i then some l.2 else none)

variable {β : Type}

@[simp] theorem ownPart_nil
    (i : ι) :
    ownPart i ([] : List (ι × β)) = [] := by
  rfl

@[simp] theorem ownPart_append
    (i : ι)
    (first second : List (ι × β)) :
    ownPart i (first ++ second) =
      ownPart i first ++ ownPart i second :=
  List.filterMap_append

theorem ownPart_cons_self
    (i : ι)
    (e : β)
    (ls : List (ι × β)) :
    ownPart i ((i, e) :: ls) = e :: ownPart i ls :=
  List.filterMap_cons_some (if_pos rfl)

theorem ownPart_cons_of_ne
    {i : ι}
    {l : ι × β}
    (hNe : l.1 ≠ i)
    (ls : List (ι × β)) :
    ownPart i (l :: ls) = ownPart i ls :=
  List.filterMap_cons_none (if_neg hNe)

theorem mem_ownPart_iff
    {i : ι}
    {e : β}
    {ls : List (ι × β)} :
    e ∈ ownPart i ls ↔ (i, e) ∈ ls := by
  unfold ownPart
  rw [List.mem_filterMap]
  constructor
  · rintro ⟨⟨j, e'⟩, hMem, hOwn⟩
    by_cases hSame : j = i
    · rw [if_pos hSame] at hOwn
      cases hOwn
      rw [← hSame]
      exact hMem
    · rw [if_neg hSame] at hOwn
      cases hOwn
  · intro hMem
    exact ⟨(i, e), hMem, if_pos rfl⟩

/- A tagged list can be cut at any element of a task. -/
theorem ownPart_split
    {i : ι}
    {ls : List (ι × β)}
    {before after : List β}
    {e : β}
    (hOwn : ownPart i ls = before ++ e :: after) :
    ∃ past rest, ls = past ++ (i, e) :: rest ∧
      ownPart i past = before ∧ ownPart i rest = after := by
  induction ls generalizing before with
  | nil =>
      rw [ownPart_nil] at hOwn
      exact absurd hOwn (by simp)
  | cons l ls ih =>
      by_cases hSame : l.1 = i
      · rcases l with ⟨j, e'⟩
        cases hSame
        rw [ownPart_cons_self] at hOwn
        cases before with
        | nil =>
            injection hOwn with hFirst hRest
            exact ⟨[], ls, by rw [hFirst]; rfl, rfl, hRest⟩
        | cons b before =>
            injection hOwn with hFirst hRest
            rcases ih hRest with ⟨past, rest, rfl, rfl, rfl⟩
            refine ⟨(j, b) :: past, rest, ?_,
              ownPart_cons_self j b past, rfl⟩
            rw [hFirst]
            rfl
      · rw [ownPart_cons_of_ne hSame] at hOwn
        rcases ih hOwn with ⟨past, rest, rfl, rfl, rfl⟩
        exact ⟨l :: past, rest, rfl,
          ownPart_cons_of_ne hSame past, rfl⟩

end Dialogues

------------------------------------------------------------
-- Runs Of A Pool
------------------------------------------------------------

namespace Dialogues

open Transitions

variable {σ ι Q α : Type} {A : Q → Type}
variable [DecidableEq ι]
variable {Acts : σ → Turn Q A → σ → Prop}
variable {p p' : Pool σ ι Q A α}
variable {ls : List (ι × Turn Q A)}

/- The shared state goes through the turns of all tasks. -/
theorem acts_of_run
    (hRun : LabelledRun (PoolStep Acts) p ls p') :
    LabelledRun Acts p.shared (ls.map Prod.snd) p'.shared := by
  apply hRun.simulates
  intro t l v _ hStep
  cases hStep with
  | turn _ hActs => exact hActs

/- Each task goes through its own turns. -/
theorem plays_of_run
    (hRun : LabelledRun (PoolStep Acts) p ls p')
    (i : ι) :
    Plays (p.tasks i) (ownPart i ls) (p'.tasks i) := by
  induction ls generalizing p with
  | nil =>
      rw [labelledRun_nil] at hRun
      rw [hRun]
      rfl
  | cons l ls ih =>
      rcases labelledRun_cons.mp hRun with ⟨t, hStep, hRest⟩
      have hLater := ih hRest
      cases hStep with
      | @turn j q a next s hTask hActs =>
          by_cases hSame : j = i
          · subst hSame
            rw [ownPart_cons_self]
            simp only [Function.update_self] at hLater
            exact ⟨next, hTask, hLater⟩
          · rw [ownPart_cons_of_ne hSame]
            simp only [Function.update_of_ne
              (Ne.symm hSame)] at hLater
            exact hLater

/- A run can be cut at any turn of a task. -/
theorem run_split
    {i : ι}
    {before after : List (Turn Q A)}
    {e : Turn Q A}
    (hRun : LabelledRun (PoolStep Acts) p ls p')
    (hOwn : ownPart i ls = before ++ e :: after) :
    ∃ past rest t v, ls = past ++ (i, e) :: rest ∧
      ownPart i past = before ∧ ownPart i rest = after ∧
        LabelledRun (PoolStep Acts) p past t ∧
          PoolStep Acts t (i, e) v ∧
            LabelledRun (PoolStep Acts) v rest p' := by
  rcases ownPart_split hOwn with
    ⟨past, rest, rfl, hBefore, hAfter⟩
  rcases labelledRun_append.mp hRun with
    ⟨t, hPast, v, hStep, hRest⟩
  exact ⟨past, rest, t, v, rfl, hBefore, hAfter, hPast, hStep,
    hRest⟩

/- One task alone can go through what its dialogue plays. -/
theorem exists_run_of_plays
    {i : ι}
    {es : List (Turn Q A)}
    {u : Dialogue Q A α}
    {s : σ}
    (hPlays : Plays (p.tasks i) es u)
    (hActs : LabelledRun Acts p.shared es s) :
    LabelledRun (PoolStep Acts) p (es.map (fun e => (i, e)))
      { shared := s, tasks := Function.update p.tasks i u } := by
  induction es generalizing p with
  | nil =>
      rw [labelledRun_nil] at hActs
      rw [hActs, show u = p.tasks i from hPlays,
        Function.update_eq_self]
      rfl
  | cons e es ih =>
      rcases hPlays with ⟨next, hTask, hLater⟩
      rcases hActs with ⟨t, hFirst, hRest⟩
      rcases e with ⟨q, a⟩
      refine ⟨_, .turn hTask hFirst, ?_⟩
      have hRun := ih
        (p := { shared := t
                tasks := Function.update p.tasks i (next a) })
        (by simp only [Function.update_self]; exact hLater)
        hRest
      simp only [Function.update_idem] at hRun
      exact hRun

end Dialogues

------------------------------------------------------------
-- Progress
------------------------------------------------------------

namespace Dialogues

open Transitions

variable {σ ι Q α : Type} {A : Q → Type}
variable [DecidableEq ι]
variable {Acts : σ → Turn Q A → σ → Prop}
variable {p p' : Pool σ ι Q A α}
variable {ls : List (ι × Turn Q A)}

/- What is summed over a run is summed task by task. -/
theorem sum_eq_sum_ownPart
    [Fintype ι]
    (f : Turn Q A → Nat)
    (ls : List (ι × Turn Q A)) :
    (ls.map (fun l => f l.2)).sum =
      ∑ i, ((ownPart i ls).map f).sum := by
  induction ls with
  | nil => simp
  | cons l ls ih =>
      have hEach : ∀ i, ((ownPart i (l :: ls)).map f).sum =
          (if l.1 = i then f l.2 else 0) +
            ((ownPart i ls).map f).sum := by
        intro i
        by_cases hSame : l.1 = i
        · rcases l with ⟨j, e⟩
          cases hSame
          rw [ownPart_cons_self, if_pos rfl, List.map_cons,
            List.sum_cons]
        · rw [ownPart_cons_of_ne hSame, if_neg hSame,
            Nat.zero_add]
      rw [Finset.sum_congr rfl (fun i _ => hEach i),
        Finset.sum_add_distrib, ← ih, Finset.sum_ite_eq,
        if_pos (Finset.mem_univ l.1), List.map_cons,
        List.sum_cons]

theorem length_eq_sum_ownPart
    [Fintype ι]
    (ls : List (ι × Turn Q A)) :
    ls.length = ∑ i, (ownPart i ls).length := by
  have hSum := sum_eq_sum_ownPart (fun _ => 1) ls
  simpa using hSum

/- Bounded tasks make for a bounded run. -/
theorem length_le_of_run
    [Fintype ι]
    {bound : ι → Nat}
    (hRun : LabelledRun (PoolStep Acts) p ls p')
    (hBound : ∀ i, Within (bound i) (p.tasks i)) :
    ls.length ≤ ∑ i, bound i := by
  rw [length_eq_sum_ownPart]
  apply Finset.sum_le_sum
  intro i _
  exact hBound i _ _ (plays_of_run hRun i)

/- A dialogue whose questions are answered has an end. -/
theorem exists_yields
    (hTotal : ∀ s q, ∃ a s', Acts s ⟨q, a⟩ s')
    (t : Dialogue Q A α)
    (s : σ) :
    ∃ es a s', Yields t es a ∧ LabelledRun Acts s es s' := by
  induction t generalizing s with
  | done a => exact ⟨[], a, s, rfl, rfl⟩
  | ask q next ih =>
      rcases hTotal s q with ⟨a, s', hActs⟩
      rcases ih a s' with ⟨es, b, u, hRest, hRun⟩
      exact ⟨⟨q, a⟩ :: es, b, u,
        yields_ask.mpr ⟨a, es, rfl, hRest⟩, s', hActs, hRun⟩

end Dialogues
