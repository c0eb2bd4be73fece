import Mathlib.Logic.Equiv.Defs
import Solvela.Foundations.Effects
import Solvela.Foundations.Transitions

/-
  Computations that ask questions and go on with the answers.

  A dialogue says what is asked next after every answer, and
  leaves open who answers.  Played out, it leaves a list of
  turns; answered by a handler, it is a program over the
  handler's state.

  Main declarations:
    * `Dialogue`, `Turn`, `Plays`, `Yields`
    * `yields_bind`, `Plays.completes`
    * `Dialogue.translate`, `yields_translate`
    * `Within`, `Within.bind`, `Within.translate`
    * `perform`, `perform_bind`, `runs_perform`
-/

------------------------------------------------------------
-- Dialogues
------------------------------------------------------------

namespace Dialogues

/- Done with a value, or a question and what follows it. -/
inductive Dialogue
    (Q : Type)
    (A : Q → Type)
    (α : Type) where
  | done (a : α)
  | ask (q : Q) (next : A q → Dialogue Q A α)

/- A question with its answer. -/
abbrev Turn
    (Q : Type)
    (A : Q → Type) :=
  (q : Q) × A q

variable {Q : Type} {A : Q → Type} {α β : Type}

namespace Dialogue

/- Go on with the value once it is there. -/
def bind
    (t : Dialogue Q A α)
    (f : α → Dialogue Q A β) : Dialogue Q A β :=
  match t with
  | .done a => f a
  | .ask q next => .ask q (fun a => (next a).bind f)

instance : Monad (Dialogue Q A) where
  pure := .done
  bind := Dialogue.bind

/- Ask one question and return its answer. -/
def query
    (q : Q) : Dialogue Q A (A q) :=
  .ask q .done

@[simp] theorem done_bind
    (a : α)
    (f : α → Dialogue Q A β) :
    (Dialogue.done a : Dialogue Q A α) >>= f = f a := by
  rfl

@[simp] theorem ask_bind
    (q : Q)
    (next : A q → Dialogue Q A α)
    (f : α → Dialogue Q A β) :
    (Dialogue.ask q next >>= f) =
      .ask q (fun a => next a >>= f) := by
  rfl

end Dialogue

end Dialogues

------------------------------------------------------------
-- Playing A Dialogue
------------------------------------------------------------

namespace Dialogues

variable {Q : Type} {A : Q → Type} {α β : Type}

/- After the turns, `t` goes on as `u`. -/
def Plays :
    Dialogue Q A α → List (Turn Q A) → Dialogue Q A α → Prop
| t, [], u => u = t
| t, e :: es, u =>
    ∃ next, t = .ask e.1 next ∧ Plays (next e.2) es u

/- The turns lead `t` to the value `a`. -/
def Yields
    (t : Dialogue Q A α)
    (es : List (Turn Q A))
    (a : α) : Prop :=
  Plays t es (.done a)

theorem plays_append
    {t u : Dialogue Q A α}
    {first second : List (Turn Q A)} :
    Plays t (first ++ second) u ↔
      ∃ v, Plays t first v ∧ Plays v second u := by
  induction first generalizing t with
  | nil =>
      constructor
      · intro hPlays
        exact ⟨t, rfl, hPlays⟩
      · rintro ⟨v, rfl, hPlays⟩
        exact hPlays
  | cons e es ih =>
      constructor
      · rintro ⟨next, rfl, hPlays⟩
        rcases ih.mp hPlays with ⟨v, hFirst, hSecond⟩
        exact ⟨v, ⟨next, rfl, hFirst⟩, hSecond⟩
      · rintro ⟨v, ⟨next, rfl, hFirst⟩, hSecond⟩
        exact ⟨next, rfl, ih.mpr ⟨v, hFirst, hSecond⟩⟩

/- The turns say how the dialogue goes on. -/
theorem Plays.unique
    {t u v : Dialogue Q A α}
    {es : List (Turn Q A)}
    (hPlays : Plays t es u)
    (hPlays' : Plays t es v) :
    u = v := by
  induction es generalizing t with
  | nil => exact hPlays.trans hPlays'.symm
  | cons e es ih =>
      rcases hPlays with ⟨next, hSame, hRest⟩
      rcases hPlays' with ⟨next', hSame', hRest'⟩
      rw [hSame] at hSame'
      cases hSame'
      exact ih hRest hRest'

/- A dialogue that is done takes no turns. -/
theorem plays_done
    {a : α}
    {es : List (Turn Q A)}
    {u : Dialogue Q A α} :
    Plays (.done a) es u ↔ es = [] ∧ u = .done a := by
  cases es with
  | nil =>
      exact (and_iff_right rfl).symm
  | cons e es =>
      constructor
      · rintro ⟨next, hNo, _⟩
        cases hNo
      · rintro ⟨hNo, _⟩
        cases hNo

theorem yields_done
    {a b : α}
    {es : List (Turn Q A)} :
    Yields (.done a : Dialogue Q A α) es b ↔
      es = [] ∧ b = a := by
  unfold Yields
  rw [plays_done, Dialogue.done.injEq]

theorem yields_pure
    {a b : α}
    {es : List (Turn Q A)} :
    Yields (pure a : Dialogue Q A α) es b ↔
      es = [] ∧ b = a :=
  yields_done

theorem yields_ask
    {q : Q}
    {next : A q → Dialogue Q A α}
    {es : List (Turn Q A)}
    {b : α} :
    Yields (.ask q next) es b ↔
      ∃ a rest, es = ⟨q, a⟩ :: rest ∧
        Yields (next a) rest b := by
  constructor
  · intro hYields
    cases es with
    | nil => cases hYields
    | cons e es =>
        rcases hYields with ⟨next', hSame, hRest⟩
        rcases e with ⟨q', a⟩
        cases hSame
        exact ⟨a, es, rfl, hRest⟩
  · rintro ⟨a, rest, rfl, hRest⟩
    exact ⟨next, rfl, hRest⟩

/- The turns of a sequence are those of its two parts. -/
theorem yields_bind
    {t : Dialogue Q A α}
    {f : α → Dialogue Q A β}
    {es : List (Turn Q A)}
    {b : β} :
    Yields (t >>= f) es b ↔
      ∃ first second a, es = first ++ second ∧
        Yields t first a ∧ Yields (f a) second b := by
  induction t generalizing es with
  | done a =>
      rw [Dialogue.done_bind]
      constructor
      · intro hRest
        exact ⟨[], es, a, rfl, yields_done.mpr ⟨rfl, rfl⟩,
          hRest⟩
      · rintro ⟨first, second, a', rfl, hFirst, hRest⟩
        rcases yields_done.mp hFirst with ⟨rfl, rfl⟩
        exact hRest
  | ask q next ih =>
      rw [Dialogue.ask_bind, yields_ask]
      constructor
      · rintro ⟨a, rest, rfl, hRest⟩
        rcases (ih a).mp hRest with
          ⟨first, second, b', rfl, hFirst, hSecond⟩
        exact ⟨⟨q, a⟩ :: first, second, b', rfl,
          yields_ask.mpr ⟨a, first, rfl, hFirst⟩, hSecond⟩
      · rintro ⟨first, second, b', rfl, hFirst, hSecond⟩
        rcases yields_ask.mp hFirst with
          ⟨a, rest, rfl, hRest⟩
        exact ⟨a, rest ++ second, rfl,
          (ih a).mpr ⟨rest, second, b', rfl, hRest, hSecond⟩⟩

/- The value may be changed once it is there. -/
theorem yields_map
    {t : Dialogue Q A α}
    {f : α → β}
    {es : List (Turn Q A)}
    {b : β} :
    Yields (t >>= fun a => pure (f a)) es b ↔
      ∃ a, Yields t es a ∧ b = f a := by
  rw [yields_bind]
  constructor
  · rintro ⟨first, second, a, rfl, hFirst, hEnd⟩
    rcases yields_pure.mp hEnd with ⟨rfl, rfl⟩
    rw [List.append_nil]
    exact ⟨a, hFirst, rfl⟩
  · rintro ⟨a, hYields, rfl⟩
    exact ⟨es, [], a, (List.append_nil es).symm, hYields,
      yields_pure.mpr ⟨rfl, rfl⟩⟩

theorem Yields.map
    {t : Dialogue Q A α}
    {es : List (Turn Q A)}
    {a : α}
    (hYields : Yields t es a)
    (f : α → β) :
    Yields (t >>= fun a => pure (f a)) es (f a) :=
  yields_map.mpr ⟨a, hYields, rfl⟩

/-
  With an answer to every question, what has been played can
  be played to its end.
-/
theorem Plays.completes
    (answer : ∀ q, A q)
    {t u : Dialogue Q A α}
    {es : List (Turn Q A)}
    (hPlays : Plays t es u) :
    ∃ rest a, Yields t (es ++ rest) a := by
  have hEnds : ∃ rest a, Yields u rest a := by
    clear hPlays
    induction u with
    | done a => exact ⟨[], a, rfl⟩
    | ask q next ih =>
        rcases ih (answer q) with ⟨rest, a, hRest⟩
        exact ⟨⟨q, answer q⟩ :: rest, a, next, rfl, hRest⟩
  rcases hEnds with ⟨rest, a, hRest⟩
  exact ⟨rest, a, plays_append.mpr ⟨u, hPlays, hRest⟩⟩

end Dialogues

------------------------------------------------------------
-- Questions Among Others
------------------------------------------------------------

namespace Dialogues

variable {Q R : Type} {A : Q → Type} {B : R → Type}
variable {α β : Type}

/- Questions of one kind, as some of another kind. -/
structure Among
    (A : Q → Type)
    (B : R → Type) where
  ask : Q → R
  answer : ∀ q, B (ask q) ≃ A q

/- The turn as one of the other kind. -/
def Among.turn
    (g : Among A B)
    (e : Turn Q A) : Turn R B :=
  ⟨g.ask e.1, (g.answer e.1).symm e.2⟩

/- The same dialogue over the other questions. -/
def Dialogue.translate
    (g : Among A B) :
    Dialogue Q A α → Dialogue R B α
| .done a => .done a
| .ask q next =>
    .ask (g.ask q)
      (fun b => (next (g.answer q b)).translate g)

theorem yields_translate
    {g : Among A B}
    {t : Dialogue Q A α}
    {es : List (Turn R B)}
    {a : α} :
    Yields (t.translate g) es a ↔
      ∃ own, es = own.map g.turn ∧ Yields t own a := by
  induction t generalizing es with
  | done b =>
      unfold Dialogue.translate
      rw [yields_done]
      constructor
      · rintro ⟨rfl, rfl⟩
        exact ⟨[], rfl, rfl⟩
      · rintro ⟨own, rfl, hDone⟩
        rcases yields_done.mp hDone with ⟨rfl, rfl⟩
        exact ⟨rfl, rfl⟩
  | ask q next ih =>
      unfold Dialogue.translate
      rw [yields_ask]
      constructor
      · rintro ⟨b, rest, rfl, hRest⟩
        rcases (ih (g.answer q b)).mp hRest with
          ⟨own, rfl, hOwn⟩
        refine ⟨⟨q, g.answer q b⟩ :: own, ?_,
          yields_ask.mpr ⟨_, _, rfl, hOwn⟩⟩
        rw [List.map_cons, Among.turn,
          Equiv.symm_apply_apply]
      · rintro ⟨own, rfl, hOwn⟩
        rcases yields_ask.mp hOwn with ⟨b, rest, rfl, hRest⟩
        refine ⟨(g.answer q).symm b, rest.map g.turn, rfl, ?_⟩
        rw [Equiv.apply_symm_apply]
        exact (ih b).mpr ⟨rest, rfl, hRest⟩

end Dialogues

------------------------------------------------------------
-- Bounded Dialogues
------------------------------------------------------------

namespace Dialogues

variable {Q : Type} {A : Q → Type} {α β : Type}

/- Whatever the answers, `t` asks at most `n` questions. -/
def Within
    (n : Nat)
    (t : Dialogue Q A α) : Prop :=
  ∀ es u, Plays t es u → es.length ≤ n

theorem within_done
    (n : Nat)
    (a : α) :
    Within n (.done a : Dialogue Q A α) := by
  intro es u hPlays
  rw [(plays_done.mp hPlays).1]
  exact Nat.zero_le n

theorem within_ask
    {n : Nat}
    {q : Q}
    {next : A q → Dialogue Q A α}
    (hNext : ∀ a, Within n (next a)) :
    Within (n + 1) (.ask q next) := by
  intro es u hPlays
  cases es with
  | nil => exact Nat.zero_le _
  | cons e es =>
      rcases hPlays with ⟨next', hSame, hRest⟩
      rcases e with ⟨q', a⟩
      cases hSame
      exact Nat.succ_le_succ (hNext a es u hRest)

theorem Within.mono
    {m n : Nat}
    {t : Dialogue Q A α}
    (hWithin : Within m t)
    (hLe : m ≤ n) :
    Within n t := by
  intro es u hPlays
  exact Nat.le_trans (hWithin es u hPlays) hLe

/- The rest of a dialogue is shorter. -/
theorem Within.next
    {n : Nat}
    {q : Q}
    {next : A q → Dialogue Q A α}
    (hWithin : Within n (.ask q next))
    (a : A q) :
    0 < n ∧ Within (n - 1) (next a) := by
  have hOne : 1 ≤ n :=
    hWithin [⟨q, a⟩] (next a) ⟨next, rfl, rfl⟩
  refine ⟨hOne, ?_⟩
  intro es u hPlays
  have hAll := hWithin (⟨q, a⟩ :: es) u ⟨next, rfl, hPlays⟩
  rw [List.length_cons] at hAll
  omega

theorem Within.bind
    {m n : Nat}
    {t : Dialogue Q A α}
    {f : α → Dialogue Q A β}
    (hFirst : Within m t)
    (hRest : ∀ a, Within n (f a)) :
    Within (m + n) (t >>= f) := by
  induction t generalizing m with
  | done a =>
      rw [Dialogue.done_bind]
      exact (hRest a).mono (Nat.le_add_left n m)
  | ask q next ih =>
      rw [Dialogue.ask_bind]
      intro es u hPlays
      cases es with
      | nil => exact Nat.zero_le _
      | cons e es =>
          rcases hPlays with ⟨next', hSame, hLater⟩
          rcases e with ⟨q', a⟩
          cases hSame
          rcases hFirst.next a with ⟨hPositive, hNext⟩
          have hLe := ih a hNext es u hLater
          rw [List.length_cons]
          omega

/- Other questions are no more questions. -/
theorem Within.translate
    {R : Type}
    {B : R → Type}
    {g : Among A B}
    {n : Nat}
    {t : Dialogue Q A α}
    (hWithin : Within n t) :
    Within n (t.translate g) := by
  induction t generalizing n with
  | done a => exact within_done n a
  | ask q next ih =>
      unfold Dialogue.translate
      intro es u hPlays
      cases es with
      | nil => exact Nat.zero_le n
      | cons e es =>
          rcases hPlays with ⟨next', hSame, hLater⟩
          rcases e with ⟨q', b⟩
          cases hSame
          rcases hWithin.next (g.answer q b) with
            ⟨hPositive, hNext⟩
          have hLe := ih _ hNext es u hLater
          rw [List.length_cons]
          omega

variable {ε ε' : Type}

/- A fallible dialogue goes on only after a value. -/
theorem Within.andThen
    {m n : Nat}
    {t : ExceptT ε (Dialogue Q A) α}
    {f : α → ExceptT ε (Dialogue Q A) β}
    (hFirst : Within m t.run)
    (hRest : ∀ a, Within n (f a).run) :
    Within (m + n) (t >>= f).run := by
  apply Within.bind hFirst
  intro r
  cases r with
  | ok a => exact hRest a
  | error err => exact within_done n _

theorem Within.adapt
    {n : Nat}
    {t : ExceptT ε (Dialogue Q A) α}
    (hWithin : Within n t.run)
    (f : ε → ε') :
    Within n (ExceptT.adapt f t).run :=
  hWithin.bind (n := 0) (fun _ => within_done 0 _)

end Dialogues

------------------------------------------------------------
-- Handlers
------------------------------------------------------------

namespace Dialogues

open Effects Transitions

variable {Q : Type} {A : Q → Type} {α β ε ε' σ : Type}

/- The answer to each question in a state, and the state after. -/
abbrev Handler
    (Q : Type)
    (A : Q → Type)
    (σ : Type) :=
  (q : Q) → σ → A q × σ

/- The turns that a handler gives. -/
def Handles
    (handler : Handler Q A σ)
    (s : σ)
    (e : Turn Q A)
    (t : σ) : Prop :=
  handler e.1 s = (e.2, t)

/- Let the handler answer every question. -/
def interpret
    (handler : Handler Q A σ) :
    Dialogue Q A α → σ → α × σ
| .done a, s => (a, s)
| .ask q next, s =>
    interpret handler (next (handler q s).1) (handler q s).2

/- An outcome with its state, as the result of a program. -/
def settle
    (end' : Except ε α × σ) : EStateM.Result ε σ α :=
  match end'.1 with
  | .ok a => .ok a end'.2
  | .error e => .error e end'.2

/- A fallible dialogue as a program of the handler's state. -/
def perform
    (handler : Handler Q A σ)
    (t : ExceptT ε (Dialogue Q A) α) : EStateM ε σ α :=
  fun s => settle (interpret handler t.run s)

theorem interpret_eq_iff
    {handler : Handler Q A σ}
    {t : Dialogue Q A α}
    {s s' : σ}
    {a : α} :
    interpret handler t s = (a, s') ↔
      ∃ es, Yields t es a ∧
        LabelledRun (Handles handler) s es s' := by
  induction t generalizing s with
  | done b =>
      constructor
      · intro hEnd
        cases hEnd
        exact ⟨[], rfl, rfl⟩
      · rintro ⟨es, hDone, hRun⟩
        rcases yields_done.mp hDone with ⟨rfl, rfl⟩
        rw [labelledRun_nil.mp hRun]
        rfl
  | ask q next ih =>
      constructor
      · intro hEnd
        rcases (ih _).mp hEnd with ⟨es, hYields, hRun⟩
        exact ⟨⟨q, _⟩ :: es,
          yields_ask.mpr ⟨_, es, rfl, hYields⟩, _, rfl, hRun⟩
      · rintro ⟨es, hAsk, hRun⟩
        rcases yields_ask.mp hAsk with ⟨b, rest, rfl, hRest⟩
        rcases hRun with ⟨t, hHandles, hLater⟩
        unfold interpret
        rw [show handler q s = (b, t) from hHandles]
        exact (ih b).mpr ⟨rest, hRest, hLater⟩

/- The runs of the program are the handled dialogues. -/
theorem runs_perform
    {handler : Handler Q A σ}
    {t : ExceptT ε (Dialogue Q A) α}
    {s s' : σ}
    {r : Except ε α} :
    Runs (perform handler t) s r s' ↔
      ∃ es, Yields t.run es r ∧
        LabelledRun (Handles handler) s es s' := by
  rw [← interpret_eq_iff]
  have hSettled :
      (perform handler t).run s =
        settle (interpret handler t.run s) := rfl
  unfold Runs
  rw [hSettled]
  rcases interpret handler t.run s with ⟨r', t'⟩
  cases r' with
  | ok a =>
      constructor
      · rintro ⟨rfl, rfl⟩
        rfl
      · intro hSame
        cases hSame
        exact ⟨rfl, rfl⟩
  | error e =>
      constructor
      · rintro ⟨rfl, rfl⟩
        rfl
      · intro hSame
        cases hSame
        exact ⟨rfl, rfl⟩

theorem perform_apply
    (handler : Handler Q A σ)
    (t : ExceptT ε (Dialogue Q A) α)
    (s : σ) :
    perform handler t s =
      settle (interpret handler t.run s) := by
  rfl

theorem interpret_bind
    (handler : Handler Q A σ)
    (t : Dialogue Q A α)
    (f : α → Dialogue Q A β)
    (s : σ) :
    interpret handler (t >>= f) s =
      interpret handler (f (interpret handler t s).1)
        (interpret handler t s).2 := by
  induction t generalizing s with
  | done a => rfl
  | ask q next ih => exact ih _ _

theorem perform_bind
    (handler : Handler Q A σ)
    (t : ExceptT ε (Dialogue Q A) α)
    (f : α → ExceptT ε (Dialogue Q A) β) :
    perform handler (t >>= f) =
      perform handler t >>= fun a => perform handler (f a) := by
  funext s
  have hStart :
      perform handler (t >>= f) s =
        settle (interpret handler
          (t.run >>= ExceptT.bindCont f) s) := rfl
  have hBind :
      (perform handler t >>= fun a => perform handler (f a)) s =
        EStateM.bind (perform handler t)
          (fun a => perform handler (f a)) s := rfl
  rw [hStart, hBind, EStateM.bind, perform_apply handler t,
    interpret_bind]
  rcases interpret handler t.run s with ⟨r, s'⟩
  cases r with
  | ok a => rfl
  | error e => rfl

/- An outcome that is known asks nothing. -/
theorem perform_done
    (handler : Handler Q A σ)
    (r : Except ε α) :
    perform handler (ExceptT.mk (.done r)) = ofOutcome r := by
  cases r with
  | ok a => rfl
  | error e => rfl

/- Translating the errors of a dialogue. -/
theorem perform_adapt
    (handler : Handler Q A σ)
    (f : ε → ε')
    (t : ExceptT ε (Dialogue Q A) α) :
    perform handler (ExceptT.adapt f t) =
      EStateM.adaptExcept f (perform handler t) := by
  funext s
  have hStart :
      perform handler (ExceptT.adapt f t) s =
        settle (interpret handler
          (t.run >>= fun r => .done (r.mapError f)) s) := rfl
  rw [hStart, EStateM.adaptExcept, perform_apply handler t,
    interpret_bind]
  rcases interpret handler t.run s with ⟨r, s'⟩
  cases r with
  | ok a => rfl
  | error e => rfl

/- Observe a dialogue instead of failing with it. -/
def observe
    (t : ExceptT ε (Dialogue Q A) α) :
    ExceptT ε' (Dialogue Q A) (Except ε α) :=
  ExceptT.mk (t.run >>= fun r => .done (.ok r))

theorem Within.observe
    {n : Nat}
    {t : ExceptT ε (Dialogue Q A) α}
    (hWithin : Within n t.run) :
    Within n
      (observe t :
        ExceptT ε' (Dialogue Q A) (Except ε α)).run :=
  hWithin.bind (n := 0) (fun _ => within_done 0 _)

theorem perform_observe
    (handler : Handler Q A σ)
    (t : ExceptT ε (Dialogue Q A) α) :
    perform handler
        (observe t :
          ExceptT ε' (Dialogue Q A) (Except ε α)) =
      attempt (perform handler t) := by
  funext s
  have hStart :
      perform handler
          (observe t :
            ExceptT ε' (Dialogue Q A) (Except ε α)) s =
        settle (interpret handler
          (t.run >>= fun r => .done (.ok r)) s) := rfl
  rw [hStart, attempt, perform_apply handler t,
    interpret_bind]
  rcases interpret handler t.run s with ⟨r, s'⟩
  cases r with
  | ok a => rfl
  | error e => rfl

end Dialogues
