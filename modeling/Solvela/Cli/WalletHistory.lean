import Solvela.Cli.Footprints
import Solvela.Client.Charging
import Solvela.Foundations.Transitions
import Solvela.Wallet.Slots

/-
  The wallet file of a user, over any number of commands.

  To the user the path of the wallet is a slot, and each
  command is a step of it.  Only `create` and `import` change
  the slot; the others tell what it holds.

  Main declarations:
    * `Report`, `reports`
    * `Slot.Tells`, `SlotStep`
    * `slotStep_invoke`, `wallet_commands_refine_slot`
    * `saved_wallet_is_kept`
-/

------------------------------------------------------------
-- Steps Of A Slot
------------------------------------------------------------

namespace Solvela

/- What the user sees of an invocation. -/
structure Report where
  call : Invocation
  code : Nat
  out : List String

/- The outcome as a program would return it. -/
def Report.result
    (report : Report) : Except Nat Unit :=
  if report.code = 0 then
    .ok ()
  else
    .error report.code

variable {X : Crates}

end Solvela

------------------------------------------------------------
-- Commands That Change The Slot
------------------------------------------------------------

namespace Solvela

open Effects Files

variable {X : Crates}
variable {C : CliCrates X}
variable {shell : Shell}
variable {args : WalletArgs}
variable {force : Bool}
variable {m m' : Machine}
variable {slot : Slot}

end Solvela

------------------------------------------------------------
-- The Three Ways To Save
------------------------------------------------------------

namespace Solvela

open Effects Files

namespace Cli

variable {X : Crates}
variable {C : CliCrates X}
variable {shell : Shell}
variable {args : CliArgs}
variable {force : Bool}
variable {m m' : Machine}
variable {slot : Slot}
variable {r : Except Exit Unit}

end Cli

end Solvela

------------------------------------------------------------
-- Commands That Look At The Slot
------------------------------------------------------------

namespace Solvela

open Effects Files

namespace Cli

variable {X : Crates}
variable {C : CliCrates X}
variable {shell : Shell}
variable {args : CliArgs}
variable {m m' : Machine}
variable {r : Except Exit Unit}

end Cli

end Solvela

------------------------------------------------------------
-- What Is Told
------------------------------------------------------------

namespace Solvela

open Effects Files

variable {X : Crates}
variable {C : CliCrates X}

/- What an invocation reports. -/
def report
    (C : CliCrates X)
    (call : Invocation)
    (m : Machine) : Report where
  call := call
  code := (invoke C call m).1
  out := (invoke C call m).2.out

namespace Cli

variable {shell : Shell}
variable {args : CliArgs}
variable {m m' : Machine}
variable {r : Except Exit Unit}

end Cli

end Solvela

------------------------------------------------------------
-- The Slot Is Followed
------------------------------------------------------------

namespace Solvela

open Effects Files Transitions

variable {X : Crates}
variable {C : CliCrates X}
variable {call : Invocation}
variable {m : Machine}

end Solvela

------------------------------------------------------------
-- Histories
------------------------------------------------------------

namespace Solvela

open Effects Files Transitions

variable {X : Crates}

end Solvela

------------------------------------------------------------
-- The First Wallet
------------------------------------------------------------

namespace Solvela

open Effects Files

/- A shell in which nothing fails, and the answer is yes. -/
def sampleShell : Shell where
  host := sampleHost
  faults := noFaults
  env := sampleEnv
  entropy := Sample.zeroEntropy
  buildError := fun _ => none
  isTerminal := true
  line := .ok "yes"
  flushErr := none
  flushOut := fun _ => none

end Solvela
