import Solvela.Client.Model
import Solvela.Config.Builder
import Solvela.Wallet.Keys
import Solvela.Wallet.Saving

/-
  The machine that the command line program runs on.

  Each invocation is a process of its own, with a new client
  and streams of its own, which hold what was printed, piece
  by piece.  What lasts are the files and the exchanges that
  the peers have seen.

  Key definitions include:
    * `Machine`, `Shell`, `CliCrates`
    * `Exit`, `CliProg`
    * `onFiles`, `onClient`
    * `Wallet.load`, `Wallet.make`, `newClient`
    * `formatFixed`
-/

------------------------------------------------------------
-- Machines
------------------------------------------------------------

namespace Solvela

open Effects Files

/-
  What an invocation can see and change: the files, the
  peers, the clock and the streams of its output.
-/
structure Machine where
  files : FileSystem
  trace : List Exchange
  now : Nat
  reads : Nat
  out : List String
  err : List String

/-
  What an invocation finds: the host, the faults of its file
  operations, the peers, the entropy of the system, whether
  the HTTP client can be built for a time-out, whether the
  output is a terminal, the line that is read, and whether
  the streams can be flushed.
-/
structure Shell where
  host : Host
  faults : Faults
  env : Env
  entropy : Vector UInt8 16
  buildError : (timeout : Nat) → Option String
  isTerminal : Bool
  line : Except String String
  flushErr : Option String
  flushOut : (printed : List String) → Option String

/- What the commands take from other crates. -/
structure CliCrates (X : Crates) extends WalletCrates X where
  -- solvela_protocol
  chunkModel : X.ChatChunk → String
  chunkContents : X.ChatChunk → List (Option String)
  modelId : X.ModelInfo → String
  modelProvider : X.ModelInfo → String
  modelInputCost : X.ModelInfo → ℚ
  modelOutputCost : X.ModelInfo → ℚ
  modelContextWindow : X.ModelInfo → Nat
  -- serde_json
  responseToStringPretty : ChatResponse → Except String String
  modelsToStringPretty :
    List X.ModelInfo → Except String String
  asU64 : Json → Option Nat

/- How a command ends, if it does not return. -/
inductive Exit where
  | error (message : String)
  | panic
  deriving DecidableEq

/- A program on the machine, which may end early. -/
abbrev CliProg (α : Type) :=
  EStateM Exit Machine α

end Solvela

------------------------------------------------------------
-- Terminals
------------------------------------------------------------

namespace Solvela

open Effects

/- Write to the standard output. -/
def print
    (text : String) : CliProg Unit :=
  modify (fun m => { m with out := m.out ++ [text] })

/- Write a line to the standard output. -/
def println
    (line : String) : CliProg Unit :=
  print (line ++ "\n")

/- Write to the standard error. -/
def eprint
    (text : String) : CliProg Unit :=
  modify (fun m => { m with err := m.err ++ [text] })

/- Write a line to the standard error. -/
def eprintln
    (line : String) : CliProg Unit :=
  eprint (line ++ "\n")

/- Write some lines to the standard output. -/
def printLines : List String → CliProg Unit
| [] => pure ()
| line :: lines => do
    println line
    printLines lines

/- Flush the standard output.  It can be a closed pipe. -/
def flushStdout
    (shell : Shell) : CliProg Unit := do
  let m ← get
  match shell.flushOut m.out with
  | some e => throw (.error s!"flush error: {e}")
  | none => pure ()

/- Prompt for a line, and read it. -/
def readStdinLine
    (shell : Shell)
    (prompt : String) : CliProg String := do
  eprint prompt
  match shell.flushErr with
  | some e => throw (.error s!"failed to flush stderr: {e}")
  | none =>
      ofOutcome (shell.line.mapError
        (fun e => Exit.error s!"failed to read stdin: {e}"))

end Solvela

------------------------------------------------------------
-- Numbers In Texts
------------------------------------------------------------

namespace Solvela

/- The nearest natural number, or the even one of two. -/
def roundHalfEven
    (value : ℚ) : Nat :=
  let whole := value.floor.toNat
  let rest := value - whole
  if rest < 1 / 2 then
    whole
  else if rest > 1 / 2 then
    whole + 1
  else
    whole + whole % 2

/- Fill a text with `c` on the left. -/
def padLeft
    (width : Nat)
    (c : Char)
    (text : String) : String :=
  String.ofList
      (List.replicate (width - text.toList.length) c) ++ text

/- Fill a text with `c` on the right. -/
def padRight
    (width : Nat)
    (c : Char)
    (text : String) : String :=
  text ++
    String.ofList
      (List.replicate (width - text.toList.length) c)

/- A number with a fixed number of places. -/
def formatFixed
    (places : Nat)
    (value : ℚ) : String :=
  let scaled := roundHalfEven (|value| * 10 ^ places)
  (if value < 0 then "-" else "") ++
    toString (scaled / 10 ^ places) ++ "." ++
      padLeft places '0' (toString (scaled % 10 ^ places))

example : formatFixed 6 (1 / 8) = "0.125000" := by
  decide +kernel

end Solvela

------------------------------------------------------------
-- Files And Clients
------------------------------------------------------------

namespace Solvela

open Effects Files

variable {X : Crates}

/- A program over the files, as one over the machine. -/
def onFiles
    {α : Type}
    (x : FileProg α) : CliProg α :=
  EStateM.adaptExcept Exit.error
    (zoom Machine.files
      (fun files m => { m with files := files }) x)

/- The world of a client that is new on the machine. -/
def Machine.world
    (config : ClientConfig)
    (m : Machine) : World X :=
  { World.new config m.now with
    trace := m.trace
    reads := m.reads }

/- What lasts of the world of a client. -/
def Machine.leave
    (world : World X)
    (m : Machine) : Machine :=
  { m with
    trace := world.trace
    now := world.now
    reads := world.reads }

/- A call of the client, as a program over the machine. -/
def onClient
    {ε α : Type}
    (config : ClientConfig)
    (failed : ε → String)
    (x : Prog X ε α) : CliProg α :=
  EStateM.adaptExcept (fun e => Exit.error (failed e))
    (zoom (Machine.world config) Machine.leave x)

/- A request of the command itself, with its reply. -/
def request
    (X : Crates)
    (shell : Shell)
    (peer : Peer)
    (req : HttpRequest) :
    CliProg (Except ReqwestError HttpResponse) :=
  zoom (Machine.world (X := X) .default) Machine.leave
    (attempt (send shell.env peer req))

namespace Wallet

/- The bytes were accepted as a key pair. -/
def ofAccepted
    (stored : StoredWallet)
    (hAccepted : stored.Accepted X) : Wallet X where
  keypairBytes := stored.keypairBytes
  valid := by
    rcases hAccepted with ⟨keypair, hKeypair⟩
    rw [hKeypair]
    rfl

/- A wallet that was loaded has been checked. -/
def load
    (W : WalletCrates X)
    (host : Host)
    (args : WalletArgs)
    (fs : FileSystem) : Except String (Wallet X) :=
  match hLoaded : loadWallet W host args fs with
  | .ok stored =>
      .ok (ofAccepted stored (accepted_of_loadWallet hLoaded))
  | .error e => .error e

/- So has one that was made. -/
def make
    (W : WalletCrates X)
    (entropy : Vector UInt8 16) :
    Option (Wallet X × String) :=
  match hMade : StoredWallet.create W entropy with
  | some made =>
      some
        (ofAccepted made.1
          (Obtained.accepted (.create hMade)), made.2)
  | none => none

end Wallet

/- The wallet of the arguments, or an error. -/
def loadArgs
    (C : CliCrates X)
    (shell : Shell)
    (args : WalletArgs) : CliProg (Wallet X) := do
  let m ← get
  ofOutcome ((Wallet.load C.toWalletCrates shell.host args
    m.files).mapError Exit.error)

/- A new wallet.  The process panics if there is none. -/
def makeWallet
    (C : CliCrates X)
    (shell : Shell) : CliProg (Wallet X × String) :=
  match Wallet.make C.toWalletCrates shell.entropy with
  | some made => pure made
  | none => throw .panic

/- A client, unless its HTTP client cannot be built. -/
def newClient
    (shell : Shell)
    (wallet : Wallet X)
    (config : ClientConfig) :
    Except String (SolvelaClient X) :=
  match shell.buildError config.timeout with
  | some e =>
      .error ("client configuration error: " ++
        s!"failed to build HTTP client: {e}")
  | none => .ok { wallet := wallet, config := config }

/- A new client, or a failed command. -/
def createClient
    (shell : Shell)
    (wallet : Wallet X)
    (config : ClientConfig) : CliProg (SolvelaClient X) :=
  ofOutcome ((newClient shell wallet config).mapError
    (fun e => Exit.error s!"failed to create client: {e}"))

end Solvela
