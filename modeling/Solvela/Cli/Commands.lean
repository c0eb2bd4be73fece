import Mathlib.Data.List.Dedup
import Mathlib.Data.String.Basic
import Solvela.Cli.Machine

/-
  The commands of the command line program.

  Key definitions include:
    * `WalletAction`, `Commands`, `CliArgs`
    * `Cli.create`, `Cli.importWallet`, `Cli.exportWallet`
    * `Cli.chat`, `Cli.models`, `Cli.doctor`
    * `Cli.run`, `Invocation`, `invoke`
-/

------------------------------------------------------------
-- Arguments
------------------------------------------------------------

namespace Solvela

/- What can be done with the wallet, with its flags. -/
inductive WalletAction where
  | create (force : Bool)
  | importWallet (mnemonic keypair force : Bool)
  | balance
  | address
  | exportWallet (yes : Bool)

/- The commands of the program, with their arguments. -/
inductive Commands where
  | wallet (action : WalletAction)
  | chat
      (prompt model : String)
      (noStream : Bool)
      (maxPayment : Option UInt64)
  | models (provider : Option String) (json : Bool)
  | doctor

/- The arguments that all commands have. -/
structure CliArgs where
  gateway : String
  rpcUrl : String
  wallet : WalletArgs

end Solvela

------------------------------------------------------------
-- Wallet Commands
------------------------------------------------------------

namespace Solvela

open Effects Files

namespace Cli

variable {X : Crates}

/- Make a wallet, save it, and show its seed phrase once. -/
def create
    (C : CliCrates X)
    (shell : Shell)
    (args : WalletArgs)
    (force : Bool) : CliProg Unit := do
  let made ← makeWallet C shell
  let saved ← onFiles (doCreate C.toWalletCrates shell.host
    shell.faults (made.1.stored, made.2) args.walletFile force)
  printLines
    ["===", saved.1.address X, "===", "",
      s!"Wallet saved to: {saved.2.2.display}", "",
      "=== BACKUP YOUR SEED PHRASE ===", saved.2.1,
      "=== END SEED PHRASE ==="]

/- What both imports print. -/
def printImported
    (imported : String × PathBuf) : CliProg Unit :=
  printLines
    [s!"Imported address: {imported.1}",
      s!"Wallet saved to: {imported.2.display}"]

/- Read a seed phrase, and save its wallet. -/
def importMnemonic
    (C : CliCrates X)
    (shell : Shell)
    (args : WalletArgs)
    (force : Bool) : CliProg Unit := do
  let phrase ← readStdinLine shell "Enter seed phrase: "
  let imported ← onFiles (doImportMnemonic C.toWalletCrates
    shell.host shell.faults phrase args.walletFile force)
  printImported imported

/- Read a key pair, and save its wallet. -/
def importKeypair
    (C : CliCrates X)
    (shell : Shell)
    (args : WalletArgs)
    (force : Bool) : CliProg Unit := do
  let b58 ← readStdinLine shell "Enter base58 keypair: "
  let imported ← onFiles (doImportKeypair C.toWalletCrates
    shell.host shell.faults b58 args.walletFile force)
  printImported imported

/- The configuration of the wallet and doctor commands. -/
def builtConfig
    (gateway rpcUrl : String) : ClientConfig :=
  ((ClientBuilder.new.setGatewayUrl gateway).setRpcUrl
    rpcUrl).buildConfig

/- Print the balance of the wallet. -/
def balance
    (C : CliCrates X)
    (shell : Shell)
    (args : CliArgs) : CliProg Unit := do
  let wallet ← loadArgs C shell args.wallet
  let config := builtConfig args.gateway args.rpcUrl
  let client ← createClient shell wallet config
  let balance ← onClient config
    (fun e : ClientError =>
      s!"failed to fetch balance: {e.toText}")
    (client.usdcBalance shell.env)
  println s!"{formatFixed 6 balance} USDC"

/- Print the address of the wallet. -/
def address
    (C : CliCrates X)
    (shell : Shell)
    (args : WalletArgs) : CliProg Unit := do
  let wallet ← loadArgs C shell args
  println wallet.address

/- Whether the answer lets the key be printed. -/
def confirmExport
    (X : Crates)
    (yes : Bool)
    (answer : String) : Bool :=
  if yes then
    true
  else
    let said := X.unicode.toLowercase
      (String.ofList (trim answer.toList))
    said == "y" || said == "yes"

/- Print the key of the wallet, if the user agrees. -/
def exportWallet
    (C : CliCrates X)
    (shell : Shell)
    (args : WalletArgs)
    (yes : Bool) : CliProg Unit := do
  let wallet ← loadArgs C shell args
  if yes then
    println (wallet.stored.toKeypairB58 C.toWalletCrates)
  else do
    let answer ← readStdinLine shell
      ("WARNING: This will print your private key. " ++
        "Continue? [y/N] ")
    if confirmExport X false answer then
      println (wallet.stored.toKeypairB58 C.toWalletCrates)
    else
      throw (.error "aborted")

/-
  The wallet commands.  One way to import has to be
  chosen.
-/
def wallet
    (C : CliCrates X)
    (shell : Shell)
    (args : CliArgs) : WalletAction → CliProg Unit
| .create force => create C shell args.wallet force
| .importWallet mnemonic keypair force =>
    if mnemonic then
      importMnemonic C shell args.wallet force
    else if keypair then
      importKeypair C shell args.wallet force
    else
      throw (.error "specify --mnemonic or --keypair")
| .balance => balance C shell args
| .address => address C shell args.wallet
| .exportWallet yes => exportWallet C shell args.wallet yes

end Cli

end Solvela

------------------------------------------------------------
-- The Chat Command
------------------------------------------------------------

namespace Solvela

open Effects

namespace Cli

variable {X : Crates}

/- One question of a user, without any options. -/
def chatRequest
    (prompt model : String) : ChatRequest where
  model := model
  messages :=
    [{ role := .user
       content := prompt
       name := none
       toolCalls := none
       toolCallId := none }]
  maxTokens := none
  temperature := none
  topP := none
  stream := false
  tools := none
  toolChoice := none

/- The default maximum stands unless another one is given. -/
def chatConfig
    (args : CliArgs)
    (maxPayment : Option UInt64) : ClientConfig :=
  let builder :=
    (ClientBuilder.new.setGatewayUrl
      args.gateway).setRpcUrl args.rpcUrl
  (match maxPayment with
    | some max => builder.setMaxPaymentAmount max
    | none => builder).buildConfig

/- Print the texts of a chunk, each at once. -/
def printContents
    (shell : Shell) : List (Option String) → CliProg Unit
| [] => pure ()
| none :: rest => printContents shell rest
| some content :: rest => do
    print content
    flushStdout shell
    printContents shell rest

/- Print the items of a stream, and return its model. -/
def printItems
    (C : CliCrates X)
    (shell : Shell) :
    List (Except ClientError X.ChatChunk) → String →
      CliProg String
| [], modelName => pure modelName
| .error e :: _, _ =>
    throw (.error s!"stream chunk error: {e.toText}")
| .ok chunk :: items, modelName => do
    printContents shell (C.chunkContents chunk)
    printItems C shell items
      (if modelName = "" then
        C.chunkModel chunk
      else
        modelName)

/- Print a stream, and then the model that answered. -/
def printStream
    (C : CliCrates X)
    (shell : Shell)
    (items : List (Except ClientError X.ChatChunk)) :
    CliProg Unit := do
  let modelName ← printItems C shell items ""
  println ""
  if modelName ≠ "" then
    eprintln s!"[model: {modelName}]"
  else
    pure ()

/-
  Print an answer.  Its model and the tokens that it took
  go to the other stream.
-/
def printAnswer
    (resp : ChatResponse) : CliProg Unit := do
  match resp.choices.head? with
  | some choice => println choice.message.content
  | none => pure ()
  eprintln s!"[model: {resp.model}]"
  match resp.usage with
  | some usage =>
      eprintln
        (s!"[tokens: {usage.promptTokens} prompt + " ++
          s!"{usage.completionTokens} completion = " ++
            s!"{usage.totalTokens} total]")
  | none => pure ()

/- Print a response as a document. -/
def printJson
    (C : CliCrates X)
    (resp : ChatResponse) : CliProg Unit := do
  let output ← ofOutcome
    ((C.responseToStringPretty resp).mapError
      (fun e =>
        Exit.error s!"failed to serialize response: {e}"))
  println output

/- Ask the model, as a stream if a person is reading. -/
def chat
    (C : CliCrates X)
    (shell : Shell)
    (args : CliArgs)
    (prompt model : String)
    (noStream : Bool)
    (maxPayment : Option UInt64) : CliProg Unit := do
  let wallet ← loadArgs C shell args.wallet
  let config := chatConfig args maxPayment
  let client ← createClient shell wallet config
  let req := chatRequest prompt model
  if shell.isTerminal && !noStream then do
    let items ← onClient config
      (fun e : ClientError => s!"stream error: {e.toText}")
      (client.chatStream shell.env req)
    printStream C shell items
  else do
    let resp ← onClient config
      (fun e : ClientError => s!"chat error: {e.toText}")
      (client.chat shell.env req)
    if shell.isTerminal then
      printAnswer resp
    else
      printJson C resp

end Cli

end Solvela

------------------------------------------------------------
-- The Models Command
------------------------------------------------------------

namespace Solvela

open Effects

namespace Cli

variable {X : Crates}

/-
  Texts are compared as lists of characters, which orders
  them as their bytes do.
-/
def applyFilterAndSort
    (C : CliCrates X)
    (models : List X.ModelInfo)
    (provider : Option String) : List X.ModelInfo :=
  let kept :=
    match provider with
    | some filter =>
        let filterLower := X.unicode.toLowercase filter
        models.filter (fun m =>
          X.unicode.toLowercase (C.modelProvider m) ==
            filterLower)
    | none => models
  kept.mergeSort
    (fun a b => decide (C.modelId a ≤ C.modelId b))

/- A number of tokens, in thousands or millions. -/
def formatContext
    (tokens : Nat) : String :=
  if tokens ≥ 1000000 then
    s!"{tokens / 1000000}M"
  else if tokens ≥ 1000 then
    s!"{tokens / 1000}K"
  else
    toString tokens

/- A text that fits into a column. -/
def truncate
    (text : String)
    (max : Nat) : String :=
  if text.toList.length ≤ max then
    text
  else
    String.ofList (text.toList.take (max - 3)) ++ "..."

/- The columns: ID, provider, two costs and the context. -/
def tableRow
    (id provider input output context : String) : String :=
  padRight 35 ' ' id ++ " " ++
    padRight 12 ' ' provider ++ " " ++
      padLeft 10 ' ' input ++ " " ++
        padLeft 10 ' ' output ++ " " ++
          padLeft 8 ' ' context

/- The line of a model. -/
def modelRow
    (C : CliCrates X)
    (m : X.ModelInfo) : String :=
  tableRow (truncate (C.modelId m) 35)
    (truncate (C.modelProvider m) 12)
    (formatFixed 4 (C.modelInputCost m))
    (formatFixed 4 (C.modelOutputCost m))
    (formatContext (C.modelContextWindow m))

/- The models in columns, and how many there are. -/
def printTable
    (C : CliCrates X)
    (models : List X.ModelInfo) : CliProg Unit :=
  printLines
    ([tableRow "ID" "Provider" "In $/M" "Out $/M" "Context",
      String.ofList
        (List.replicate (35 + 12 + 10 * 2 + 8 + 4) '-')] ++
      models.map (modelRow C) ++
        ["", s!"{models.length} model(s)"])

/- List the models, as a table or as a document. -/
def models
    (C : CliCrates X)
    (shell : Shell)
    (args : CliArgs)
    (provider : Option String)
    (json : Bool) : CliProg Unit := do
  let made ← makeWallet C shell
  let config :=
    (ClientBuilder.new.setGatewayUrl args.gateway).buildConfig
  let client ← createClient shell made.1 config
  let listed ← onClient config
    (fun e : ClientError =>
      s!"failed to fetch models: {e.toText}")
    (client.models shell.env)
  let models := applyFilterAndSort C listed provider
  if json || !shell.isTerminal then do
    let output ← ofOutcome
      ((C.modelsToStringPretty models).mapError
        (fun e =>
          Exit.error s!"failed to serialize models: {e}"))
    println output
  else
    printTable C models

end Cli

end Solvela

------------------------------------------------------------
-- The Doctor Command
------------------------------------------------------------

namespace Solvela

open Effects

namespace Cli

variable {X : Crates}

/- The line about the wallet that was to be loaded. -/
def walletLine : Except String (Wallet X) → String
| .ok w => s!"[ok]  Wallet loaded: {w.address}"
| .error e => s!"[FAIL] Wallet: {e}"

/- Whether the wallet can be loaded. -/
def checkWallet
    (C : CliCrates X)
    (shell : Shell)
    (args : WalletArgs) : CliProg (Option (Wallet X)) := do
  let m ← get
  let loaded :=
    Wallet.load C.toWalletCrates shell.host args m.files
  println (walletLine loaded)
  pure loaded.toOption

/- The line about the gateway, and whether it will do. -/
def gatewayVerdict
    (X : Crates)
    (gatewayUrl : String) :
    Except ReqwestError HttpResponse → String × Bool
| .ok resp =>
    if resp.isSuccess then
      (s!"[ok]  Gateway reachable: {gatewayUrl}", true)
    else
      ("[FAIL] Gateway returned HTTP " ++
        s!"{X.statusDisplay resp.status}: {gatewayUrl}", false)
| .error e =>
    (s!"[FAIL] Gateway unreachable: {e.message}", false)

/- Whether the gateway is healthy. -/
def checkGateway
    (X : Crates)
    (shell : Shell)
    (gatewayUrl : String) : CliProg Bool := do
  let reply ← request X shell .gateway
    (.get s!"{gatewayUrl}/health")
  println (gatewayVerdict X gatewayUrl reply).1
  pure (gatewayVerdict X gatewayUrl reply).2

/- The line about the models that a reply lists. -/
def modelsLine
    (C : CliCrates X) :
    Except ReqwestError HttpResponse → String
| .ok resp =>
    if resp.isSuccess then
      match X.modelsFromStr resp.textOrDefault with
      | .ok models =>
          let providers :=
            (models.map C.modelProvider).dedup
          s!"[ok]  Models available: {models.length} " ++
            s!"model(s) from {providers.length} provider(s)"
      | .error e =>
          s!"[FAIL] Models: failed to parse response: {e}"
    else
      "[FAIL] Models endpoint returned HTTP " ++
        X.statusDisplay resp.status
| .error e => s!"[FAIL] Models: {e.message}"

/- Whether the gateway lists models. -/
def checkModels
    (C : CliCrates X)
    (shell : Shell)
    (gatewayUrl : String)
    (gatewayOk : Bool) : CliProg Unit :=
  if gatewayOk then do
    let reply ← request X shell .gateway
      (.get s!"{gatewayUrl}/v1/models")
    println (modelsLine C reply)
  else
    println "[--]  Models: skipped (gateway unreachable)"

/- The document of a body, or `null` if there is none. -/
def jsonOrDefault
    (X : Crates)
    (resp : HttpResponse) : Json :=
  match resp.body with
  | .ok text =>
      match X.valueFromStr text with
      | .ok json => json
      | .error _ => .null
  | .error _ => .null

/- The line about a reply of the RPC, and whether it will do. -/
def rpcVerdict
    (C : CliCrates X) :
    Except ReqwestError HttpResponse → String × Bool
| .ok resp =>
    if resp.isSuccess then
      let json := jsonOrDefault X resp
      match (json.get "result").bind C.asU64 with
      | some slot =>
          (s!"[ok]  Solana RPC reachable: slot {slot}", true)
      | none =>
          if (json.get "error").isSome then
            ("[FAIL] Solana RPC error: " ++
              X.valueToString json, false)
          else
            ("[WARN] Solana RPC reachable " ++
              "but unexpected response", true)
    else
      ("[FAIL] Solana RPC returned HTTP " ++
        X.statusDisplay resp.status, false)
| .error e =>
    (s!"[FAIL] Solana RPC unreachable: {e.message}", false)

/- Whether the endpoint is at work. -/
def checkRpc
    (C : CliCrates X)
    (shell : Shell)
    (rpcUrl : String) : CliProg Bool := do
  let reply ← request X shell .rpc
    (.post rpcUrl [] (.json (rpcBody "getSlot" [])))
  println (rpcVerdict C reply).1
  pure (rpcVerdict C reply).2

/- The line about a balance. -/
def balanceLine : Except ClientError ℚ → String
| .ok balance =>
    if balance < 1 / 100 then
      s!"[WARN] USDC balance: {formatFixed 6 balance} " ++
        "(low balance, may not be enough for requests)"
    else
      s!"[ok]  USDC balance: {formatFixed 6 balance}"
| .error e => s!"[FAIL] USDC balance: {e.toText}"

/- Whether the balance can be read. -/
def checkBalance
    (shell : Shell)
    (wallet : Option (Wallet X))
    (rpcOk : Bool)
    (gatewayUrl rpcUrl : String) : CliProg Unit :=
  match wallet with
  | none =>
      println "[--]  USDC balance: skipped (wallet not loaded)"
  | some w =>
      if rpcOk then
        let config := builtConfig gatewayUrl rpcUrl
        match newClient shell w config with
        | .ok client => do
            let result ← zoom (Machine.world config)
              Machine.leave
              (attempt (client.usdcBalance shell.env))
            println (balanceLine result)
        | .error e =>
            println ("[FAIL] USDC balance: " ++
              s!"failed to create client: {e}")
      else
        println "[--]  USDC balance: skipped (RPC unreachable)"

/- The request that an unpaid chat would be. -/
def doctorProbe : Json :=
  .object
    [("model", .string "auto"),
      ("messages", .array
        [.object
          [("role", .string "user"),
            ("content", .string "doctor probe")]]),
      ("stream", .bool false)]

/- The line about the reply to the probe. -/
def paymentLine
    (X : Crates) :
    Except ReqwestError HttpResponse → String
| .ok resp =>
    if resp.status = 402 then
      match X.paymentRequiredFromStr resp.textOrDefault with
      | .ok pr =>
          "[ok]  Payment flow: 402 received, " ++
            s!"{pr.accepts.length} scheme(s), total " ++
              s!"{pr.costBreakdown.total} " ++
                pr.costBreakdown.currency
      | .error e =>
          "[FAIL] Payment flow: 402 received " ++
            s!"but invalid body: {e}"
    else if resp.isSuccess then
      "[ok]  Payment flow: model returned 200 (free/cached)"
    else
      "[FAIL] Payment flow: unexpected HTTP " ++
        X.statusDisplay resp.status
| .error e => s!"[FAIL] Payment flow: {e.message}"

/- Whether the gateway asks to be paid. -/
def checkPaymentFlow
    (X : Crates)
    (shell : Shell)
    (gatewayUrl : String)
    (gatewayOk : Bool) : CliProg Unit :=
  if gatewayOk then do
    let reply ← request X shell .gateway
      (.post s!"{gatewayUrl}/v1/chat/completions" []
        (.json doctorProbe))
    println (paymentLine X reply)
  else
    println "[--]  Payment flow: skipped (gateway unreachable)"

/- Ten seconds, in nanoseconds. -/
def doctorTimeout : Nat := 10000000000

/- All checks in turn.  A failed one does not end them. -/
def doctor
    (C : CliCrates X)
    (shell : Shell)
    (args : CliArgs) : CliProg Unit :=
  match shell.buildError doctorTimeout with
  | some e =>
      throw (.error s!"failed to build HTTP client: {e}")
  | none => do
      let gatewayUrl := trimEndMatches '/' args.gateway
      let wallet ← checkWallet C shell args.wallet
      let gatewayOk ← checkGateway X shell gatewayUrl
      checkModels C shell gatewayUrl gatewayOk
      let rpcOk ← checkRpc C shell args.rpcUrl
      checkBalance shell wallet rpcOk gatewayUrl args.rpcUrl
      checkPaymentFlow X shell gatewayUrl gatewayOk

end Cli

end Solvela

------------------------------------------------------------
-- Invocations
------------------------------------------------------------

namespace Solvela

open Effects

variable {X : Crates}

/- The body of a command. -/
def Cli.run
    (C : CliCrates X)
    (shell : Shell)
    (args : CliArgs) : Commands → CliProg Unit
| .wallet action => wallet C shell args action
| .chat prompt model noStream maxPayment =>
    chat C shell args prompt model noStream maxPayment
| .models provider json => models C shell args provider json
| .doctor => doctor C shell args

/- A command, with all that surrounds its process. -/
structure Invocation where
  shell : Shell
  args : CliArgs
  command : Commands

/- The exit status, and the line about an error. -/
def conclude : Except Exit Unit → Machine → Nat × Machine
| .ok _, m => (0, m)
| .error (.error e), m =>
    (1, { m with err := m.err ++ [s!"error: {e}\n"] })
| .error .panic, m => (101, m)

/-
  Each invocation prints on streams of its own.  What it
  printed is there until the next one.
-/
def invoke
    (C : CliCrates X)
    (call : Invocation)
    (m : Machine) : Nat × Machine :=
  let start := { m with out := [], err := [] }
  let program := Cli.run C call.shell call.args call.command
  conclude (outcome program start) (final program start)

/- One invocation after another, with each exit status. -/
def invokeAll
    (C : CliCrates X) :
    List Invocation → Machine → List Nat × Machine
| [], m => ([], m)
| call :: calls, m =>
    let first := invoke C call m
    let rest := invokeAll C calls first.2
    (first.1 :: rest.1, rest.2)

end Solvela
