import Solvela.Cli.Commands
import Solvela.Client.Terms

/-
  What the steps of a command leave untouched.

  Printing, reading and loading change neither the files nor
  the record of exchanges.  A client adds exchanges, and only
  the commands that save a wallet change the files.

  Main declarations:
    * `Machine.Quiet`, `Machine.Keeps`, `Machine.Exchanged`
    * `Machine.after`, `runs_println`, `runs_request`
    * `quiet_print`, `quiet_loadArgs`, `exchanged_onClient`
    * `Unspent`, `exchanged_doctor`, `exchanged_models`
-/

------------------------------------------------------------
-- Quiet Steps
------------------------------------------------------------

namespace Solvela

open Effects

/- At most something was printed. -/
structure Machine.Quiet (m m' : Machine) : Prop where
  files : m'.files = m.files
  trace : m'.trace = m.trace

theorem Machine.Quiet.refl
    (m : Machine) :
    m.Quiet m :=
  ⟨rfl, rfl⟩

theorem Machine.Quiet.trans
    (m₁ m₂ m₃ : Machine)
    (hFirst : m₁.Quiet m₂)
    (hSecond : m₂.Quiet m₃) :
    m₁.Quiet m₃ :=
  ⟨hSecond.files.trans hFirst.files,
    hSecond.trace.trans hFirst.trace⟩

theorem quiet_pure
    {α : Type}
    (a : α) :
    Always Machine.Quiet (pure a : CliProg α) :=
  Always.pure Machine.Quiet.refl a

theorem quiet_throw
    {α : Type}
    (e : Exit) :
    Always Machine.Quiet (throw e : CliProg α) :=
  Always.throw Machine.Quiet.refl e

theorem quiet_ofOutcome
    {α : Type}
    (r : Except Exit α) :
    Always Machine.Quiet (ofOutcome r : CliProg α) :=
  Always.ofOutcome Machine.Quiet.refl r

theorem quiet_bind
    {α β : Type}
    {x : CliProg α}
    {f : α → CliProg β}
    (hFirst : Always Machine.Quiet x)
    (hRest : ∀ a, Always Machine.Quiet (f a)) :
    Always Machine.Quiet (x >>= f) :=
  Always.bind Machine.Quiet.trans hFirst hRest

/- A line is a text as well. -/
theorem quiet_print
    (text : String) :
    Always Machine.Quiet (print text) :=
  Always.modify (fun _ => ⟨rfl, rfl⟩)

theorem quiet_eprint
    (text : String) :
    Always Machine.Quiet (eprint text) :=
  Always.modify (fun _ => ⟨rfl, rfl⟩)

theorem quiet_printLines
    (lines : List String) :
    Always Machine.Quiet (printLines lines) := by
  induction lines with
  | nil => exact quiet_pure ()
  | cons line lines ih =>
      exact quiet_bind (quiet_print _) (fun _ => ih)

/- Looking at the machine changes nothing. -/
theorem quiet_get_bind
    {α : Type}
    {f : Machine → CliProg α}
    (hRest : ∀ m, Always Machine.Quiet (f m)) :
    Always Machine.Quiet (get >>= f) := by
  intro m r m' hRun
  exact hRest m m r m' (runs_get_bind.mp hRun)

theorem quiet_flushStdout
    (shell : Shell) :
    Always Machine.Quiet (flushStdout shell) := by
  apply quiet_get_bind
  intro m
  cases shell.flushOut m.out with
  | some e => exact quiet_throw _
  | none => exact quiet_pure ()

theorem quiet_readStdinLine
    (shell : Shell)
    (prompt : String) :
    Always Machine.Quiet (readStdinLine shell prompt) := by
  apply quiet_bind (quiet_eprint prompt)
  intro _
  cases shell.flushErr with
  | some e => exact quiet_throw _
  | none => exact quiet_ofOutcome _

variable {X : Crates}

theorem quiet_loadArgs
    (C : CliCrates X)
    (shell : Shell)
    (args : WalletArgs) :
    Always Machine.Quiet (loadArgs C shell args) :=
  quiet_get_bind (fun _ => quiet_ofOutcome _)

theorem quiet_makeWallet
    (C : CliCrates X)
    (shell : Shell) :
    Always Machine.Quiet (makeWallet C shell) := by
  unfold makeWallet
  cases Wallet.make C.toWalletCrates shell.entropy with
  | some made => exact quiet_pure made
  | none => exact quiet_throw _

theorem quiet_createClient
    (shell : Shell)
    (wallet : Wallet X)
    (config : ClientConfig) :
    Always Machine.Quiet (createClient shell wallet config) :=
  quiet_ofOutcome _

end Solvela

------------------------------------------------------------
-- Parts That Stay
------------------------------------------------------------

namespace Solvela

open Effects Files

variable {X : Crates}

/- Some part of the machine stays as it is. -/
def Machine.Keeps
    {β : Type}
    (part : Machine → β)
    (m m' : Machine) : Prop :=
  part m' = part m

theorem keeps_bind
    {α β γ : Type}
    {part : Machine → γ}
    {x : CliProg α}
    {f : α → CliProg β}
    (hFirst : Always (Machine.Keeps part) x)
    (hRest : ∀ a, Always (Machine.Keeps part) (f a)) :
    Always (Machine.Keeps part) (x >>= f) :=
  Always.bind (fun _ _ _ hOne hTwo => hTwo.trans hOne)
    hFirst hRest

theorem keepsTrace_of_quiet
    {α : Type}
    {x : CliProg α}
    (hQuiet : Always Machine.Quiet x) :
    Always (Machine.Keeps Machine.trace) x :=
  hQuiet.mono (fun _ _ hSame => hSame.trace)

/- A program over the files changes nothing but them. -/
theorem runs_onFiles
    {α : Type}
    {x : FileProg α}
    {m m' : Machine}
    {r : Except Exit α} :
    Runs (onFiles x) m r m' →
      ∃ r₀ files, Runs x m.files r₀ files ∧
        r = r₀.mapError Exit.error ∧
          m' = { m with files := files } := by
  intro hRun
  rcases runs_adaptExcept.mp hRun with ⟨r₀, hZoom, rfl⟩
  rcases runs_zoom.mp hZoom with ⟨files, hFiles, rfl⟩
  exact ⟨r₀, files, hFiles, rfl, rfl⟩

theorem keepsTrace_onFiles
    {α : Type}
    (x : FileProg α) :
    Always (Machine.Keeps Machine.trace) (onFiles x) := by
  intro m r m' hRun
  rcases runs_onFiles hRun with ⟨_, _, _, _, rfl⟩
  rfl

end Solvela

------------------------------------------------------------
-- Runs That Print
------------------------------------------------------------

namespace Solvela

open Effects

/- The machine after some exchanges and printed lines. -/
def Machine.after
    (m : Machine)
    (es : List Exchange)
    (lines : List String) : Machine :=
  { m with
    trace := m.trace ++ es
    out := m.out ++ lines.map (fun line => line ++ "\n") }

variable {m m' : Machine}

variable {X : Crates}

end Solvela

------------------------------------------------------------
-- Printing Answers
------------------------------------------------------------

namespace Solvela

open Effects

namespace Cli

variable {X : Crates}

theorem quiet_printContents
    (shell : Shell)
    (contents : List (Option String)) :
    Always Machine.Quiet (printContents shell contents) := by
  induction contents with
  | nil => exact quiet_pure ()
  | cons content contents ih =>
      cases content with
      | none => exact ih
      | some text =>
          exact quiet_bind (quiet_print text) (fun _ =>
            quiet_bind (quiet_flushStdout shell)
              (fun _ => ih))

theorem quiet_printItems
    (C : CliCrates X)
    (shell : Shell)
    (items : List (Except ClientError X.ChatChunk))
    (modelName : String) :
    Always Machine.Quiet
      (printItems C shell items modelName) := by
  induction items generalizing modelName with
  | nil => exact quiet_pure modelName
  | cons item items ih =>
      cases item with
      | error e => exact quiet_throw _
      | ok chunk =>
          exact quiet_bind (quiet_printContents shell _)
            (fun _ => ih _)

theorem quiet_printStream
    (C : CliCrates X)
    (shell : Shell)
    (items : List (Except ClientError X.ChatChunk)) :
    Always Machine.Quiet (printStream C shell items) := by
  apply quiet_bind (quiet_printItems C shell items "")
  intro modelName
  apply quiet_bind (quiet_print _)
  intro _
  by_cases hName : modelName ≠ ""
  · rw [if_pos hName]
    exact quiet_eprint _
  · rw [if_neg hName]
    exact quiet_pure ()

theorem quiet_printAnswer
    (resp : ChatResponse) :
    Always Machine.Quiet (printAnswer resp) := by
  unfold printAnswer
  cases resp.choices.head? with
  | none =>
      apply quiet_bind (quiet_eprint _)
      intro _
      cases resp.usage with
      | none => exact quiet_pure ()
      | some usage => exact quiet_eprint _
  | some choice =>
      apply quiet_bind (quiet_print _)
      intro _
      apply quiet_bind (quiet_eprint _)
      intro _
      cases resp.usage with
      | none => exact quiet_pure ()
      | some usage => exact quiet_eprint _

theorem quiet_printJson
    (C : CliCrates X)
    (resp : ChatResponse) :
    Always Machine.Quiet (printJson C resp) :=
  quiet_bind (quiet_ofOutcome _) (fun _ => quiet_print _)

end Cli

end Solvela

------------------------------------------------------------
-- Exchanges
------------------------------------------------------------

namespace Solvela

open Effects

/- Exchanges were added, of which `P` holds. -/
structure Machine.Exchanged
    (P : List Exchange → Prop)
    (m m' : Machine) : Prop where
  files : m'.files = m.files
  trace : ∃ es, m'.trace = m.trace ++ es ∧ P es

variable {X : Crates}
variable {P : List Exchange → Prop}

theorem Machine.Quiet.exchanged
    (hNone : P [])
    (m m' : Machine)
    (hQuiet : m.Quiet m') :
    Machine.Exchanged P m m' := by
  refine ⟨hQuiet.files, [], ?_, hNone⟩
  rw [hQuiet.trace, List.append_nil]

/- Quiet steps may come before and after. -/
theorem exchanged_of_quiet_bind
    {α β : Type}
    {x : CliProg α}
    {f : α → CliProg β}
    (hNone : P [])
    (hFirst : Always Machine.Quiet x)
    (hRest : ∀ a, Always (Machine.Exchanged P) (f a)) :
    Always (Machine.Exchanged P) (x >>= f) := by
  refine hFirst.andThen hRest ?_ ?_
  · intro m₁ m₂ m₃ hQuiet hLater
    refine ⟨hLater.files.trans hQuiet.files, ?_⟩
    rcases hLater.trace with ⟨es, hTrace, hHolds⟩
    rw [hQuiet.trace] at hTrace
    exact ⟨es, hTrace, hHolds⟩
  · exact Machine.Quiet.exchanged hNone

theorem exchanged_bind_of_quiet
    {α β : Type}
    {x : CliProg α}
    {f : α → CliProg β}
    (hFirst : Always (Machine.Exchanged P) x)
    (hRest : ∀ a, Always Machine.Quiet (f a)) :
    Always (Machine.Exchanged P) (x >>= f) := by
  refine hFirst.andThen hRest ?_ ?_
  · intro m₁ m₂ m₃ hFirst hQuiet
    refine ⟨hQuiet.files.trans hFirst.files, ?_⟩
    rw [hQuiet.trace]
    exact hFirst.trace
  · intro m₁ m₂ hOnly
    exact hOnly

theorem exchanged_bind
    {α β : Type}
    {x : CliProg α}
    {f : α → CliProg β}
    (hAppend : ∀ es es', P es → P es' → P (es ++ es'))
    (hFirst : Always (Machine.Exchanged P) x)
    (hRest : ∀ a, Always (Machine.Exchanged P) (f a)) :
    Always (Machine.Exchanged P) (x >>= f) := by
  refine Always.bind ?_ hFirst hRest
  intro m₁ m₂ m₃ hOne hTwo
  rcases hOne.trace with ⟨es, hTrace, hHolds⟩
  rcases hTwo.trace with ⟨es', hTrace', hHolds'⟩
  refine ⟨hTwo.files.trans hOne.files, es ++ es', ?_,
    hAppend es es' hHolds hHolds'⟩
  rw [hTrace', hTrace, List.append_assoc]

/- The exchanges of a client are those of the machine. -/
theorem exchanged_zoom
    {ε α : Type}
    {config : ClientConfig}
    {x : Prog X ε α}
    (hRuns : ∀ world r world', Runs x world r world' →
      ∃ es, world'.trace = world.trace ++ es ∧ P es) :
    Always (Machine.Exchanged P)
      (zoom (Machine.world config) Machine.leave x) := by
  have hAlways : Always
      (fun world world' : World X =>
        ∃ es, world'.trace = world.trace ++ es ∧ P es) x :=
    hRuns
  refine hAlways.zoom ?_
  intro m world hTrace
  exact ⟨rfl, hTrace⟩

theorem exchanged_onClient
    {ε α : Type}
    {config : ClientConfig}
    {x : Prog X ε α}
    (hRuns : ∀ world r world', Runs x world r world' →
      ∃ es, world'.trace = world.trace ++ es ∧ P es)
    (failed : ε → String) :
    Always (Machine.Exchanged P) (onClient config failed x) :=
  (exchanged_zoom hRuns).adaptExcept _

/- None of the exchanges carries a payment. -/
def Unspent
    (es : List Exchange) : Prop :=
  ∀ e ∈ es, e.request.payments = []

theorem unspent_nil :
    Unspent [] := by
  intro e hNone
  cases hNone

theorem unspent_append
    (es es' : List Exchange)
    (hFirst : Unspent es)
    (hSecond : Unspent es') :
    Unspent (es ++ es') := by
  intro e hMem
  rcases List.mem_append.mp hMem with hIn | hIn
  · exact hFirst e hIn
  · exact hSecond e hIn

theorem unspent_singleton
    {peer : Peer}
    {req : HttpRequest}
    {reply : Except ReqwestError HttpResponse}
    (hFree : req.payments = []) :
    Unspent [{ peer := peer, request := req, reply := reply }] := by
  intro e hMem
  rw [List.mem_singleton.mp hMem]
  exact hFree

theorem exchanged_request
    (shell : Shell)
    (peer : Peer)
    {req : HttpRequest}
    (hFree : req.payments = []) :
    Always (Machine.Exchanged Unspent)
      (request X shell peer req) := by
  apply exchanged_zoom
  intro world r world' hRun
  rcases runs_attempt.mp hRun with ⟨_, hSend, _⟩
  rcases runs_send.mp hSend with ⟨_, rfl⟩
  exact ⟨_, rfl, unspent_singleton hFree⟩

/- Asking for the balance is free. -/
theorem usdcBalance_unspent
    (client : SolvelaClient X)
    (env : Env)
    (world : World X)
    (r : Except ClientError ℚ)
    (world' : World X)
    (hRun : Runs (client.usdcBalance env) world r world') :
    ∃ es, world'.trace = world.trace ++ es ∧ Unspent es :=
  usdcBalanceOf_unpaid hRun

end Solvela

------------------------------------------------------------
-- Commands That Never Pay
------------------------------------------------------------

namespace Solvela

open Effects

namespace Cli

variable {X : Crates}
variable (C : CliCrates X)
variable (shell : Shell)

theorem exchanged_balance
    (args : CliArgs) :
    Always (Machine.Exchanged Unspent)
      (balance C shell args) := by
  apply exchanged_of_quiet_bind unspent_nil
    (quiet_loadArgs C shell args.wallet)
  intro wallet
  apply exchanged_of_quiet_bind unspent_nil
    (quiet_createClient shell wallet _)
  intro client
  apply exchanged_bind_of_quiet
    (exchanged_onClient (usdcBalance_unspent client shell.env)
      _)
  intro balance
  exact quiet_print _

theorem quiet_address
    (args : WalletArgs) :
    Always Machine.Quiet (address C shell args) :=
  quiet_bind (quiet_loadArgs C shell args)
    (fun _ => quiet_print _)

theorem quiet_exportWallet
    (args : WalletArgs)
    (yes : Bool) :
    Always Machine.Quiet (exportWallet C shell args yes) := by
  apply quiet_bind (quiet_loadArgs C shell args)
  intro wallet
  cases yes with
  | true => exact quiet_print _
  | false =>
      apply quiet_bind (quiet_readStdinLine shell _)
      intro answer
      by_cases hConfirmed :
          confirmExport X false answer = true
      · rw [if_pos hConfirmed]
        exact quiet_print _
      · rw [if_neg hConfirmed]
        exact quiet_throw _

theorem exchanged_models
    (args : CliArgs)
    (provider : Option String)
    (json : Bool) :
    Always (Machine.Exchanged Unspent)
      (models C shell args provider json) := by
  apply exchanged_of_quiet_bind unspent_nil
    (quiet_makeWallet C shell)
  intro made
  apply exchanged_of_quiet_bind unspent_nil
    (quiet_createClient shell made.1 _)
  intro client
  apply exchanged_bind_of_quiet
    (exchanged_onClient (P := Unspent)
      (fun _ _ _ hRun => exchange_unpaid hRun rfl) _)
  intro listed
  by_cases hJson : (json || !shell.isTerminal) = true
  · rw [if_pos hJson]
    exact quiet_bind (quiet_ofOutcome _)
      (fun _ => quiet_print _)
  · rw [if_neg hJson]
    exact quiet_printLines _

theorem quiet_checkWallet
    (args : WalletArgs) :
    Always Machine.Quiet (checkWallet C shell args) :=
  quiet_get_bind (fun _ =>
    quiet_bind (quiet_print _) (fun _ => quiet_pure _))

/- A check of a peer: a request, a line and a verdict. -/
theorem exchanged_verdict
    (shell : Shell)
    (peer : Peer)
    {req : HttpRequest}
    (hFree : req.payments = [])
    (verdict :
      Except ReqwestError HttpResponse → String × Bool) :
    Always (Machine.Exchanged Unspent) (do
      let reply ← request X shell peer req
      println (verdict reply).1
      pure (verdict reply).2) := by
  apply exchanged_bind_of_quiet
    (exchanged_request shell peer hFree)
  intro reply
  exact quiet_bind (quiet_print _) (fun _ => quiet_pure _)

/- A check that is skipped if the gateway is not there. -/
theorem exchanged_checked
    (shell : Shell)
    {req : HttpRequest}
    (hFree : req.payments = [])
    (line : Except ReqwestError HttpResponse → String)
    (skipped : String)
    (gatewayOk : Bool) :
    Always (Machine.Exchanged Unspent)
      (if gatewayOk then do
        let reply ← request X shell .gateway req
        println (line reply)
      else
        println skipped) := by
  cases gatewayOk with
  | true =>
      exact exchanged_bind_of_quiet
        (exchanged_request shell .gateway hFree)
        (fun _ => quiet_print _)
  | false =>
      exact (quiet_print _).mono
        (Machine.Quiet.exchanged unspent_nil)

theorem exchanged_checkBalance
    (wallet : Option (Wallet X))
    (rpcOk : Bool)
    (gatewayUrl rpcUrl : String) :
    Always (Machine.Exchanged Unspent)
      (checkBalance shell wallet rpcOk gatewayUrl rpcUrl) := by
  have hSkipped : ∀ line,
      Always (Machine.Exchanged Unspent) (println line) :=
    fun line => (quiet_print _).mono
      (Machine.Quiet.exchanged unspent_nil)
  cases wallet with
  | none => exact hSkipped _
  | some w =>
      cases rpcOk with
      | false => exact hSkipped _
      | true =>
          unfold checkBalance
          simp only [if_true]
          cases newClient shell w
              (builtConfig gatewayUrl rpcUrl) with
          | error e => exact hSkipped _
          | ok client =>
              apply exchanged_bind_of_quiet
              · apply exchanged_zoom
                intro world r world' hRun
                rcases runs_attempt.mp hRun with
                  ⟨_, hBalance, _⟩
                exact usdcBalance_unspent client shell.env
                  world _ world' hBalance
              · intro result
                exact quiet_print _

theorem exchanged_doctor
    (args : CliArgs) :
    Always (Machine.Exchanged Unspent)
      (doctor C shell args) := by
  unfold doctor
  cases shell.buildError doctorTimeout with
  | some e =>
      exact (quiet_throw _).mono
        (Machine.Quiet.exchanged unspent_nil)
  | none =>
      apply exchanged_of_quiet_bind unspent_nil
        (quiet_checkWallet C shell args.wallet)
      intro wallet
      apply exchanged_bind unspent_append
        (exchanged_verdict shell .gateway rfl
          (gatewayVerdict X _))
      intro gatewayOk
      apply exchanged_bind unspent_append
        (exchanged_checked shell rfl (modelsLine C) _
          gatewayOk)
      intro _
      apply exchanged_bind unspent_append
        (exchanged_verdict shell .rpc rfl (rpcVerdict C))
      intro rpcOk
      apply exchanged_bind unspent_append
        (exchanged_checkBalance shell wallet rpcOk _ _)
      intro _
      exact exchanged_checked shell rfl (paymentLine X) _
        gatewayOk

end Cli

end Solvela
