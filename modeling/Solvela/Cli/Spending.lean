import Solvela.Cli.Footprints
import Solvela.Client.Answers
import Solvela.Concurrent.Payments

/-
  What the command line program spends.

  Only `chat` pays, once at most, and no more than the
  maximum it was given or the default one.

  Main declarations:
    * `Machine.Spends`, `Cli.spends_chat`, `Cli.spends_run`
    * `Commands.mostSpent`, `Commands.mostPayments`
    * `cli_spending_le`
-/

------------------------------------------------------------
-- Spending Steps
------------------------------------------------------------

namespace Solvela

open Effects

variable {X : Crates}

/- The exchanges spend `most`, in so many payments, at most. -/
def Frugal
    (R : PaymentReader X)
    (most payments : Nat)
    (es : List Exchange) : Prop :=
  R.spent es ≤ most ∧ paymentCount es ≤ payments

/- The files may change; what was sent is frugal. -/
def Machine.Spends
    (R : PaymentReader X)
    (most payments : Nat)
    (m m' : Machine) : Prop :=
  ∃ es, m'.trace = m.trace ++ es ∧ Frugal R most payments es

variable {R : PaymentReader X}
variable {most payments : Nat}

theorem frugal_of_unspent
    {es : List Exchange}
    (hFree : Unspent es) :
    Frugal R most payments es := by
  constructor
  · rw [PaymentReader.spent_of_unpaid hFree]
    exact Nat.zero_le most
  · rw [paymentCount_of_unpaid hFree]
    exact Nat.zero_le payments

theorem frugal_append
    {most' payments' : Nat}
    {es es' : List Exchange}
    (hFirst : Frugal R most payments es)
    (hSecond : Frugal R most' payments' es') :
    Frugal R (most + most') (payments + payments')
      (es ++ es') := by
  unfold Frugal
  rw [PaymentReader.spent_append, paymentCount_append]
  exact ⟨Nat.add_le_add hFirst.1 hSecond.1,
    Nat.add_le_add hFirst.2 hSecond.2⟩

theorem Machine.Exchanged.spends
    {P : List Exchange → Prop}
    (hFrugal : ∀ es, P es → Frugal R most payments es)
    (m m' : Machine)
    (hExchanged : Machine.Exchanged P m m') :
    Machine.Spends R most payments m m' := by
  rcases hExchanged.trace with ⟨es, hTrace, hHolds⟩
  exact ⟨es, hTrace, hFrugal es hHolds⟩

/- Nothing is spent where nothing is sent. -/
theorem Machine.spends_of_same
    (m m' : Machine)
    (hSame : m'.trace = m.trace) :
    Machine.Spends R most payments m m' := by
  refine ⟨[], ?_, frugal_of_unspent unspent_nil⟩
  rw [hSame, List.append_nil]

end Solvela

------------------------------------------------------------
-- Commands That Save
------------------------------------------------------------

namespace Solvela

open Effects Files

namespace Cli

variable {X : Crates}
variable (C : CliCrates X)
variable (shell : Shell)
variable (args : WalletArgs)
variable (force : Bool)

theorem keepsTrace_create :
    Always (Machine.Keeps Machine.trace)
      (create C shell args force) := by
  apply keeps_bind
    (keepsTrace_of_quiet (quiet_makeWallet C shell))
  intro made
  exact keeps_bind (keepsTrace_onFiles _)
    (fun _ => keepsTrace_of_quiet (quiet_printLines _))

theorem keepsTrace_importMnemonic :
    Always (Machine.Keeps Machine.trace)
      (importMnemonic C shell args force) := by
  apply keeps_bind
    (keepsTrace_of_quiet (quiet_readStdinLine shell _))
  intro phrase
  exact keeps_bind (keepsTrace_onFiles _)
    (fun _ => keepsTrace_of_quiet (quiet_printLines _))

theorem keepsTrace_importKeypair :
    Always (Machine.Keeps Machine.trace)
      (importKeypair C shell args force) := by
  apply keeps_bind
    (keepsTrace_of_quiet (quiet_readStdinLine shell _))
  intro b58
  exact keeps_bind (keepsTrace_onFiles _)
    (fun _ => keepsTrace_of_quiet (quiet_printLines _))

end Cli

end Solvela

------------------------------------------------------------
-- The Chat Command Pays Once
------------------------------------------------------------

namespace Solvela

open Effects

variable {X : Crates}
variable {R : PaymentReader X}

/- A stream is paid for once. -/
theorem StreamAttempt.paymentCount_le_one
    {client : SolvelaClient X}
    {url : String}
    {req : ChatRequest}
    {es : List Exchange}
    {r : Except ClientError
      (List (Except ClientError X.ChatChunk))}
    (hAttempt : StreamAttempt client url req es r) :
    paymentCount es ≤ 1 := by
  cases hAttempt with
  | failed hProbe _ =>
      rw [paymentCount_of_unpaid
        (payments_eq_nil_of_unpaid
          (hProbe.payments_eq_nil unpaid_nil) (by simp))]
      exact Nat.zero_le 1
  | opened hProbe _ hOpening =>
      rw [paymentCount_of_unpaid]
      · exact Nat.zero_le 1
      · intro e hMem
        rcases List.mem_pair.mp hMem with rfl | rfl
        · exact hProbe.payments_eq_nil unpaid_nil
        · exact hOpening.payments_eq_nil unpaid_nil
  | refused hProbe _ hRpcs =>
      rw [paymentCount_of_unpaid
        (payments_eq_nil_of_unpaid
          (hProbe.payments_eq_nil unpaid_nil) hRpcs)]
      exact Nat.zero_le 1
  | @paid probe payment _ rpcs _ _ hProbe _ hRpcs _ _ =>
      have hSplit :
          paymentCount (probe :: (rpcs ++ [payment])) =
            paymentCount (probe :: rpcs) +
              paymentCount [payment] :=
        paymentCount_append (probe :: rpcs) [payment]
      rw [hSplit, paymentCount_of_unpaid
        (payments_eq_nil_of_unpaid
          (hProbe.payments_eq_nil unpaid_nil) hRpcs),
        Nat.zero_add]
      exact List.countP_le_length

/- Without a quality check, a chat call pays once. -/
theorem Conversation.paymentCount_le_one
    {client : SolvelaClient X}
    {url : String}
    {req : ChatRequest}
    {es : List Exchange}
    {r : Except ClientError ChatResponse}
    (hTalk : Conversation client url req es r)
    (hOff : client.config.enableQualityCheck = false) :
    paymentCount es ≤ 1 := by
  cases hTalk with
  | failed hAttempt =>
      exact hAttempt.paymentCount_le_one unpaid_nil
  | unchecked _ hAttempt =>
      exact hAttempt.paymentCount_le_one unpaid_nil
  | checked hOn _ _ =>
      rw [hOff] at hOn
      cases hOn

/- What an invocation can spend. -/
def Commands.mostSpent : Commands → Nat
| .chat _ _ _ maxPayment =>
    (maxPayment.getD defaultMaxPaymentAmountAtomic).toNat
| _ => 0

/- How many payments a command makes at most. -/
def Commands.mostPayments : Commands → Nat
| .chat _ _ _ _ => 1
| _ => 0

namespace Cli

/- The calls that build the configuration of the command. -/
def chatSettings
    (args : CliArgs)
    (maxPayment : Option UInt64) : List Setting :=
  [.gatewayUrl args.gateway, .rpcUrl args.rpcUrl] ++
    (maxPayment.map Setting.maxPaymentAmount).toList

theorem chatConfig_eq_after
    (args : CliArgs)
    (maxPayment : Option UInt64) :
    chatConfig args maxPayment =
      (ClientBuilder.new.after
        (chatSettings args maxPayment)).buildConfig := by
  cases maxPayment with
  | none => rfl
  | some max => rfl

/- The configuration of the command is capped. -/
theorem chatConfig_cap
    (args : CliArgs)
    (maxPayment : Option UInt64) :
    (chatConfig args maxPayment).maxPaymentAmount =
      some (maxPayment.getD defaultMaxPaymentAmountAtomic) := by
  have hCap : capOf (chatSettings args maxPayment) =
      maxPayment.getD defaultMaxPaymentAmountAtomic := by
    cases maxPayment with
    | none => rfl
    | some max => rfl
  rw [chatConfig_eq_after, ← hCap]
  exact (builder_updates_defaults
    (chatSettings args maxPayment)).2.1

theorem chatConfig_unchecked
    (args : CliArgs)
    (maxPayment : Option UInt64) :
    (chatConfig args maxPayment).enableQualityCheck =
      false := by
  cases maxPayment with
  | none => rfl
  | some max => rfl

variable (R)
variable (C : CliCrates X)
variable (shell : Shell)
variable (args : CliArgs)

theorem exchanged_chat
    (prompt model : String)
    (noStream : Bool)
    (maxPayment : Option UInt64) :
    Always
      (Machine.Exchanged
        (Frugal R
          (maxPayment.getD
            defaultMaxPaymentAmountAtomic).toNat 1))
      (chat C shell args prompt model noStream maxPayment) := by
  have hNone : Frugal R
      (maxPayment.getD defaultMaxPaymentAmountAtomic).toNat 1
        [] :=
    frugal_of_unspent unspent_nil
  apply exchanged_of_quiet_bind hNone
    (quiet_loadArgs C shell args.wallet)
  intro wallet m r m' hRun
  have hCap := chatConfig_cap args maxPayment
  have hOff := chatConfig_unchecked args maxPayment
  rcases runs_ofOutcome_bind.mp hRun with
    ⟨client, hClient, hRest⟩ | ⟨_, _, _, rfl⟩
  · have hConfig :
        client.config = chatConfig args maxPayment := by
      unfold newClient at hClient
      cases hBuild : shell.buildError
          (chatConfig args maxPayment).timeout with
      | some e =>
          rw [hBuild] at hClient
          cases hClient
      | none =>
          rw [hBuild] at hClient
          cases hClient
          rfl
    rw [← hConfig] at hCap hOff
    by_cases hStream :
        (shell.isTerminal && !noStream) = true
    · rw [if_pos hStream] at hRest
      refine exchanged_bind_of_quiet
        (exchanged_onClient ?_ _)
        (fun items => quiet_printStream C shell items)
        m r m' hRest
      intro world r₀ world' hTalk
      rcases SolvelaClient.chatStream_trace hTalk with
        ⟨es, hTrace, hAttempt⟩
      exact ⟨es, hTrace, hAttempt.spent_le hCap,
        hAttempt.paymentCount_le_one⟩
    · rw [if_neg hStream] at hRest
      have hPrint : ∀ resp, Always Machine.Quiet
          (if shell.isTerminal then
            printAnswer resp
          else
            printJson C resp) := by
        intro resp
        cases shell.isTerminal with
        | true => exact quiet_printAnswer resp
        | false => exact quiet_printJson C resp
      refine exchanged_bind_of_quiet
        (exchanged_onClient ?_ _) hPrint m r m' hRest
      intro world r₀ world' hTalk
      rcases SolvelaClient.chat_trace hTalk with
        hSame | ⟨es, hTrace, hConversation⟩
      · exact ⟨[], by rw [hSame, List.append_nil], hNone⟩
      · exact ⟨es, hTrace,
          spent_le_of_no_retries hConversation hCap
            (Or.inl hOff),
          hConversation.paymentCount_le_one hOff⟩
  · exact Machine.Quiet.exchanged hNone m' m' (.refl m')

end Cli

end Solvela

------------------------------------------------------------
-- Any Number Of Invocations
------------------------------------------------------------

namespace Solvela

open Effects

variable {X : Crates}
variable (R : PaymentReader X)
variable (C : CliCrates X)

namespace Cli

variable (shell : Shell)
variable (args : CliArgs)

/- Saving and looking at a wallet is free. -/
theorem spends_wallet
    (action : WalletAction) :
    Always (Machine.Spends R 0 0)
      (wallet C shell args action) := by
  have hFree : ∀ {x : CliProg Unit},
      Always (Machine.Keeps Machine.trace) x →
        Always (Machine.Spends R 0 0) x :=
    fun hSame => hSame.mono Machine.spends_of_same
  cases action with
  | create force =>
      exact hFree (keepsTrace_create C shell args.wallet force)
  | importWallet mnemonic keypair force =>
      cases mnemonic with
      | true =>
          exact hFree
            (keepsTrace_importMnemonic C shell args.wallet force)
      | false =>
          cases keypair with
          | true =>
              exact hFree (keepsTrace_importKeypair C shell
                args.wallet force)
          | false =>
              exact hFree (keepsTrace_of_quiet (quiet_throw _))
  | balance =>
      exact (exchanged_balance C shell args).mono
        (Machine.Exchanged.spends
          (fun _ => frugal_of_unspent))
  | address =>
      exact hFree (keepsTrace_of_quiet
        (quiet_address C shell args.wallet))
  | exportWallet yes =>
      exact hFree (keepsTrace_of_quiet
        (quiet_exportWallet C shell args.wallet yes))

theorem spends_run
    (command : Commands) :
    Always
      (Machine.Spends R command.mostSpent
        command.mostPayments)
      (run C shell args command) := by
  cases command with
  | wallet action => exact spends_wallet R C shell args action
  | chat prompt model noStream maxPayment =>
      exact (exchanged_chat R C shell args prompt model
        noStream maxPayment).mono
          (Machine.Exchanged.spends (fun _ hHolds => hHolds))
  | models provider json =>
      exact (exchanged_models C shell args provider json).mono
        (Machine.Exchanged.spends
          (fun _ => frugal_of_unspent))
  | doctor =>
      exact (exchanged_doctor C shell args).mono
        (Machine.Exchanged.spends
          (fun _ => frugal_of_unspent))

end Cli

/- How a process ends adds no exchange. -/
theorem conclude_trace
    (r : Except Exit Unit)
    (m : Machine) :
    (conclude r m).2.trace = m.trace := by
  cases r with
  | ok _ => rfl
  | error e =>
      cases e with
      | error message => rfl
      | panic => rfl

theorem spends_invoke
    (call : Invocation)
    (m : Machine) :
    Machine.Spends R call.command.mostSpent
      call.command.mostPayments m (invoke C call m).2 := by
  have hRun :=
    Cli.spends_run R C call.shell call.args call.command
      { m with out := [], err := [] } _ _
      (runs_outcome
        (Cli.run C call.shell call.args call.command) _)
  rcases hRun with ⟨es, hTrace, hFrugal⟩
  refine ⟨es, ?_, hFrugal⟩
  unfold invoke
  rw [conclude_trace]
  exact hTrace

/-
  Any number of invocations, by whatever arguments, before
  whatever peers, spend no more than the maxima of the `chat`
  commands among them, and pay once for each at most.
-/
theorem cli_spending_le
    (calls : List Invocation)
    (m : Machine) :
    ∃ es,
      (invokeAll C calls m).2.trace = m.trace ++ es ∧
        R.spent es ≤
            (calls.map
              (fun call => call.command.mostSpent)).sum ∧
          paymentCount es ≤
            (calls.map
              (fun call => call.command.mostPayments)).sum := by
  induction calls generalizing m with
  | nil =>
      have hNone : Frugal R 0 0 [] :=
        frugal_of_unspent unspent_nil
      exact ⟨[], (List.append_nil _).symm, hNone⟩
  | cons call calls ih =>
      rcases spends_invoke R C call m with
        ⟨first, hFirst, hFrugal⟩
      rcases ih (invoke C call m).2 with
        ⟨later, hLater, hSpent, hCount⟩
      refine ⟨first ++ later, ?_,
        frugal_append hFrugal ⟨hSpent, hCount⟩⟩
      rw [hFirst] at hLater
      rw [← List.append_assoc]
      exact hLater

end Solvela
