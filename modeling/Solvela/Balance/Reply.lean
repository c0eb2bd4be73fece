import Solvela.Balance.Model
import Solvela.Client.Charging
import Solvela.Client.Fallback
import Solvela.Foundations.Transitions

/-
  What the replies of the RPC endpoint do to the balance.

  Both readers of a reply take any `error` member, and any
  amount that is not a number, for a balance of zero.  So a
  passing failure of the endpoint looks like an empty wallet.

  Main declarations:
    * `Reading`, `reading`
    * `Reading.Rightly`, `Reading.Harmless`
    * `SolvelaClient.usdcBalanceOf_spec`
    * `BalanceMonitor.fetchBalance_spec`
    * `PollStep`, `Heeds`, `heeds_of_harmless`
    * `balance_replies_iff`
-/

------------------------------------------------------------
-- What A Reply Says
------------------------------------------------------------

namespace Solvela

/- What a reply says about the balance. -/
inductive Reading where
  | unreadable
  | error (value : Json)
  | amount (value : ℚ)
  | nullError (value : Option ℚ)
  | missing

/- The amount in an RPC document, if it is a number. -/
def uiAmount
    (json : Json) : Option ℚ :=
  (((json.index "result").index "value").index
    "uiAmount").asF64

/-
  A document carries an error that is not null, or a null
  error, or an amount, or nothing of the kind.
-/
def readingOfJson
    (json : Json) : Reading :=
  match json.get "error" with
  | some .null => .nullError (uiAmount json)
  | some value => .error value
  | none =>
      match uiAmount json with
      | some value => .amount value
      | none => .missing

/- A reply is read if it is a success and holds a document. -/
def reading
    (X : Crates)
    (reply : Except ReqwestError HttpResponse) : Reading :=
  match reply with
  | .error _ => .unreadable
  | .ok resp =>
      if resp.isSuccess then
        match resp.body with
        | .error _ => .unreadable
        | .ok text =>
            match X.valueFromStr text with
            | .error _ => .unreadable
            | .ok json => readingOfJson json
      else
        .unreadable

namespace Reading

/-
  The balance that a reading reports: a number, or zero for
  an account that was not found.
-/
def Reports
    (notFound : Json → Prop)
    (balance : ℚ) : Reading → Prop
| .unreadable => False
| .error value => notFound value ∧ balance = 0
| .amount value => balance = value
| .nullError value => value = some balance
| .missing => False

/- A reading that reports no balance at all. -/
def Silent
    (notFound : Json → Prop)
    (said : Reading) : Prop :=
  ∀ balance, ¬ said.Reports notFound balance

/-
  A balance of zero is only taken from a reading that reports
  it, and a reading that reports nothing is an error.
-/
structure Rightly
    {ε : Type}
    (notFound : Json → Prop)
    (IsError : ε → Prop)
    (said : Reading)
    (r : Except ε ℚ) : Prop where
  zero : r = .ok 0 → said.Reports notFound 0
  silent : said.Silent notFound → ∃ e, r = .error e ∧ IsError e

/- The readings for which the code does so. -/
def Harmless
    (notFound : Json → Prop) : Reading → Prop
| .unreadable => True
| .error value => notFound value
| .amount _ => True
| .nullError value => value = some 0
| .missing => False

/- What the code takes a reading for, or nothing. -/
def taken : Reading → Option ℚ
| .unreadable => none
| .error _ => some 0
| .amount value => some value
| .nullError _ => some 0
| .missing => some 0

end Reading

end Solvela

------------------------------------------------------------
-- What The Code Makes Of It
------------------------------------------------------------

namespace Solvela

variable {X : Crates}

/- The amount that is read from a document. -/
theorem taken_readingOfJson
    (json : Json) :
    (readingOfJson json).taken =
      some (SolvelaClient.readUiAmount json) := by
  unfold readingOfJson SolvelaClient.readUiAmount
  cases json.get "error" with
  | some value =>
      cases value with
      | null => rfl
      | bool _ => rfl
      | number _ => rfl
      | string _ => rfl
      | array _ => rfl
      | object _ => rfl
  | none =>
      cases hAmount : uiAmount json with
      | none =>
          unfold uiAmount at hAmount
          rw [hAmount]
          rfl
      | some value =>
          unfold uiAmount at hAmount
          rw [hAmount]
          rfl

/- An outcome takes a reading for what the code does. -/
def Takes
    {ε : Type}
    (IsError : ε → Prop)
    (said : Reading)
    (r : Except ε ℚ) : Prop :=
  match said.taken with
  | some balance => r = .ok balance
  | none => ∃ e, r = .error e ∧ IsError e

/-
  An outcome of that kind is right exactly for a harmless
  reading.
-/
theorem rightly_iff
    {ε : Type}
    {notFound : Json → Prop}
    {IsError : ε → Prop}
    {said : Reading}
    {r : Except ε ℚ}
    (hTakes : Takes IsError said r) :
    said.Rightly notFound IsError r ↔
      said.Harmless notFound := by
  have hReported :
      ∀ balance, said.Reports notFound balance →
        ¬ said.Silent notFound := by
    intro balance hReports hSilent
    exact hSilent balance hReports
  cases said with
  | unreadable =>
      rcases hTakes with ⟨e, rfl, hError⟩
      constructor
      · intro _
        trivial
      · intro _
        exact
          { zero := fun hNo => by cases hNo
            silent := fun _ => ⟨e, rfl, hError⟩ }
  | error value =>
      have hOk : r = .ok 0 := hTakes
      constructor
      · intro hRightly
        exact (hRightly.zero hOk).1
      · intro hFound
        exact
          { zero := fun _ => ⟨hFound, rfl⟩
            silent := fun hSilent =>
              absurd hSilent
                (hReported 0 ⟨hFound, rfl⟩) }
  | amount value =>
      have hOk : r = .ok value := hTakes
      constructor
      · intro _
        trivial
      · intro _
        refine
          { zero := ?_
            silent := fun hSilent =>
              absurd hSilent (hReported value rfl) }
        intro hSame
        rw [hOk] at hSame
        injection hSame with hValue
        exact hValue.symm
  | nullError value =>
      have hOk : r = .ok 0 := hTakes
      constructor
      · intro hRightly
        exact hRightly.zero hOk
      · intro hHarmless
        exact
          { zero := fun _ => hHarmless
            silent := fun hSilent =>
              absurd hSilent (hReported 0 hHarmless) }
  | missing =>
      have hOk : r = .ok 0 := hTakes
      constructor
      · intro hRightly
        exact hRightly.zero hOk
      · intro hNo
        cases hNo

end Solvela

------------------------------------------------------------
-- The Two Readers
------------------------------------------------------------

namespace Solvela

open Effects

variable {X : Crates}

/-
  A reader of replies, by its errors: for a failed request,
  a failed status, a body that cannot be read and a body that
  is no document.
-/
theorem takes_of_reader
    {ε : Type}
    {IsError : ε → Prop}
    {failed unreadable : ReqwestError → ε}
    {refused : HttpResponse → ε}
    {unparsed : String → ε}
    (hFailed : ∀ e, IsError (failed e))
    (hUnreadable : ∀ e, IsError (unreadable e))
    (hRefused : ∀ resp, IsError (refused resp))
    (hUnparsed : ∀ e, IsError (unparsed e))
    (reply : Except ReqwestError HttpResponse) :
    Takes IsError (reading X reply)
      (replyOutcome failed
        (fun resp =>
          if resp.isSuccess then do
            let text ← resp.body.mapError unreadable
            let json ← (X.valueFromStr text).mapError unparsed
            pure (SolvelaClient.readUiAmount json)
          else
            .error (refused resp)) reply) := by
  cases reply with
  | error e => exact ⟨_, rfl, hFailed e⟩
  | ok resp =>
      unfold reading replyOutcome
      simp only
      by_cases hSuccess : resp.isSuccess
      · rw [if_pos hSuccess, if_pos hSuccess]
        cases resp.body with
        | error e => exact ⟨_, rfl, hUnreadable e⟩
        | ok text =>
            simp only
            change Takes _ _
              (((X.valueFromStr text).mapError unparsed).bind
                (fun json =>
                  .ok (SolvelaClient.readUiAmount json)))
            cases X.valueFromStr text with
            | error e => exact ⟨_, rfl, hUnparsed e⟩
            | ok json =>
                unfold Takes
                rw [taken_readingOfJson]
                rfl
      · rw [if_neg hSuccess, if_neg hSuccess]
        exact ⟨_, rfl, hRefused resp⟩

namespace SolvelaClient

/- The error of a balance query. -/
def IsBalanceError : ClientError → Prop
| .balanceError _ => True
| _ => False

/- The client takes a reply for what its reading says. -/
theorem readBalance_takes
    (reply : Except ReqwestError HttpResponse) :
    Takes IsBalanceError (reading X reply)
      (replyOutcome
        (fun e => ClientError.balanceError e.message)
        (readBalance X) reply) :=
  takes_of_reader (fun _ => trivial) (fun _ => trivial)
    (fun _ => trivial) (fun _ => trivial) reply

theorem isBalanceError_of_mapError
    {α : Type}
    {x : Except String α}
    {message : String → String}
    {e : ClientError}
    (hError :
      x.mapError (fun text =>
        ClientError.balanceError (message text)) =
        .error e) :
    IsBalanceError e := by
  cases x with
  | ok a => cases hError
  | error text =>
      cases hError
      trivial

/-
  A query of the balance fails before it sends anything, or
  it sends one request and takes the reply for what it says.
-/
theorem usdcBalanceOf_spec
    {client : SolvelaClient X}
    {env : Env}
    {address : String}
    {world world' : World X}
    {r : Except ClientError ℚ}
    (hRun :
      Runs (client.usdcBalanceOf env address) world r
        world') :
    (world' = world ∧ ∃ e, r = .error e ∧ IsBalanceError e) ∨
      ∃ request reply,
        reply = env.reply world.trace .rpc request ∧
          world' = world.extend
            [{ peer := .rpc, request := request,
               reply := reply }] ∧
          Takes IsBalanceError (reading X reply) r := by
  unfold usdcBalanceOf at hRun
  rcases runs_ofOutcome_bind.mp hRun with
    ⟨owner, _, hRest⟩ | ⟨e, hNoOwner, rfl, rfl⟩
  · rcases runs_ofOutcome_bind.mp hRest with
      ⟨mint, _, hSent⟩ | ⟨e, hNoMint, rfl, rfl⟩
    · rcases runs_exchange.mp hSent with
        ⟨reply, hReply, rfl, rfl⟩
      exact Or.inr
        ⟨_, reply, hReply, rfl, readBalance_takes reply⟩
    · exact Or.inl
        ⟨rfl, e, rfl, isBalanceError_of_mapError hNoMint⟩
  · exact Or.inl
      ⟨rfl, e, rfl, isBalanceError_of_mapError hNoOwner⟩

end SolvelaClient

namespace BalanceMonitor

/- The monitor takes it for the same. -/
theorem readBalance_takes
    (reply : Except ReqwestError HttpResponse) :
    Takes (fun _ => True) (reading X reply)
      (replyOutcome
        (fun e => BalanceError.rpcRequest e.message)
        (readBalance X) reply) :=
  takes_of_reader (fun _ => trivial) (fun _ => trivial)
    (fun _ => trivial) (fun _ => trivial) reply

theorem fetchBalance_spec
    {monitor : BalanceMonitor}
    {env : Env}
    {ata : Pubkey}
    {world world' : World X}
    {r : Except BalanceError ℚ}
    (hRun :
      Runs (monitor.fetchBalance env ata) world r world') :
    ∃ request reply,
      reply = env.reply world.trace .rpc request ∧
        world' = world.extend
          [{ peer := .rpc, request := request,
             reply := reply }] ∧
        Takes (fun _ => True) (reading X reply) r := by
  unfold fetchBalance at hRun
  rcases runs_exchange.mp hRun with ⟨reply, hReply, rfl, rfl⟩
  exact ⟨_, reply, hReply, rfl, readBalance_takes reply⟩

end BalanceMonitor

end Solvela

------------------------------------------------------------
-- Polling
------------------------------------------------------------

namespace Solvela

open Effects
open Transitions

/- What a monitor shares, and what it keeps to itself. -/
structure MonitorView where
  balance : UInt64
  state : MonitorState

namespace MonitorView

/-
  The view once the balance is known to be `amount`: the
  callback is called when the balance becomes low.
-/
def told
    (monitor : BalanceMonitor)
    (view : MonitorView)
    (amount : ℚ) : MonitorView where
  balance := castU64 (amount * 1000000)
  state :=
    { wasLow := decide (amount < monitor.lowBalanceThreshold)
      calls :=
        if decide (amount < monitor.lowBalanceThreshold) &&
            !view.state.wasLow && monitor.onLowBalance then
          view.state.calls ++ [amount]
        else
          view.state.calls }

/- The view once a reply was taken for what it says. -/
def takes
    (monitor : BalanceMonitor)
    (view : MonitorView)
    (said : Reading) : MonitorView :=
  match said.taken with
  | some amount => view.told monitor amount
  | none => view

end MonitorView

/-
  What a monitor is for: a reply that reports a balance is
  heeded, and any other reply leaves all as it was.
-/
inductive Heeds
    (notFound : Json → Prop)
    (monitor : BalanceMonitor) :
    MonitorView → Reading → MonitorView → Prop where
  | told
      {view : MonitorView}
      {said : Reading}
      {amount : ℚ}
      (hReports : said.Reports notFound amount) :
      Heeds notFound monitor view said
        (view.told monitor amount)
  | kept
      {view : MonitorView}
      {said : Reading}
      (hSilent : said.Silent notFound) :
      Heeds notFound monitor view said view

/- A silent reply leaves the view as it was. -/
theorem Heeds.of_silent
    {notFound : Json → Prop}
    {monitor : BalanceMonitor}
    {view next : MonitorView}
    {said : Reading}
    (hHeeds : Heeds notFound monitor view said next)
    (hSilent : said.Silent notFound) :
    next = view := by
  cases hHeeds with
  | told hReports => exact absurd hReports (hSilent _)
  | kept _ => rfl

/- A harmless reply is heeded by taking it as the code does. -/
theorem heeds_of_harmless
    {notFound : Json → Prop}
    {monitor : BalanceMonitor}
    {view : MonitorView}
    {said : Reading}
    (hHarmless : said.Harmless notFound) :
    Heeds notFound monitor view said
      (view.takes monitor said) := by
  cases said with
  | unreadable => exact .kept (fun _ hNo => hNo)
  | error value => exact .told ⟨hHarmless, rfl⟩
  | amount value => exact .told rfl
  | nullError value => exact .told hHarmless
  | missing => cases hHarmless

/-
  A run that heeds its replies shows a balance of zero only
  if it began with one or was told of one.
-/
theorem exists_report_of_zero
    {notFound : Json → Prop}
    {monitor : BalanceMonitor}
    {view next : MonitorView}
    {said : List Reading}
    (hRun :
      LabelledRun (Heeds notFound monitor) view said next)
    (hZero : next.balance = 0) :
    view.balance = 0 ∨
      ∃ reading ∈ said, ∃ amount,
        reading.Reports notFound amount ∧
          castU64 (amount * 1000000) = 0 := by
  have hInv :=
    hRun.invariant
      (fun past seen =>
        seen.balance = 0 →
          view.balance = 0 ∨
            ∃ reading ∈ past, ∃ amount,
              reading.Reports notFound amount ∧
                castU64 (amount * 1000000) = 0)
      (fun hStart => Or.inl hStart)
  apply hInv ?_ hZero
  intro past seen reading after _ hSeen hHeeds hAfter
  cases hHeeds with
  | told hReports =>
      exact Or.inr ⟨reading,
        List.mem_append_right past List.mem_cons_self,
        _, hReports, hAfter⟩
  | kept _ =>
      rcases hSeen hAfter with
        hStart | ⟨earlier, hMem, hReported⟩
      · exact Or.inl hStart
      · exact Or.inr ⟨earlier,
          List.mem_append_left [reading] hMem, hReported⟩

end Solvela

------------------------------------------------------------
-- Runs Of The Monitor
------------------------------------------------------------

namespace Solvela

open Effects
open Transitions

variable {X : Crates}

/- The view of a monitor in its world. -/
def viewOf
    (s : MonitorState × World X) : MonitorView where
  balance := s.2.balanceState
  state := s.1

/- A poll succeeds, whatever the reply, and takes it. -/
theorem BalanceMonitor.poll_spec
    {monitor : BalanceMonitor}
    {env : Env}
    {ata : Pubkey}
    {state : MonitorState}
    {world world' : World X}
    {r : Except Empty MonitorState}
    (hRun :
      Runs (monitor.poll env ata state) world r world') :
    ∃ next request reply,
      r = .ok next ∧
        reply = env.reply world.trace .rpc request ∧
        world'.trace = world.trace ++
          [{ peer := .rpc, request := request,
             reply := reply }] ∧
        viewOf (next, world') =
          (viewOf (state, world)).takes monitor
            (reading X reply) := by
  unfold poll at hRun
  rcases runs_attempt_bind.mp hRun with
    ⟨fetched, world'', hFetch, hRest⟩
  rcases fetchBalance_spec hFetch with
    ⟨request, reply, hReply, rfl, hTakes⟩
  unfold Takes at hTakes
  unfold MonitorView.takes
  cases hTaken : (reading X reply).taken with
  | none =>
      rw [hTaken] at hTakes
      rcases hTakes with ⟨e, rfl, _⟩
      rcases runs_pure.mp hRest with ⟨rfl, rfl⟩
      refine ⟨state, request, reply, rfl, hReply, rfl, ?_⟩
      rw [hTaken]
      rfl
  | some amount =>
      rw [hTaken] at hTakes
      rw [hTakes] at hRest
      simp only at hRest
      rw [runs_modify_bind] at hRest
      rcases runs_pure.mp hRest with ⟨rfl, rfl⟩
      refine ⟨_, request, reply, rfl, hReply, rfl, ?_⟩
      rw [hTaken]
      rfl

/-
  A poll at some moment: whatever happened since the last
  one, the balance is still what the monitor shared.  There
  are no polls if the monitored address is invalid.
-/
structure PollStep
    (monitor : BalanceMonitor)
    (before : MonitorState × World X)
    (reply : Except ReqwestError HttpResponse)
    (after : MonitorState × World X) : Prop where
  polls :
    ∃ ata env world request,
      monitor.monitoredAccount X = .ok ata ∧
        world.balanceState = before.2.balanceState ∧
        Runs (monitor.poll env ata before.1) world
          (.ok after.1) after.2 ∧
        after.2.trace = world.trace ++
          [{ peer := .rpc, request := request,
             reply := reply }]

/- A poll takes the reply for what the code takes it for. -/
theorem PollStep.view_eq
    {monitor : BalanceMonitor}
    {before after : MonitorState × World X}
    {reply : Except ReqwestError HttpResponse}
    (hStep : PollStep monitor before reply after) :
    viewOf after =
      (viewOf before).takes monitor (reading X reply) := by
  rcases hStep.polls with
    ⟨ata, env, world, request, _, hBalance, hRun, hTrace⟩
  rcases BalanceMonitor.poll_spec hRun with
    ⟨next, request', reply', hNext, _, hTrace', hView⟩
  injection hNext with hNext
  have hReply : reply' = reply := by
    rw [hTrace] at hTrace'
    have hLast := List.append_cancel_left hTrace'
    injection hLast with hSame
    injection hSame with _ _ hReply
    exact hReply.symm
  have hBefore : viewOf (before.1, world) = viewOf before := by
    unfold viewOf
    rw [hBalance]
  rw [← hNext, hReply, hBefore] at hView
  exact hView

/- An endpoint that always gives the same reply. -/
def steadyEnv
    (reply : Except ReqwestError HttpResponse) : Env where
  reply := fun _ _ _ => reply
  delay := fun _ => 1

/- From every state and on every reply a poll is made. -/
theorem exists_pollStep
    {monitor : BalanceMonitor}
    {ata : Pubkey}
    (hAccount : monitor.monitoredAccount X = .ok ata)
    (before : MonitorState × World X)
    (reply : Except ReqwestError HttpResponse) :
    ∃ after, PollStep monitor before reply after := by
  rcases exists_runs
      (monitor.poll (steadyEnv reply) ata before.1)
      before.2 with ⟨r, world, hRun⟩
  rcases BalanceMonitor.poll_spec hRun with
    ⟨next, request, _, rfl, rfl, hTrace, _⟩
  exact ⟨(next, world),
    ⟨ata, _, before.2, request, hAccount, rfl, hRun,
      hTrace⟩⟩

end Solvela

------------------------------------------------------------
-- When Replies Are Read Rightly
------------------------------------------------------------

namespace Solvela

open Effects
open Transitions

variable {X : Crates}

/-
  One request was sent, and the outcome is right exactly if
  the reply is harmless.
-/
def RightIffHarmless
    {ε : Type}
    (notFound : Json → Prop)
    (IsError : ε → Prop)
    (world : World X)
    (r : Except ε ℚ)
    (world' : World X) : Prop :=
  ∃ request reply,
    world' = world.extend
        [{ peer := .rpc, request := request,
           reply := reply }] ∧
      ((reading X reply).Rightly notFound IsError r ↔
        (reading X reply).Harmless notFound)

/-
  After the given polls, the last one a step, the monitor has
  heeded all replies: a silent last one changed nothing, and
  the guard falls back only on a balance of zero that the run
  began with or that a reply reported.
-/
structure KeepsLastKnown
    (notFound : Json → Prop)
    (monitor : BalanceMonitor)
    (start before after : MonitorState × World X)
    (polls : List (Except ReqwestError HttpResponse))
    (reply : Except ReqwestError HttpResponse) : Prop where
  heeds :
    LabelledRun (Heeds notFound monitor) (viewOf start)
      ((polls ++ [reply]).map (reading X)) (viewOf after)
  balanceState :
    (reading X reply).Silent notFound →
      after.2.balanceState = before.2.balanceState
  callback :
    (reading X reply).Silent notFound →
      after.1 = before.1
  guard :
    ∀ config req,
      (SolvelaClient.balanceGuard config
          after.2.balanceState req).2 = true →
        start.2.balanceState = 0 ∨
          ∃ told ∈ polls ++ [reply], ∃ amount,
            (reading X told).Reports notFound amount ∧
              castU64 (amount * 1000000) = 0

/- A run over harmless replies heeds them all. -/
theorem heeds_of_run
    {notFound : Json → Prop}
    {monitor : BalanceMonitor}
    {start after : MonitorState × World X}
    {polls : List (Except ReqwestError HttpResponse)}
    (hRun :
      LabelledRun (PollStep monitor) start polls after)
    (hHarmless :
      ∀ reply ∈ polls, (reading X reply).Harmless notFound) :
    LabelledRun (Heeds notFound monitor) (viewOf start)
      (polls.map (reading X)) (viewOf after) := by
  refine hRun.simulates ?_
  intro s reply t hMem hPoll
  rw [hPoll.view_eq]
  exact heeds_of_harmless (hHarmless reply hMem)

/- The guard falls back only at balance zero. -/
theorem balance_eq_zero_of_fallback
    {config : ClientConfig}
    {balance : UInt64}
    {req : ChatRequest}
    (hFallback :
      (SolvelaClient.balanceGuard config balance req).2 =
        true) :
    balance = 0 := by
  by_contra hBalance
  rw [SolvelaClient.balanceGuard_of_ne_zero hBalance]
    at hFallback
  cases hFallback

theorem keepsLastKnown
    {notFound : Json → Prop}
    {monitor : BalanceMonitor}
    {start before after : MonitorState × World X}
    {polls : List (Except ReqwestError HttpResponse)}
    {reply : Except ReqwestError HttpResponse}
    (hRun :
      LabelledRun (PollStep monitor) start polls before)
    (hStep : PollStep monitor before reply after)
    (hHarmless :
      ∀ told ∈ polls ++ [reply],
        (reading X told).Harmless notFound) :
    KeepsLastKnown notFound monitor start before after polls
      reply := by
  have hHeeds :=
    heeds_of_run (labelledRun_snoc.mpr ⟨before, hRun, hStep⟩)
      hHarmless
  have hView :
      (reading X reply).Silent notFound →
        viewOf after = viewOf before := by
    intro hSilent
    have hLast :
        Heeds notFound monitor (viewOf before)
          (reading X reply) (viewOf after) := by
      rw [hStep.view_eq]
      exact heeds_of_harmless
        (hHarmless reply
          (List.mem_append_right polls List.mem_cons_self))
    exact hLast.of_silent hSilent
  refine
    { heeds := hHeeds
      balanceState := fun hSilent =>
        congrArg MonitorView.balance (hView hSilent)
      callback := fun hSilent =>
        congrArg MonitorView.state (hView hSilent)
      guard := ?_ }
  intro config req hFallback
  rcases exists_report_of_zero hHeeds
      (balance_eq_zero_of_fallback hFallback) with
    hStart | ⟨said, hMem, hReported⟩
  · exact Or.inl hStart
  · rcases List.mem_map.mp hMem with ⟨told, hTold, rfl⟩
    exact Or.inr ⟨told, hTold, hReported⟩

/-
  Over every reply of the endpoint, both readers are right
  exactly when the reply is harmless, and in every run over
  harmless replies the monitor keeps the last known balance.
-/
theorem balance_replies_iff
    (notFound : Json → Prop) :
    (∀ (client : SolvelaClient X) (env : Env)
      (address : String) (world world' : World X)
      (r : Except ClientError ℚ),
      Runs (client.usdcBalanceOf env address) world r
          world' →
        (world' = world ∧
          ∃ e, r = .error e ∧
            SolvelaClient.IsBalanceError e) ∨
        RightIffHarmless notFound
          SolvelaClient.IsBalanceError world r world') ∧
    (∀ (monitor : BalanceMonitor) (env : Env)
      (ata : Pubkey) (world world' : World X)
      (r : Except BalanceError ℚ),
      Runs (monitor.fetchBalance env ata) world r world' →
        RightIffHarmless notFound (fun _ => True) world r
          world') ∧
    (∀ (monitor : BalanceMonitor) (world : World X)
      (polls : List (Except ReqwestError HttpResponse))
      (reply : Except ReqwestError HttpResponse)
      (before after : MonitorState × World X),
      LabelledRun (PollStep monitor)
          (BalanceMonitor.started, world) polls before →
        PollStep monitor before reply after →
          (∀ told ∈ polls ++ [reply],
            (reading X told).Harmless notFound) →
            KeepsLastKnown notFound monitor
              (BalanceMonitor.started, world) before after
              polls reply) := by
  refine ⟨?_, ?_, ?_⟩
  · intro client env address world world' r hRun
    rcases SolvelaClient.usdcBalanceOf_spec hRun with
      hNone | ⟨request, reply, _, hWorld, hTakes⟩
    · exact Or.inl hNone
    · exact Or.inr
        ⟨request, reply, hWorld, rightly_iff hTakes⟩
  · intro monitor env ata world world' r hRun
    rcases BalanceMonitor.fetchBalance_spec hRun with
      ⟨request, reply, _, hWorld, hTakes⟩
    exact ⟨request, reply, hWorld, rightly_iff hTakes⟩
  · intro monitor world polls reply before after hRun
      hStep hHarmless
    exact keepsLastKnown hRun hStep hHarmless

/- The error that says that an account was not found. -/
def couldNotFindAccount
    (value : Json) : Prop :=
  (value.index "message").asStr =
    some "Invalid param: could not find account"

/- A monitor with a callback. -/
def sampleMonitor : BalanceMonitor :=
  { BalanceMonitor.new "rpc" "wallet" with
    onLowBalance := true }

/- A client that was found to hold five dollars. -/
def fundedWorld : World sampleCrates :=
  { World.new freeConfig 0 with balanceState := 5000000 }

open Sample in
theorem sampleMonitor_account :
    ∃ ata,
      sampleMonitor.monitoredAccount sampleCrates =
        .ok ata := by
  have hOwner :
      sampleCrates.pubkeyFromStr sampleMonitor.walletAddress =
        .ok (pubkeyOf "wallet") :=
    pubkeyFromStr_sample (by decide)
  have hMint :
      sampleCrates.pubkeyFromStr sampleCrates.usdcMint =
        .ok (pubkeyOf "USDC") :=
    pubkeyFromStr_sample (by decide)
  unfold BalanceMonitor.monitoredAccount
  rw [hOwner, hMint]
  exact ⟨_, rfl⟩

/- An endpoint that is out of service changes nothing. -/
theorem balance_replies_refused :
    ∃ after,
      PollStep sampleMonitor
          (BalanceMonitor.started, fundedWorld)
          (.ok (responseOf 503 "")) after ∧
        after.2.balanceState = 5000000 ∧
        after.1.calls = [] := by
  rcases sampleMonitor_account with ⟨ata, hAccount⟩
  rcases exists_pollStep hAccount
      (BalanceMonitor.started, fundedWorld)
      (.ok (responseOf 503 "")) with ⟨after, hStep⟩
  have hKeeps :=
    (balance_replies_iff couldNotFindAccount).2.2
      sampleMonitor fundedWorld []
      (.ok (responseOf 503 ""))
      (BalanceMonitor.started, fundedWorld) after
      (labelledRun_nil.mpr rfl) hStep
      (by
        intro told hMem
        rw [List.nil_append, List.mem_singleton] at hMem
        rw [hMem]
        trivial)
  have hSilent :
      (reading sampleCrates (.ok (responseOf 503 ""))).Silent
        couldNotFindAccount :=
    fun _ hNo => hNo
  exact ⟨after, hStep, hKeeps.balanceState hSilent,
    congrArg MonitorState.calls (hKeeps.callback hSilent)⟩

/- The reply of a node that lags behind. -/
def behindReply : Except ReqwestError HttpResponse :=
  .ok (responseOf 200 "behind")

theorem reading_behind :
    ∃ value, reading sampleCrates behindReply = .error value ∧
      ¬ couldNotFindAccount value := by
  refine ⟨_, rfl, ?_⟩
  unfold couldNotFindAccount
  decide

/- The reply carries an error, but for no missing account. -/
theorem silent_behind :
    (reading sampleCrates behindReply).Silent
      couldNotFindAccount := by
  rcases reading_behind with ⟨value, hReading, hOther⟩
  rw [hReading]
  intro balance hReports
  exact hOther hReports.1

open Sample in
/- A lagging node makes a client believe its wallet empty. -/
theorem balance_replies_misread :
    (reading sampleCrates behindReply).Silent
        couldNotFindAccount ∧
      (∃ world,
        Runs ((sampleClient freeConfig).usdcBalanceOf
          (steadyEnv behindReply) "wallet") fundedWorld
          (.ok 0) world) ∧
      ∃ after,
        PollStep sampleMonitor
            (BalanceMonitor.started, fundedWorld) behindReply
            after ∧
          after.2.balanceState = 0 ∧
          after.1.calls = [0] ∧
          (SolvelaClient.balanceGuard freeConfig
            after.2.balanceState sampleRequest).2 = true := by
  rcases reading_behind with ⟨value, hReading, _⟩
  have hTaken :
      (reading sampleCrates behindReply).taken = some 0 := by
    rw [hReading]
    rfl
  refine ⟨silent_behind, ?_, ?_⟩
  · have hOutcome :=
      SolvelaClient.readBalance_takes (X := sampleCrates)
        behindReply
    unfold Takes at hOutcome
    rw [hTaken] at hOutcome
    have hOwner :
        sampleCrates.pubkeyFromStr "wallet" =
          .ok (pubkeyOf "wallet") :=
      pubkeyFromStr_sample (by decide)
    have hMint :
        sampleCrates.pubkeyFromStr sampleCrates.usdcMint =
          .ok (pubkeyOf "USDC") :=
      pubkeyFromStr_sample (by decide)
    exact ⟨_, runs_ofOutcome_bind.mpr (Or.inl
      ⟨_, congrArg _ hOwner, runs_ofOutcome_bind.mpr (Or.inl
        ⟨_, congrArg _ hMint, runs_exchange.mpr
          ⟨behindReply, rfl, hOutcome.symm, rfl⟩⟩)⟩)⟩
  · rcases sampleMonitor_account with ⟨ata, hAccount⟩
    rcases exists_pollStep hAccount
        (BalanceMonitor.started, fundedWorld) behindReply with
      ⟨after, hStep⟩
    have hView := hStep.view_eq
    unfold MonitorView.takes at hView
    rw [hTaken] at hView
    have hBalance : after.2.balanceState = 0 := by
      rw [show after.2.balanceState = (viewOf after).balance
        from rfl, hView]
      simp [MonitorView.told]
    have hCalls : after.1.calls = [0] := by
      rw [show after.1.calls = (viewOf after).state.calls
        from rfl, hView]
      norm_num [MonitorView.told, viewOf, sampleMonitor,
        BalanceMonitor.new, BalanceMonitor.started]
    refine ⟨after, hStep, hBalance, hCalls, ?_⟩
    rw [hBalance]
    rfl

end Solvela
