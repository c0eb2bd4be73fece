import Solvela.Balance.Reply
import Solvela.Client.Replay
import Solvela.Client.Routing

/-
  The balance that a monitor and a client share.

  The monitor writes what its last successful poll read, and
  a call looks at it once, at its beginning.  Together they
  route calls to the fallback model as long as the most
  recent reading is below the smallest unit of USDC.

  Main declarations:
    * `SharedEvent`, `SharedStep`
    * `lastRead`, `Shared`
    * `shared_of_run`
    * `MadeFor`, `CallStep.madeFor`
    * `fallback_follows_polls`
-/

------------------------------------------------------------
-- Polls And Calls
------------------------------------------------------------

namespace Solvela

open Effects

/-
  A poll, with what it fetched, or a call of the client, with
  what surrounds it.
-/
inductive SharedEvent (X : Crates) where
  | polled (fetched : Except BalanceError ℚ)
  | called (env : Env) (c : ChatCall X)

namespace SharedEvent

variable {X : Crates}

/- What a successful poll read. -/
def amount : SharedEvent X → Option ℚ
| .polled fetched => fetched.toOption
| .called _ _ => none

end SharedEvent

variable {X : Crates}

/-
  One event, at a moment of its own: whatever else happened
  since the last one, the balance is as it was left.
-/
inductive SharedStep
    (monitor : BalanceMonitor)
    (client : SolvelaClient X) :
    MonitorState × World X → SharedEvent X →
      MonitorState × World X → Prop where
  | poll
      {before : MonitorState × World X}
      {env : Env}
      {ata : Pubkey}
      {world fetchedIn after : World X}
      {fetched : Except BalanceError ℚ}
      {next : MonitorState}
      (hShared : world.balanceState = before.2.balanceState)
      (hAccount : monitor.monitoredAccount X = .ok ata)
      (hFetch :
        Runs (monitor.fetchBalance env ata) world fetched
          fetchedIn)
      (hPoll :
        Runs (monitor.poll env ata before.1) world (.ok next)
          after) :
      SharedStep monitor client before (.polled fetched)
        (next, after)
  | call
      {before : MonitorState × World X}
      {env : Env}
      {world after : World X}
      {c : ChatCall X}
      (hStart : c.start.balanceState = before.2.balanceState)
      (hCall : CallStep client env world c after) :
      SharedStep monitor client before (.called env c)
        (before.1, after)

/- A poll makes the view show what it fetched. -/
theorem viewOf_poll
    {monitor : BalanceMonitor}
    {env : Env}
    {ata : Pubkey}
    {state next : MonitorState}
    {world fetchedIn after : World X}
    {fetched : Except BalanceError ℚ}
    (hFetch :
      Runs (monitor.fetchBalance env ata) world fetched
        fetchedIn)
    (hPoll :
      Runs (monitor.poll env ata state) world (.ok next)
        after) :
    viewOf (next, after) =
      match fetched with
      | .ok amount => (viewOf (state, world)).told monitor amount
      | .error _ => viewOf (state, world) := by
  rcases BalanceMonitor.fetchBalance_spec hFetch with
    ⟨_, _, _, hWorld, _⟩
  unfold BalanceMonitor.poll at hPoll
  rcases runs_attempt_bind.mp hPoll with
    ⟨fetched', mid, hFetch', hRest⟩
  rcases hFetch'.unique hFetch with ⟨rfl, rfl⟩
  rw [hWorld] at hRest
  cases fetched' with
  | error e =>
      rcases runs_pure.mp hRest with ⟨hNext, rfl⟩
      cases hNext
      rfl
  | ok amount =>
      simp only at hRest
      rw [runs_modify_bind] at hRest
      rcases runs_pure.mp hRest with ⟨hNext, rfl⟩
      cases hNext
      rfl

/- A call leaves the monitor alone. -/
theorem SharedStep.monitor_eq
    {monitor : BalanceMonitor}
    {client : SolvelaClient X}
    {before after : MonitorState × World X}
    {env : Env}
    {c : ChatCall X}
    (hStep :
      SharedStep monitor client before (.called env c)
        after) :
    after.1 = before.1 := by
  cases hStep with
  | call _ _ => rfl

/- A call leaves the balance that it found. -/
theorem CallStep.balanceState
    {client : SolvelaClient X}
    {env : Env}
    {before after : World X}
    {c : ChatCall X}
    (hStep : CallStep client env before c after) :
    after.balanceState = c.start.balanceState := by
  cases hStep with
  | chat _ hRun _ => exact SolvelaClient.chat_balanceState hRun
  | stream _ hRun _ =>
      exact SolvelaClient.chatStream_balanceState hRun

end Solvela

------------------------------------------------------------
-- The Most Recent Reading
------------------------------------------------------------

namespace Solvela

open Transitions

variable {X : Crates}

/- What the most recent successful poll read. -/
def lastRead
    (past : List (SharedEvent X)) : Option ℚ :=
  (past.filterMap SharedEvent.amount).getLast?

theorem lastRead_snoc
    (past : List (SharedEvent X))
    (e : SharedEvent X) :
    lastRead (past ++ [e]) = e.amount.or (lastRead past) := by
  unfold lastRead
  rw [List.filterMap_append]
  cases hAmount : e.amount with
  | none => simp [hAmount]
  | some amount => simp [hAmount]

/- The most recent reading is below the threshold. -/
def ReadBelow
    (threshold : ℚ)
    (past : List (SharedEvent X)) : Prop :=
  ∃ amount, lastRead past = some amount ∧ amount < threshold

theorem readBelow_iff_of_some
    {past : List (SharedEvent X)}
    {amount : ℚ}
    (hRead : lastRead past = some amount)
    (threshold : ℚ) :
    ReadBelow threshold past ↔ amount < threshold := by
  unfold ReadBelow
  rw [hRead]
  constructor
  · intro hBelow
    rcases hBelow with ⟨_, hSame, hBelow⟩
    cases hSame
    exact hBelow
  · intro hBelow
    exact ⟨amount, rfl, hBelow⟩

theorem not_readBelow_of_none
    {past : List (SharedEvent X)}
    (hRead : lastRead past = none)
    (threshold : ℚ) :
    ¬ ReadBelow threshold past := by
  intro hBelow
  rcases hBelow with ⟨amount, hSome, _⟩
  rw [hRead] at hSome
  cases hSome

/-
  The balance and the flag are those of the most recent
  reading; before the first one, they are as they began.
-/
structure Shared
    (monitor : BalanceMonitor)
    (past : List (SharedEvent X))
    (s : MonitorState × World X) : Prop where
  balance : s.2.balanceState =
    (lastRead past).elim balanceNotPolled
      (fun amount => castU64 (amount * 1000000))
  wasLow : s.1.wasLow = true ↔
    ReadBelow monitor.lowBalanceThreshold past

variable {monitor : BalanceMonitor}
variable {client : SolvelaClient X}

theorem shared_started
    (config : ClientConfig)
    (now : Nat) :
    Shared monitor ([] : List (SharedEvent X))
      (BalanceMonitor.started, World.new config now) where
  balance := rfl
  wasLow := by
    constructor
    · intro hNo
      cases hNo
    · intro hRead
      exact (not_readBelow_of_none rfl _ hRead).elim

/- What reads nothing new changes neither. -/
theorem Shared.of_same_read
    {past later : List (SharedEvent X)}
    {before after : MonitorState × World X}
    (hPast : Shared monitor past before)
    (hSame : lastRead later = lastRead past)
    (hBalance :
      after.2.balanceState = before.2.balanceState)
    (hWasLow : after.1.wasLow = before.1.wasLow) :
    Shared monitor later after where
  balance := by
    rw [hBalance, hSame]
    exact hPast.balance
  wasLow := by
    unfold ReadBelow
    rw [hWasLow, hSame]
    exact hPast.wasLow

/- A poll or a call keeps this. -/
theorem Shared.step
    {past : List (SharedEvent X)}
    {e : SharedEvent X}
    {before after : MonitorState × World X}
    (hPast : Shared monitor past before)
    (hStep : SharedStep monitor client before e after) :
    Shared monitor (past ++ [e]) after := by
  cases hStep with
  | @poll _ _ world _ after fetched next hShared _ hFetch
      hPoll =>
      have hView := viewOf_poll hFetch hPoll
      have hState :=
        congrArg (fun v => v.state.wasLow) hView
      have hBalance := congrArg MonitorView.balance hView
      cases fetched with
      | error e =>
          exact hPast.of_same_read (lastRead_snoc past _)
            (hBalance.trans hShared) hState
      | ok amount =>
          have hNew : lastRead (past ++ [.polled (.ok amount)]) =
              some amount :=
            lastRead_snoc past _
          constructor
          · rw [hNew]
            exact hBalance
          · have hLow :
                next.wasLow =
                  decide
                    (amount < monitor.lowBalanceThreshold) :=
              hState
            change next.wasLow = true ↔ _
            rw [hLow, decide_eq_true_iff]
            exact (readBelow_iff_of_some hNew _).symm
  | @call env world after c hStart hCall =>
      exact hPast.of_same_read (lastRead_snoc past _)
        (hCall.balanceState.trans hStart) rfl

/- So it holds in every run. -/
theorem shared_of_run
    {now : Nat}
    {past : List (SharedEvent X)}
    {s : MonitorState × World X}
    (hRun :
      LabelledRun (SharedStep monitor client)
        (BalanceMonitor.started,
          World.new client.config now) past s) :
    Shared monitor past s :=
  hRun.invariant (Shared monitor)
    (shared_started client.config now)
    (fun _ _ _ _ _ hPast hStep => hPast.step hStep)

end Solvela

------------------------------------------------------------
-- The Model Of A Call
------------------------------------------------------------

namespace Solvela

open Effects

variable {X : Crates}

/-
  The model of a call whose balance does not decide: that of
  the live session it finds, or else the caller's.
-/
def ChatCall.ownModel
    (env : Env)
    (c : ChatCall X) : String :=
  match c.resumed env with
  | some entry => entry.model
  | none => c.request.model

/- A chat call is answered by what the cache has for a model. -/
def ChatCall.Cached
    (model : String)
    (c : ChatCall X) : Prop :=
  c.streaming = false ∧
    ∃ cache response,
      c.start.cache = some cache ∧
        (cache.get X.lru c.ended
            (ResponseCache.cacheKey X.aHasher X.roleToString
              model c.request.messages)).1 =
          some response ∧
          c.answer = some response

/-
  All that a call does is for `model`: what it asks the
  gateway, which it does unless the cache has an answer for
  that model, and the session that it opens.
-/
structure MadeFor
    (env : Env)
    (model : String)
    (c : ChatCall X)
    (after : World X) : Prop where
  asks : ∀ e ∈ c.sent, AsksFor model e
  sends : (∃ e ∈ c.sent, e.peer = .gateway) ∨ c.Cached model
  opens : ∀ {store entry}, c.resumed env = none →
    after.sessionStore = some store →
      store.sessions c.sessionId = some entry →
        entry.model = model

variable {client : SolvelaClient X}
variable {env : Env}
variable {before after : World X}
variable {c : ChatCall X}

/- Without a cache no answer is found in it. -/
theorem SolvelaClient.cachedAnswer_of_no_cache
    {world : World X}
    (hCache : world.cache = none)
    (req : ChatRequest) :
    (client.cacheStep env req world).1.2 = none := by
  have hKept :
      (client.sessionStep env { req with stream := false }
        world).2.cache = none := by
    unfold SolvelaClient.sessionStep
    rw [SolvelaClient.sessionLookup_cache]
    exact hCache
  unfold SolvelaClient.cacheStep SolvelaClient.cacheCheck
  dsimp only
  rw [hKept]

/- A call asks the gateway, or it answers from the cache. -/
theorem CallStep.sends
    (hStep : CallStep client env before c after) :
    (∃ e ∈ c.sent, e.peer = .gateway) ∨
      c.Cached (c.effective client env).model := by
  cases hStep with
  | stream _ hRun hSent =>
      rcases SolvelaClient.chatStream_trace hRun with
        ⟨es, hTrace, hOpen⟩
      rw [hSent] at hTrace
      cases List.append_cancel_left hTrace
      exact Or.inl hOpen.exists_gateway
  | @chat start _ req sent r _ hRun hSent =>
      rcases SolvelaClient.runs_chat.mp hRun with
        ⟨cached, hCached, rfl, rfl⟩ |
          ⟨_, spoken, hSpeak, rfl⟩
      · right
        cases hCache : start.cache with
        | none =>
            rw [SolvelaClient.cachedAnswer_of_no_cache hCache]
              at hCached
            cases hCached
        | some cache =>
            rcases SolvelaClient.cacheStep_of_cache client env
                req hCache with
              ⟨hLooked, _, _⟩
            rw [hLooked] at hCached
            unfold SolvelaClient.requestKey at hCached
            rw [SolvelaClient.effectiveRequest,
              SolvelaClient.sessionStep_messages] at hCached
            exact ⟨rfl, cache, cached, hCache, hCached, rfl⟩
      · rcases SolvelaClient.converse_spec hSpeak with
          ⟨es, rfl, hTalk⟩
        rw [SolvelaClient.finish_trace] at hSent
        change (client.cacheStep env req start).2.trace ++
          es = _ at hSent
        rw [SolvelaClient.cacheStep_trace] at hSent
        cases List.append_cancel_left hSent
        exact Or.inl hTalk.exists_gateway

/- A call that finds no session is for the guarded model. -/
theorem ChatCall.effective_of_fresh
    (hNone : c.resumed env = none) :
    (c.effective client env).model =
      (c.guarded client).1.model := by
  unfold ChatCall.effective
  cases hStore : c.start.sessionStore with
  | none =>
      rw [SolvelaClient.sessionStep_of_no_sessions hStore]
      rfl
  | some store =>
      rw [(sessionStep_of_not_resumed client hStore hNone).1]

/- A call is made for the model of its effective request. -/
theorem CallStep.madeFor
    (hStep : CallStep client env before c after) :
    MadeFor env (c.effective client env).model c after where
  asks := hStep.asksFor
  sends := hStep.sends
  opens := by
    intro store entry hNone hAfter hEntry
    rw [ChatCall.effective_of_fresh hNone]
    cases hStore : before.sessionStore with
    | none =>
        rw [hStep.keeps_no_sessions hStore] at hAfter
        cases hAfter
    | some old =>
        rcases hStep.entry_model hStore with
          ⟨store', hSame, hModels⟩
        rw [hAfter] at hSame
        cases hSame
        rcases hModels _ entry hEntry with
          ⟨hNe, _⟩ | ⟨_, _, hSome, _⟩ | ⟨_, _, hModel⟩
        · exact absurd rfl hNe
        · rw [hNone] at hSome
          cases hSome
        · exact hModel

/- With a balance it is the call's own model. -/
theorem ChatCall.effective_ownModel
    (hBalance : c.start.balanceState ≠ 0) :
    (c.effective client env).model = c.ownModel env := by
  cases hStore : c.start.sessionStore with
  | none =>
      have hNone : c.resumed env = none := by
        unfold ChatCall.resumed
        rw [hStore]
        rfl
      unfold ChatCall.effective ChatCall.ownModel
      rw [SolvelaClient.sessionStep_of_no_sessions hStore,
        hNone, SolvelaClient.balanceGuard_of_ne_zero hBalance]
      exact c.given_model
  | some store =>
      exact ChatCall.effective_model hStore hBalance

end Solvela

------------------------------------------------------------
-- What Polls And Calls Do
------------------------------------------------------------

namespace Solvela

open Transitions

variable {X : Crates}

/- The balance at which a call falls back. -/
def smallestUnit : ℚ :=
  1 / 1000000

/- The shared balance is zero after such a reading. -/
theorem Shared.balance_eq_zero_iff
    {monitor : BalanceMonitor}
    {past : List (SharedEvent X)}
    {s : MonitorState × World X}
    (hShared : Shared monitor past s) :
    s.2.balanceState = 0 ↔ ReadBelow smallestUnit past := by
  rw [hShared.balance]
  cases hRead : lastRead past with
  | none =>
      constructor
      · intro hNo
        cases hNo
      · intro hBelow
        exact (not_readBelow_of_none hRead _ hBelow).elim
  | some amount =>
      change castU64 (amount * 1000000) = 0 ↔ _
      rw [castU64_eq_zero_iff, readBelow_iff_of_some hRead]
      unfold smallestUnit
      constructor
      · intro hSmall
        linarith
      · intro hSmall
        linarith

/-
  A poll that finds the balance low, after none or one that
  did not.
-/
structure BecomesLow
    (monitor : BalanceMonitor)
    (past : List (SharedEvent X))
    (amount : ℚ) : Prop where
  low : amount < monitor.lowBalanceThreshold
  rose : ¬ ReadBelow monitor.lowBalanceThreshold past

/-
  A failed poll changes nothing, and the callback is called
  when the balance becomes low and at no other time.
-/
structure PollFollows
    (monitor : BalanceMonitor)
    (past : List (SharedEvent X))
    (fetched : Except BalanceError ℚ)
    (before after : MonitorState × World X) : Prop where
  failed : ∀ e, fetched = .error e →
    after.1 = before.1 ∧
      after.2.balanceState = before.2.balanceState
  called : ∀ amount, fetched = .ok amount →
    monitor.onLowBalance = true →
      BecomesLow monitor past amount →
        after.1.calls = before.1.calls ++ [amount]
  silent : ∀ amount, fetched = .ok amount →
    ¬ (monitor.onLowBalance = true ∧
      BecomesLow monitor past amount) →
        after.1.calls = before.1.calls

/-
  A call is made for the fallback model when the most recent
  reading was below the smallest unit, whatever session it
  finds, and for its own model at any other time.
-/
structure CallFollows
    (env : Env)
    (fallback : String)
    (past : List (SharedEvent X))
    (c : ChatCall X)
    (after : World X) : Prop where
  replaced : ReadBelow smallestUnit past →
    MadeFor env fallback c after
  kept : ¬ ReadBelow smallestUnit past →
    MadeFor env (c.ownModel env) c after

/- What an event does, after the given others. -/
def Follows
    (monitor : BalanceMonitor)
    (fallback : String)
    (past : List (SharedEvent X))
    (before after : MonitorState × World X) :
    SharedEvent X → Prop
| .polled fetched =>
    PollFollows monitor past fetched before after
| .called env c =>
    CallFollows env fallback past c after.2 ∧
      after.1 = before.1

variable {monitor : BalanceMonitor}
variable {client : SolvelaClient X}
variable {past : List (SharedEvent X)}
variable {before after : MonitorState × World X}

/- The callback is called when the balance becomes low. -/
theorem Shared.calls_back_iff
    (hShared : Shared monitor past before)
    (amount : ℚ) :
    (decide (amount < monitor.lowBalanceThreshold) &&
          !before.1.wasLow &&
        monitor.onLowBalance) = true ↔
      monitor.onLowBalance = true ∧
        BecomesLow monitor past amount := by
  rw [Bool.and_eq_true, Bool.and_eq_true,
    decide_eq_true_iff, Bool.not_eq_true',
    ← Bool.not_eq_true, hShared.wasLow]
  constructor
  · rintro ⟨⟨hLow, hRose⟩, hCallback⟩
    exact ⟨hCallback, hLow, hRose⟩
  · rintro ⟨hCallback, hLow, hRose⟩
    exact ⟨⟨hLow, hRose⟩, hCallback⟩

theorem Shared.poll_follows
    {fetched : Except BalanceError ℚ}
    (hShared : Shared monitor past before)
    (hStep :
      SharedStep monitor client before (.polled fetched)
        after) :
    PollFollows monitor past fetched before after := by
  cases hStep with
  | @poll _ _ world _ last _ next hBalance _ hFetch hPoll =>
      have hView := viewOf_poll hFetch hPoll
      have hState := congrArg MonitorView.state hView
      cases fetched with
      | error e =>
          constructor
          · intro _ _
            refine ⟨hState, ?_⟩
            rw [← hBalance]
            exact congrArg MonitorView.balance hView
          · intro _ hNo
            cases hNo
          · intro _ hNo
            cases hNo
      | ok amount =>
          have hCalls :
              next.calls =
                if decide
                        (amount <
                          monitor.lowBalanceThreshold) &&
                      !before.1.wasLow &&
                    monitor.onLowBalance then
                  before.1.calls ++ [amount]
                else
                  before.1.calls :=
            congrArg MonitorState.calls hState
          have hFires := hShared.calls_back_iff amount
          constructor
          · intro _ hNo
            cases hNo
          · intro _ hSame hCallback hBecomes
            cases hSame
            exact hCalls.trans
              (if_pos (hFires.mpr ⟨hCallback, hBecomes⟩))
          · intro _ hSame hNot
            cases hSame
            exact hCalls.trans
              (if_neg (fun hOn => hNot (hFires.mp hOn)))

theorem Shared.call_follows
    {fallback : String}
    {env : Env}
    {c : ChatCall X}
    (hFallback :
      client.config.freeFallbackModel = some fallback)
    (hShared : Shared monitor past before)
    (hStep :
      SharedStep monitor client before (.called env c)
        after) :
    CallFollows env fallback past c after.2 ∧
      after.1 = before.1 := by
  refine ⟨?_, hStep.monitor_eq⟩
  cases hStep with
  | call hStart hCall =>
      have hZero := hShared.balance_eq_zero_iff
      rw [← hStart] at hZero
      constructor
      · intro hRead
        have hModel :
            (c.effective client env).model = fallback :=
          ChatCall.effective_fallback hFallback
            (hZero.mpr hRead)
        rw [← hModel]
        exact hCall.madeFor
      · intro hRead
        have hModel :
            (c.effective client env).model = c.ownModel env :=
          ChatCall.effective_ownModel
            (fun hEmpty => hRead (hZero.mp hEmpty))
        rw [← hModel]
        exact hCall.madeFor

/-
  In every run of polls and calls, a call falls back exactly
  when the most recent successful poll before it read less
  than the smallest unit, and the callback is called exactly
  when a poll finds that the balance became low.
-/
theorem fallback_follows_polls
    (monitor : BalanceMonitor)
    (client : SolvelaClient X)
    (fallback : String)
    (hFallback :
      client.config.freeFallbackModel = some fallback)
    (now : Nat)
    (events : List (SharedEvent X))
    (s : MonitorState × World X)
    (hRun :
      LabelledRun (SharedStep monitor client)
        (BalanceMonitor.started,
          World.new client.config now) events s) :
    ∀ past e rest, events = past ++ e :: rest →
      ∃ before after,
        LabelledRun (SharedStep monitor client)
            (BalanceMonitor.started,
              World.new client.config now) past before ∧
          SharedStep monitor client before e after ∧
            LabelledRun (SharedStep monitor client) after
                rest s ∧
              Follows monitor fallback past before after
                e := by
  rintro past e rest rfl
  rcases labelledRun_append.mp hRun with
    ⟨before, hPast, after, hStep, hRest⟩
  have hShared := shared_of_run hPast
  refine ⟨before, after, hPast, hStep, hRest, ?_⟩
  cases e with
  | polled fetched => exact hShared.poll_follows hStep
  | called env c =>
      exact hShared.call_follows hFallback hStep

/- A reply that is taken for an amount makes a poll read it. -/
theorem exists_reading
    {ata : Pubkey}
    (hAccount : monitor.monitoredAccount X = .ok ata)
    (client : SolvelaClient X)
    (before : MonitorState × World X)
    {reply : Except ReqwestError HttpResponse}
    {amount : ℚ}
    (hTaken : (reading X reply).taken = some amount) :
    ∃ after,
      SharedStep monitor client before (.polled (.ok amount))
        after := by
  rcases Effects.exists_runs
      (monitor.fetchBalance (steadyEnv reply) ata)
      before.2 with ⟨fetched, fetchedIn, hFetch⟩
  rcases Effects.exists_runs
      (monitor.poll (steadyEnv reply) ata before.1)
      before.2 with ⟨r, world, hPoll⟩
  rcases BalanceMonitor.poll_spec hPoll with
    ⟨next, _, _, rfl, _, _, _⟩
  rcases BalanceMonitor.fetchBalance_spec hFetch with
    ⟨_, said, hSaid, _, hTakes⟩
  have hSame : said = reply :=
    hSaid
  rw [hSame] at hTakes
  unfold Takes at hTakes
  rw [hTaken] at hTakes
  have hFetched : fetched = .ok amount :=
    hTakes
  rw [hFetched] at hFetch
  exact ⟨(next, world), .poll rfl hAccount hFetch hPoll⟩

open Sample in
/- A poll that reads zero, and a call that falls back. -/
theorem fallback_follows_empty_poll :
    ∃ env c s,
      LabelledRun
          (SharedStep sampleMonitor (sampleClient freeConfig))
          (BalanceMonitor.started, World.new freeConfig 0)
          [.polled (.ok 0), .called env c] s ∧
        c.sent ≠ [] ∧ s.1.calls = [0] ∧
          ∀ e ∈ c.sent, AsksFor "free" e := by
  rcases sampleMonitor_account with ⟨ata, hAccount⟩
  have hTaken :
      (reading sampleCrates behindReply).taken = some 0 := by
    rcases reading_behind with ⟨value, hReading, _⟩
    rw [hReading]
    rfl
  have hSteady :
      Steady sampleCrates
        (steadyEnv (.ok (responseOf 200 "answer")))
        (Sample.emptyResponse "answer") :=
    ⟨"answer", rfl, fun _ _ => rfl⟩
  rcases exists_reading hAccount (sampleClient freeConfig)
      (BalanceMonitor.started, World.new freeConfig 0) hTaken
      with ⟨mid, hPoll⟩
  rcases hSteady.exists_step (sampleClient freeConfig)
      sampleRequest
      { World.new freeConfig 0 with
        balanceState := mid.2.balanceState } rfl with
    ⟨c, world, hCall, _, _, hBegin, hSent, _⟩
  have hShared :
      SharedStep sampleMonitor (sampleClient freeConfig) mid
        (.called (steadyEnv (.ok (responseOf 200 "answer"))) c)
        (mid.1, world) :=
    .call (by rw [hBegin]) hCall
  have hRun :
      LabelledRun
        (SharedStep sampleMonitor (sampleClient freeConfig))
        (BalanceMonitor.started, World.new freeConfig 0)
        [.polled (.ok 0), .called _ c] (mid.1, world) :=
    ⟨mid, hPoll, _, hShared, rfl⟩
  have hFollows :=
    fallback_follows_polls sampleMonitor
      (sampleClient freeConfig) "free" rfl 0
      [.polled (.ok 0), .called _ c] (mid.1, world) hRun
  rcases hFollows [] _ [.called _ c] rfl with
    ⟨first, second, hFirst, _, ⟨third, hLast, hEnd⟩, hPolled⟩
  rcases hFollows [.polled (.ok 0)] _ [] rfl with
    ⟨_, _, _, _, _, hCalled⟩
  have hBecomes :
      BecomesLow sampleMonitor
        ([] : List (SharedEvent sampleCrates)) 0 := by
    constructor
    · norm_num [sampleMonitor, BalanceMonitor.new]
    · rintro ⟨_, hNo, _⟩
      cases hNo
  have hRead :
      ReadBelow smallestUnit
        [(.polled (.ok 0) : SharedEvent sampleCrates)] :=
    ⟨0, rfl, by norm_num [smallestUnit]⟩
  refine ⟨_, c, (mid.1, world), hRun, hSent, ?_,
    (hCalled.1.replaced hRead).asks⟩
  rw [labelledRun_nil.mp hEnd, hLast.monitor_eq,
    hPolled.called 0 rfl rfl hBecomes,
    labelledRun_nil.mp hFirst]
  rfl

end Solvela
