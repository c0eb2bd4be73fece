import Solvela.Balance.Reply
import Solvela.Client.Fallback
import Solvela.Concurrent.Snapshots

/-
  Where the balance that routes a call comes from.

  A monitor stores what it has just read, and a call loads the
  balance once.  What it loads is the most recent store, of
  whatever monitor, or that nothing was polled yet.  If it is
  zero the call asks for the fallback model until its end,
  whatever the monitor reads meanwhile.

  Main declarations:
    * `lastStore_of_run`, `Concurrent.exists_reading`
    * `Concurrent.asksFor_of_load`
    * `interleaved_fallbacks_were_read`
-/

------------------------------------------------------------
-- The Balance Of A Pool
------------------------------------------------------------

namespace Solvela

open Dialogues Transitions Histories

variable {X : Crates} {ι : Type}
variable [DecidableEq ι]

/- Only a store changes the balance. -/
theorem Accesses.balanceState_cases
    {world world' : World X}
    {e : Accessed}
    (hStep : Accesses world e world') :
    e = ⟨.storeBalance world'.balanceState, ()⟩ ∨
      ¬ StoresBalance e ∧
        world'.balanceState = world.balanceState := by
  have hOther : ∀ {a : SharedAccess} {answer : a.Answer},
      (∀ atomic, a ≠ .storeBalance atomic) →
        ¬ StoresBalance ⟨a, answer⟩ := by
    rintro a answer hNo ⟨atomic, hSame⟩
    cases hSame
    exact hNo atomic rfl
  cases hStep with
  | loadBalance => exact Or.inr ⟨hOther nofun, rfl⟩
  | storeBalance => exact Or.inl rfl
  | findSession _ => exact Or.inr ⟨hOther nofun, rfl⟩
  | openSession _ _ =>
      refine Or.inr ⟨hOther nofun, ?_⟩
      unfold World.openSession
      cases world.sessionStore with
      | none => rfl
      | some store => rfl
  | recordRequest => exact Or.inr ⟨hOther nofun, rfl⟩
  | cacheGet _ =>
      refine Or.inr ⟨hOther nofun, ?_⟩
      unfold World.cacheGet
      cases world.cache with
      | none => rfl
      | some cache => rfl
  | cachePut _ _ =>
      refine Or.inr ⟨hOther nofun, ?_⟩
      unfold World.cachePut
      cases world.cache with
      | none => rfl
      | some cache => rfl
  | send => exact Or.inr ⟨hOther nofun, rfl⟩

/- After a run the balance is what was stored last. -/
theorem lastStore_of_run
    {q p : CallPool X ι}
    {ls : List (ι × Accessed)}
    (hRun : LabelledRun (PoolStep Accesses) q ls p) :
    (p.shared.balanceState = q.shared.balanceState ∧
        ∀ l ∈ ls, ¬ StoresBalance l.2) ∨
      ∃ j since,
        LastAt (fun l => StoresBalance l.2) ls
          (j, ⟨.storeBalance p.shared.balanceState, ()⟩)
          since := by
  refine hRun.invariant
    (fun past t =>
      (t.shared.balanceState = q.shared.balanceState ∧
          ∀ l ∈ past, ¬ StoresBalance l.2) ∨
        ∃ j since,
          LastAt (fun l => StoresBalance l.2) past
            (j, ⟨.storeBalance t.shared.balanceState, ()⟩)
            since)
    (Or.inl ⟨rfl, List.forall_mem_nil _⟩) ?_
  rintro past t ⟨i, e⟩ v _ hPast hStep
  have hActs : Accesses t.shared e v.shared := by
    cases hStep with
    | turn _ hActs => exact hActs
  rcases hActs.balanceState_cases with rfl | ⟨hOther, hSame⟩
  · exact Or.inr
      ⟨i, [], lastAt_snoc_self ⟨_, rfl⟩ past⟩
  · rw [hSame]
    rcases hPast with ⟨hStart, hNone⟩ | ⟨j, since, hLast⟩
    · refine Or.inl ⟨hStart, ?_⟩
      intro l hMem
      rcases List.mem_append.mp hMem with hOld | hNew
      · exact hNone l hOld
      · rw [List.mem_singleton.mp hNew]
        exact hOther
    · exact Or.inr ⟨j, _, hLast.snoc hOther⟩

end Solvela

------------------------------------------------------------
-- Who Stores A Balance
------------------------------------------------------------

namespace Solvela

open Dialogues

namespace Concurrent

variable {X : Crates}
variable {monitor : BalanceMonitor}
variable {ata : Pubkey}

/- A store in a round follows the fetch it is from. -/
theorem reading_of_poll
    {state state' : MonitorState}
    {first rest : List Accessed}
    {atomic : UInt64}
    (hYields :
      Yields (poll X monitor ata state)
        (first ++ ⟨.storeBalance atomic, ()⟩ :: rest)
        state') :
    ∃ earlier resp uiAmount,
      first =
          earlier ++ [balanceTurn X monitor ata (.ok resp)] ∧
        BalanceMonitor.readBalance X resp = .ok uiAmount ∧
          atomic = castU64 (uiAmount * 1000000) := by
  rcases yields_poll hYields with
    ⟨reply, hTurns⟩ | ⟨resp, uiAmount, hRead, hTurns⟩
  · cases first with
    | nil =>
        injection hTurns with hNo _
        cases hNo
    | cons e first =>
        injection hTurns with _ hNo
        exact absurd hNo (by simp)
  · cases first with
    | nil =>
        injection hTurns with hNo _
        cases hNo
    | cons e first =>
        injection hTurns with hFetch hTurns
        cases first with
        | nil =>
            injection hTurns with hStore _
            cases hStore
            exact ⟨[], resp, uiAmount, by rw [hFetch]; rfl,
              hRead, rfl⟩
        | cons e' first =>
            injection hTurns with _ hNo
            exact absurd hNo (by simp)

/- So does every store of a monitor. -/
theorem reading_of_monitorRounds
    {rounds : Nat}
    {state state' : MonitorState}
    {first rest : List Accessed}
    {atomic : UInt64}
    (hYields :
      Yields (monitorRounds X monitor ata rounds state)
        (first ++ ⟨.storeBalance atomic, ()⟩ :: rest)
        state') :
    ∃ earlier resp uiAmount,
      first =
          earlier ++ [balanceTurn X monitor ata (.ok resp)] ∧
        BalanceMonitor.readBalance X resp = .ok uiAmount ∧
          atomic = castU64 (uiAmount * 1000000) := by
  induction rounds generalizing first state with
  | zero =>
      have hNone := (yields_pure.mp hYields).1
      exact absurd hNone (by simp)
  | succ rounds ih =>
      rcases yields_bind.mp hYields with
        ⟨own, later, next, hSplit, hPoll, hRest⟩
      rcases List.append_eq_append_iff.mp hSplit with
        ⟨middle, hOwn, hLater⟩ | ⟨middle, hFirst, hLater⟩
      · -- The store is in the first round, or begins the rest.
        cases middle with
        | nil =>
            have hNone :
                Yields (monitorRounds X monitor ata rounds next)
                  ([] ++ ⟨.storeBalance atomic, ()⟩ :: rest)
                  state' := by
              rw [hLater]
              exact hRest
            rcases ih hNone with ⟨_, _, _, hNo, _⟩
            exact absurd hNo (by simp)
        | cons e middle =>
            rcases List.cons.inj hLater with ⟨rfl, _⟩
            exact reading_of_poll (hOwn ▸ hPoll)
      · rw [hLater] at hRest
        rcases ih hRest with
          ⟨earlier, resp, uiAmount, rfl, hRead, hStored⟩
        refine ⟨own ++ earlier, resp, uiAmount, ?_, hRead,
          hStored⟩
        rw [hFirst, List.append_assoc]

end Concurrent

end Solvela

------------------------------------------------------------
-- What A Loaded Balance Decides
------------------------------------------------------------

namespace Solvela

open Dialogues

namespace Concurrent

variable {X : Crates}
variable {client : SolvelaClient X}
variable {req : ChatRequest}
variable {guarded : ChatRequest × Bool}
variable {session : ChatRequest × Option String}
variable {guard look : List Accessed}

/- A call loads the balance if there is a fallback model. -/
theorem Prelude.mem_guard
    (hPrelude :
      Prelude client req guarded session guard look)
    {e : Accessed}
    (hMem : e ∈ guard) :
    ∃ fallback balance,
      client.config.freeFallbackModel = some fallback ∧
        e = ⟨.loadBalance, balance⟩ ∧
          guarded =
            SolvelaClient.balanceGuard client.config balance
              req := by
  rcases yields_balanceGuard.mp hPrelude.guards with
    ⟨_, rfl, _⟩ | ⟨fallback, balance, hModel, rfl, hGuarded⟩
  · cases hMem
  · exact ⟨fallback, balance, hModel,
      List.mem_singleton.mp hMem, hGuarded⟩

/- At zero the fallback model is kept by the session. -/
theorem Prelude.model_of_zero
    (hPrelude :
      Prelude client req guarded session guard look)
    {fallback : String}
    (hModel :
      client.config.freeFallbackModel = some fallback)
    (hGuarded :
      guarded =
        SolvelaClient.balanceGuard client.config 0 req) :
    session.1.model = fallback := by
  rw [SolvelaClient.balanceGuard_zero hModel] at hGuarded
  rcases yields_sessionLookup.mp hPrelude.looks with
    ⟨_, _, rfl⟩ | ⟨_, info, _, rfl⟩
  · rw [hGuarded]
  · rw [hGuarded]
    rfl

/- The accesses to the balance come before all others. -/
theorem Prelude.mem_guard_of_mem_chat
    {cache : Option UInt64 × Option ChatResponse}
    {check rest : List Accessed}
    {r : Except ClientError ChatResponse}
    (hPrelude :
      Prelude client req guarded session guard look)
    (hCheck : Yields (cacheCheck client session.1) check cache)
    (hRest : ChatRest client session cache rest r)
    {e : Accessed}
    (hMem : e ∈ guard ++ (look ++ (check ++ rest)))
    (hPhase : e.1.phase = .balance) :
    e ∈ guard := by
  rcases List.mem_append.mp hMem with hIn | hMem
  · exact hIn
  rcases List.mem_append.mp hMem with hIn | hMem
  · rw [hPrelude.inPhase.2 e hIn] at hPhase
    cases hPhase
  rcases List.mem_append.mp hMem with hIn | hIn
  · rw [inPhase_cacheCheck hCheck e hIn] at hPhase
    cases hPhase
  · rcases hRest.phase_of_mem e hIn with hIs | hIs | hIs
    · rw [hIs] at hPhase
      cases hPhase
    · rw [hIs] at hPhase
      cases hPhase
    · rw [hIs] at hPhase
      cases hPhase

theorem Prelude.mem_guard_of_mem_chatStream
    {own : List (Turn Question Reply)}
    (hPrelude :
      Prelude client req guarded session guard look)
    {e : Accessed}
    (hMem :
      e ∈ guard ++ (look ++
        (recordTurns X session.2 session.1 ++
          own.map sends.turn)))
    (hPhase : e.1.phase = .balance) :
    e ∈ guard := by
  rcases List.mem_append.mp hMem with hIn | hMem
  · exact hIn
  rcases List.mem_append.mp hMem with hIn | hMem
  · rw [hPrelude.inPhase.2 e hIn] at hPhase
    cases hPhase
  rcases List.mem_append.mp hMem with hIn | hIn
  · rw [inPhase_recordTurns X _ _ e hIn] at hPhase
    cases hPhase
  · rw [inPhase_talk own e hIn] at hPhase
    cases hPhase

/-
  An access of a call to the balance: a store is a monitor's,
  from what it just fetched; a load is a chat's, and decides
  which model it asks for.
-/
theorem exists_reading
    {call : Call}
    {first rest : List Accessed}
    {atomic : UInt64}
    {result : CallResult X}
    (hYields :
      Yields (call.dialogue client)
        (first ++ ⟨.storeBalance atomic, ()⟩ :: rest)
        result) :
    ∃ monitor ata rounds earlier resp uiAmount,
      call = .monitored monitor ata rounds ∧
        first =
            earlier ++
              [balanceTurn X monitor ata (.ok resp)] ∧
          BalanceMonitor.readBalance X resp = .ok uiAmount ∧
            atomic = castU64 (uiAmount * 1000000) := by
  have hMem :
      (⟨.storeBalance atomic, ()⟩ : Accessed) ∈
        first ++ ⟨.storeBalance atomic, ()⟩ :: rest :=
    List.mem_append_right _ List.mem_cons_self
  cases call with
  | chat req =>
      exfalso
      rcases yields_map.mp hYields with ⟨r, hChat, rfl⟩
      rcases yields_chat.mp hChat with
        ⟨guard, look, check, talk, guarded, session, cache,
          hAll, hPrelude, hCheck, hRest⟩
      rw [hAll] at hMem
      rcases hPrelude.mem_guard
          (hPrelude.mem_guard_of_mem_chat hCheck hRest hMem rfl)
        with ⟨_, _, _, hNo, _⟩
      cases hNo
  | chatStream req =>
      exfalso
      rcases yields_map.mp hYields with ⟨r, hStream, rfl⟩
      rcases yields_chatStream.mp hStream with
        ⟨guard, look, turns, guarded, session, hAll, hPrelude,
          _⟩
      rw [hAll] at hMem
      rcases hPrelude.mem_guard
          (hPrelude.mem_guard_of_mem_chatStream hMem rfl) with
        ⟨_, _, _, hNo, _⟩
      cases hNo
  | proxied gatewayUrl request =>
      exfalso
      rcases yields_map.mp hYields with ⟨r, hTalk, rfl⟩
      rcases yields_talk.mp hTalk with ⟨turns, hOwn, _⟩
      rw [hOwn] at hMem
      cases inPhase_talk turns _ hMem
  | monitored monitor ata rounds =>
      rcases yields_map.mp hYields with ⟨state, hRounds, rfl⟩
      rcases reading_of_monitorRounds hRounds with
        ⟨earlier, resp, uiAmount, hFirst, hRead, hStored⟩
      exact ⟨monitor, ata, rounds, earlier, resp, uiAmount,
        rfl, hFirst, hRead, hStored⟩

theorem asksFor_of_load
    {call : Call}
    {es : List Accessed}
    {balance : UInt64}
    {result : CallResult X}
    (hYields : Yields (call.dialogue client) es result)
    (hLoad : (⟨.loadBalance, balance⟩ : Accessed) ∈ es) :
    ∃ req fallback,
      (call = .chat req ∨ call = .chatStream req) ∧
        client.config.freeFallbackModel = some fallback ∧
          (balance = 0 →
            ∀ e ∈ sentIn es, AsksFor fallback e) := by
  cases call with
  | chat req =>
      rcases yields_map.mp hYields with ⟨r, hChat, rfl⟩
      rcases yields_chat.mp hChat with
        ⟨guard, look, check, talk, guarded, session, cache,
          rfl, hPrelude, hCheck, hRest⟩
      rcases hPrelude.mem_guard
          (hPrelude.mem_guard_of_mem_chat hCheck hRest hLoad
            rfl) with
        ⟨fallback, _, hModel, hSame, hGuarded⟩
      cases hSame
      refine ⟨req, fallback, Or.inl rfl, hModel, ?_⟩
      rintro rfl
      rw [hPrelude.sentIn_chat hCheck,
        ← hPrelude.model_of_zero hModel hGuarded]
      rcases hRest.sentIn_spec with hNone | hTalk
      · rw [hNone]
        exact List.forall_mem_nil _
      · exact hTalk.asksFor
  | chatStream req =>
      rcases yields_map.mp hYields with ⟨r, hStream, rfl⟩
      rcases yields_chatStream.mp hStream with
        ⟨guard, look, turns, guarded, session, rfl, hPrelude,
          hOpen⟩
      rcases hPrelude.mem_guard
          (hPrelude.mem_guard_of_mem_chatStream hLoad rfl) with
        ⟨fallback, _, hModel, hSame, hGuarded⟩
      cases hSame
      refine ⟨req, fallback, Or.inr rfl, hModel, ?_⟩
      rintro rfl
      rw [sentIn_append, sentIn_append, sentIn_append,
        hPrelude.sentIn_eq_nil.1, hPrelude.sentIn_eq_nil.2,
        sentIn_recordTurns, sentIn_talk,
        ← hPrelude.model_of_zero hModel hGuarded]
      exact (streamAttempt_of_yields hOpen).asksFor
  | proxied gatewayUrl request =>
      exfalso
      rcases yields_map.mp hYields with ⟨r, hTalk, rfl⟩
      rcases yields_talk.mp hTalk with ⟨turns, rfl, _⟩
      cases inPhase_talk turns _ hLoad
  | monitored monitor ata rounds =>
      exfalso
      rcases yields_map.mp hYields with ⟨state, hRounds, rfl⟩
      rcases cases_of_mem_monitorRounds hRounds _ hLoad with
        ⟨_, hNo⟩ | ⟨_, hNo⟩
      · cases hNo
      · cases hNo

end Concurrent

end Solvela

------------------------------------------------------------
-- Loads Of A Pool
------------------------------------------------------------

namespace Solvela

open Dialogues Transitions Histories

variable {X : Crates} {ι : Type}
variable [DecidableEq ι]

/- A reply read by a monitor, and what it stored of it. -/
def StoredFrom
    (X : Crates)
    (monitor : BalanceMonitor)
    (ata : Pubkey)
    (balance : UInt64)
    (e : Exchange) : Prop :=
  e.peer = .rpc ∧
    e.request =
        SolvelaClient.balanceRequest X monitor.rpcUrl ata ∧
      ∃ resp uiAmount, e.reply = .ok resp ∧
        BalanceMonitor.readBalance X resp = .ok uiAmount ∧
          balance = castU64 (uiAmount * 1000000)

/-
  A call of a pool that loads the balance gets what some
  monitor of the pool stored last, right after it was read
  from a reply to that monitor, or that nobody has polled.
  If this is zero, the call never asks the gateway for any
  model but the fallback one, whatever happens meanwhile.
-/
theorem interleaved_fallbacks_were_read
    (client : SolvelaClient X)
    (start : Nat)
    (calls : ι → Call)
    (past later : List (ι × Accessed))
    (i : ι)
    (balance : UInt64)
    (p : CallPool X ι)
    (hRun :
      LabelledRun (PoolStep Accesses)
        (startPool client (World.new client.config start)
          calls)
        (past ++ (i, ⟨.loadBalance, balance⟩) :: later) p) :
    (balance = balanceNotPolled ∧
          (∀ l ∈ past, ¬ StoresBalance l.2) ∨
        ∃ before j between monitor ata rounds earlier e,
          past =
              before ++ (j, ⟨.storeBalance balance, ()⟩) ::
                between ∧
            (∀ l ∈ between, ¬ StoresBalance l.2) ∧
              calls j = .monitored monitor ata rounds ∧
                ownPart j (tagged before) = earlier ++ [e] ∧
                  StoredFrom X monitor ata balance e) ∧
      ∃ req fallback,
        (calls i = .chat req ∨ calls i = .chatStream req) ∧
          client.config.freeFallbackModel = some fallback ∧
            (balance = 0 →
              ∀ e ∈ ownPart i
                  (tagged (past ++
                    (i, ⟨.loadBalance, balance⟩) :: later)),
                AsksFor fallback e) := by
  constructor
  · rcases labelledRun_append.mp hRun with
      ⟨t, hPast, v, hTurn, _⟩
    have hLoad :
        Accesses t.shared ⟨.loadBalance, balance⟩
          v.shared := by
      cases hTurn with
      | turn _ hActs => exact hActs
    rw [hLoad.of_loadBalance]
    rcases lastStore_of_run hPast with
      ⟨hStart, hNone⟩ | ⟨j, between, before, rfl, _, hBetween⟩
    · exact Or.inl ⟨hStart, hNone⟩
    · right
      have hPlays := plays_of_run hPast j
      rw [ownPart_append, ownPart_cons_self] at hPlays
      rcases hPlays.completes someAnswer with
        ⟨rest, result, hYields⟩
      rw [List.append_assoc, List.cons_append] at hYields
      rcases Concurrent.exists_reading hYields with
        ⟨monitor, ata, rounds, earlier, resp, uiAmount, hCall,
          hOwn, hRead, hStored⟩
      refine ⟨before, j, between, monitor, ata, rounds,
        sentIn earlier,
        { peer := .rpc
          request :=
            SolvelaClient.balanceRequest X monitor.rpcUrl ata
          reply := .ok resp },
        rfl, hBetween, hCall, ?_, rfl, rfl, resp, uiAmount,
        rfl, hRead, hStored⟩
      rw [tagged_own, hOwn, sentIn_append]
      rfl
  · have hPlays := plays_of_run hRun i
    rcases hPlays.completes someAnswer with
      ⟨rest, result, hYields⟩
    have hMem :
        (⟨.loadBalance, balance⟩ : Accessed) ∈
          ownPart i
              (past ++
                (i, ⟨.loadBalance, balance⟩) :: later) ++
            rest := by
      rw [ownPart_append, ownPart_cons_self]
      simp
    rcases Concurrent.asksFor_of_load hYields hMem with
      ⟨req, fallback, hCall, hModel, hAsks⟩
    refine ⟨req, fallback, hCall, hModel, ?_⟩
    intro hZero e hSent
    apply hAsks hZero e
    rw [sentIn_append, ← tagged_own]
    exact List.mem_append_left _ hSent

/- A round in which a balance is read stores it. -/
theorem Concurrent.exists_yields_poll
    (monitor : BalanceMonitor)
    (ata : Pubkey)
    {resp : HttpResponse}
    {uiAmount : ℚ}
    (hRead :
      BalanceMonitor.readBalance X resp = .ok uiAmount)
    (state : MonitorState) :
    ∃ state',
      Yields (poll X monitor ata state)
        [balanceTurn X monitor ata (.ok resp),
          ⟨.storeBalance (castU64 (uiAmount * 1000000)), ()⟩]
        state' := by
  have hFetch :
      Yields (fetchBalance X monitor ata).run
        [⟨{ peer := .rpc
            request := SolvelaClient.balanceRequest X
              monitor.rpcUrl ata }, .ok resp⟩]
        (.ok uiAmount) :=
    yields_ask.mpr
      ⟨.ok resp, [], rfl, yields_done.mpr ⟨rfl, hRead.symm⟩⟩
  exact ⟨_, yields_bind.mpr ⟨_, [_], .ok uiAmount, rfl,
    yields_talk.mpr ⟨_, rfl, hFetch⟩,
    yields_bind.mpr ⟨_, [], (), rfl, yields_access.mpr rfl,
      yields_pure.mpr ⟨rfl, rfl⟩⟩⟩⟩

/- A call that falls back, after a poll that read zero. -/
theorem sample_fallback_was_read :
    ∃ past p before j between,
      LabelledRun (PoolStep Accesses)
          (startPool (sampleClient freeConfig)
            (World.new freeConfig 0)
            (fun i : Bool =>
              if i then
                .chat sampleRequest
              else
                .monitored sampleMonitor
                  (Sample.pubkeyOf "account") 1))
          (past ++ [(true, ⟨.loadBalance, 0⟩)]) p ∧
        past =
          before ++ (j, ⟨.storeBalance 0, ()⟩) ::
            between := by
  let calls := fun i : Bool =>
    if i then
      Call.chat sampleRequest
    else
      Call.monitored sampleMonitor (Sample.pubkeyOf "account")
        1
  let q := startPool (sampleClient freeConfig)
    (World.new freeConfig 0) calls
  have hRead :
      BalanceMonitor.readBalance sampleCrates
          (responseOf 200 "behind") =
        .ok 0 :=
    rfl
  rcases Concurrent.exists_yields_poll sampleMonitor
      (Sample.pubkeyOf "account") hRead
      BalanceMonitor.started with
    ⟨state, hPoll⟩
  rw [zero_mul, castU64_zero] at hPoll
  have hRounds :
      Yields (q.tasks false) _ (.monitored state) :=
    (yields_bind.mpr ⟨_, [], _, rfl, hPoll,
      yields_pure.mpr ⟨rfl, rfl⟩⟩ :
        Yields (Concurrent.monitorRounds sampleCrates
          sampleMonitor (Sample.pubkeyOf "account") 1
          BalanceMonitor.started) _ state).map
      CallResult.monitored
  rw [List.append_nil] at hRounds
  have hStored :
      LabelledRun Accesses q.shared
        [Concurrent.balanceTurn sampleCrates sampleMonitor
            (Sample.pubkeyOf "account")
            (.ok (responseOf 200 "behind")),
          ⟨.storeBalance 0, ()⟩] _ :=
    ⟨_, .send, _, .storeBalance, rfl⟩
  have hStores :=
    exists_run_of_plays (i := false) hRounds hStored
  have hLoads :
      Plays (q.tasks true) [⟨.loadBalance, 0⟩] _ :=
    ⟨_, rfl, rfl⟩
  have hRun :=
    labelledRun_append.mpr ⟨_, hStores,
      exists_run_of_plays (i := true) hLoads
        ⟨_, .loadBalance, rfl⟩⟩
  rcases (interleaved_fallbacks_were_read
      (sampleClient freeConfig) 0 calls _ [] true 0 _ hRun).1
    with ⟨hNo, _⟩ |
      ⟨before, j, between, _, _, _, _, _, hPast, _⟩
  · exact absurd hNo (by decide)
  · exact ⟨_, _, before, j, between, hRun, hPast⟩

end Solvela
