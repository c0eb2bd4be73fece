import Solvela.Client.Fallback
import Solvela.Client.Runs

/-
  Which model the calls of a session are routed to.

  A session keeps the model of the call that opened it.  A
  call at zero balance opens it with the fallback model, so
  later calls are routed there although the balance is
  positive again.  This is the only way to the fallback model
  that nobody asked for.

  Main declarations:
    * `ChatCall.join`, `currentSession`
    * `FallbackExplained`
    * `CallStep.effective_model`
    * `CallStep.entry_model`
    * `fallback_confined`
    * `fallback_leaks`
-/

------------------------------------------------------------
-- Sessions As Groups Of Calls
------------------------------------------------------------

namespace Solvela

variable {X : Crates}

/-
  The calls of the current session under an id: a call that
  finds no live session opens a new one.
-/
def ChatCall.join
    (env : Env)
    (sid : String)
    (members : List (ChatCall X))
    (c : ChatCall X) : List (ChatCall X) :=
  if c.sessionId = sid then
    if (c.resumed env).isSome then
      members ++ [c]
    else
      [c]
  else
    members

/- The calls of the session that is current at the end. -/
def currentSession
    (env : Env)
    (sid : String)
    (calls : List (ChatCall X)) : List (ChatCall X) :=
  calls.foldl (ChatCall.join env sid) []

theorem currentSession_snoc
    (env : Env)
    (sid : String)
    (past : List (ChatCall X))
    (c : ChatCall X) :
    currentSession env sid (past ++ [c]) =
      c.join env sid (currentSession env sid past) := by
  unfold currentSession
  rw [List.foldl_append]
  rfl

theorem currentSession_subset
    (env : Env)
    (sid : String)
    (calls : List (ChatCall X)) :
    currentSession env sid calls ⊆ calls := by
  induction calls using List.reverseRecOn with
  | nil => exact List.Subset.refl _
  | append_singleton past c ih =>
      have hPast : currentSession env sid past ⊆ past ++ [c] :=
        List.Subset.trans ih
          (List.subset_append_left past [c])
      rw [currentSession_snoc]
      unfold ChatCall.join
      by_cases hOwn : c.sessionId = sid
      · rw [if_pos hOwn]
        by_cases hResumed : (c.resumed env).isSome
        · rw [if_pos hResumed]
          exact List.append_subset.mpr
            ⟨hPast, List.subset_append_right past [c]⟩
        · rw [if_neg hResumed]
          exact List.subset_append_right past [c]
      · rw [if_neg hOwn]
        exact hPast

/- A call is part of the session it leaves behind. -/
theorem mem_currentSession_self
    (env : Env)
    (past : List (ChatCall X))
    (c : ChatCall X) :
    c ∈ currentSession env c.sessionId (past ++ [c]) := by
  rw [currentSession_snoc]
  unfold ChatCall.join
  rw [if_pos rfl]
  cases c.resumed env with
  | none => exact List.mem_singleton.mpr rfl
  | some entry =>
      exact List.mem_append_right _
        (List.mem_singleton.mpr rfl)

/- A call that resumes a session joins its members. -/
theorem mem_currentSession_of_resumed
    {env : Env}
    {past : List (ChatCall X)}
    {c member : ChatCall X}
    {entry : SessionEntry}
    (hResumed : c.resumed env = some entry)
    (hMember :
      member ∈ currentSession env c.sessionId past) :
    member ∈
      currentSession env c.sessionId (past ++ [c]) := by
  rw [currentSession_snoc]
  unfold ChatCall.join
  rw [if_pos rfl, hResumed]
  exact List.mem_append_left _ hMember

theorem currentSession_of_ne
    {env : Env}
    {sid : String}
    {c : ChatCall X}
    (hNe : c.sessionId ≠ sid)
    (past : List (ChatCall X)) :
    currentSession env sid (past ++ [c]) =
      currentSession env sid past := by
  rw [currentSession_snoc]
  unfold ChatCall.join
  rw [if_neg hNe]

/-
  Each request for the fallback model was made at zero
  balance, or some call of the session asked for that model.
-/
def FallbackExplained
    (env : Env)
    (fallback : String)
    (past : List (ChatCall X))
    (c : ChatCall X) : Prop :=
  ∀ e ∈ c.sent, e.peer = .gateway →
    ∀ sent, e.request.body = .chat sent →
      sent.model = fallback →
        c.start.balanceState = 0 ∨
          ∃ member ∈
            currentSession env c.sessionId (past ++ [c]),
            member.request.model = fallback

end Solvela

------------------------------------------------------------
-- One Call
------------------------------------------------------------

namespace Solvela

variable {X : Crates}
variable {client : SolvelaClient X}
variable {env : Env}
variable {before after : World X}
variable {c : ChatCall X}
variable {store : SessionStore}

/- The requests of a call are for its effective model. -/
theorem CallStep.asksFor
    (hStep : CallStep client env before c after) :
    ∀ e ∈ c.sent,
      AsksFor (c.effective client env).model e :=
  fun e hMem => (hStep.carries e hMem).asksFor

/- With a balance the guard does nothing. -/
theorem ChatCall.guarded_of_ne_zero
    (hBalance : c.start.balanceState ≠ 0) :
    c.guarded client = (c.given, false) :=
  SolvelaClient.balanceGuard_of_ne_zero hBalance _

/-
  With a balance, a call is for the model of the session it
  finds, or else for the model it was given.
-/
theorem ChatCall.effective_model
    (hStore : c.start.sessionStore = some store)
    (hBalance : c.start.balanceState ≠ 0) :
    (c.effective client env).model =
      match c.resumed env with
      | some entry => entry.model
      | none => c.request.model := by
  unfold ChatCall.effective
  cases hResumed : c.resumed env with
  | some entry =>
      rw [(sessionStep_of_resumed client hStore hResumed).1,
        ChatCall.guarded_of_ne_zero hBalance]
      rfl
  | none =>
      rw [(sessionStep_of_not_resumed client hStore
          hResumed).1,
        ChatCall.guarded_of_ne_zero hBalance]
      exact c.given_model

/- With no balance it is for the fallback model. -/
theorem ChatCall.effective_fallback
    {fallback : String}
    (hFallback :
      client.config.freeFallbackModel = some fallback)
    (hZero : c.start.balanceState = 0) :
    (c.effective client env).model = fallback := by
  unfold ChatCall.effective
  rw [SolvelaClient.sessionStep_zero hFallback hZero]

/- What a call records after its look-up changes no model. -/
theorem CallStep.recorded_models
    {looked : SessionStore}
    (hStep : CallStep client env before c after)
    (hSid :
      (client.sessionStep env c.given c.start).1.2 =
        some c.sessionId)
    (hLooked :
      (client.sessionStep env c.given
          c.start).2.sessionStore = some looked) :
    ∃ store', after.sessionStore = some store' ∧
      ∀ sid entry', store'.sessions sid = some entry' →
        ∃ entry, looked.sessions sid = some entry ∧
          (sid ≠ c.sessionId → entry' = entry) ∧
            entry'.model = entry.model := by
  rcases hStep.sessionStore_spec hSid hLooked with
    hSame | ⟨hash, hNew⟩
  · refine ⟨looked, hSame, ?_⟩
    intro sid entry' hEntry
    exact ⟨entry', hEntry, fun _ => rfl, rfl⟩
  · refine ⟨_, hNew, ?_⟩
    intro sid entry' hEntry
    rw [SessionStore.sessions_recordRequest] at hEntry
    by_cases hEq : sid = c.sessionId
    · rw [if_pos hEq] at hEntry
      rcases Option.map_eq_some_iff.mp hEntry with
        ⟨entry, hFound, rfl⟩
      rw [← hEq] at hFound
      exact ⟨entry, hFound, fun hNe => absurd hEq hNe, rfl⟩
    · rw [if_neg hEq] at hEntry
      exact ⟨entry', hEntry, fun _ => rfl, rfl⟩

/-
  After a call, the session of its id has the model that the
  call found there, or the one its guard decided on.  Other
  sessions are as they were.
-/
theorem CallStep.entry_model
    (hStep : CallStep client env before c after)
    (hStore : before.sessionStore = some store) :
    ∃ store', after.sessionStore = some store' ∧
      ∀ sid entry', store'.sessions sid = some entry' →
        (sid ≠ c.sessionId ∧
          store.sessions sid = some entry') ∨
        (sid = c.sessionId ∧
          ∃ entry, c.resumed env = some entry ∧
            store.sessions sid = some entry ∧
              entry'.model = entry.model) ∨
        (sid = c.sessionId ∧ c.resumed env = none ∧
          entry'.model = (c.guarded client).1.model) := by
  have hStart : c.start.sessionStore = some store :=
    hStep.between.sessionStore.trans hStore
  rcases exists_arrival client hStart with
    ⟨hSid, looked, entry, hLooked, hArrives⟩
  rcases hStep.recorded_models hSid hLooked with
    ⟨store', hAfter, hModels⟩
  refine ⟨store', hAfter, ?_⟩
  intro sid entry' hEntry
  rcases hModels sid entry' hEntry with
    ⟨old, hOld, hSame, hModel⟩
  by_cases hEq : sid = c.sessionId
  · rw [hEq, hArrives.found] at hOld
    cases hOld
    rcases hArrives.resumed_or_fresh with
      ⟨hResumed, hFound⟩ | ⟨hNone, created, rfl⟩
    · rw [← hEq] at hFound
      exact Or.inr (Or.inl
        ⟨hEq, entry, hResumed, hFound, hModel⟩)
    · exact Or.inr (Or.inr ⟨hEq, hNone, hModel⟩)
  · rw [hArrives.others sid hEq] at hOld
    rw [hSame hEq]
    exact Or.inl ⟨hEq, hOld⟩

end Solvela

------------------------------------------------------------
-- Runs
------------------------------------------------------------

namespace Solvela

open Transitions

variable {X : Crates}
variable {client : SolvelaClient X}
variable {env : Env}
variable {fallback : String}

/-
  A zero balance does not open a session, unless the caller
  asked for the fallback model by name.
-/
def OpensNothingAtZero
    (env : Env)
    (fallback : String)
    (c : ChatCall X) : Prop :=
  c.start.balanceState = 0 →
    (c.resumed env).isSome ∨ c.request.model = fallback

/- A session with the fallback model was asked for it. -/
def FallbackAsked
    (env : Env)
    (fallback : String)
    (past : List (ChatCall X))
    (world : World X) : Prop :=
  ∃ store, world.sessionStore = some store ∧
    ∀ sid entry, store.sessions sid = some entry →
      entry.model = fallback →
        ∃ member ∈ currentSession env sid past,
          member.request.model = fallback

theorem fallbackAsked_new
    {config : ClientConfig}
    (hSessions : config.enableSessions = true)
    (now : Nat) :
    FallbackAsked env fallback []
      (World.new (X := X) config now) := by
  refine ⟨_, World.sessionStore_new hSessions now, ?_⟩
  intro sid entry hEntry
  cases hEntry

/- A call that opens nothing at zero balance keeps this. -/
theorem FallbackAsked.step
    {past : List (ChatCall X)}
    {before after : World X}
    {c : ChatCall X}
    (hAsked : FallbackAsked env fallback past before)
    (hStep : CallStep client env before c after)
    (hOpens : OpensNothingAtZero env fallback c) :
    FallbackAsked env fallback (past ++ [c]) after := by
  rcases hAsked with ⟨store, hStore, hModels⟩
  rcases hStep.entry_model hStore with
    ⟨store', hAfter, hEntries⟩
  refine ⟨store', hAfter, ?_⟩
  intro sid entry' hEntry hModel
  rcases hEntries sid entry' hEntry with
    ⟨hNe, hOld⟩ | ⟨rfl, entry, hResumed, hOld, hSame⟩ |
      ⟨rfl, hNone, hGuarded⟩
  · rw [currentSession_of_ne (Ne.symm hNe)]
    exact hModels sid entry' hOld hModel
  · rcases hModels _ entry hOld (hSame.symm.trans hModel) with
      ⟨member, hMember, hNamed⟩
    exact ⟨member,
      mem_currentSession_of_resumed hResumed hMember, hNamed⟩
  · refine ⟨c, mem_currentSession_self env past c, ?_⟩
    by_cases hZero : c.start.balanceState = 0
    · rcases hOpens hZero with hSome | hNamed
      · rw [hNone] at hSome
        cases hSome
      · exact hNamed
    · rw [ChatCall.guarded_of_ne_zero hZero] at hGuarded
      rw [← c.given_model, ← hGuarded]
      exact hModel

/- Then the requests of a call are explained. -/
theorem FallbackAsked.explained
    {past : List (ChatCall X)}
    {before after : World X}
    {c : ChatCall X}
    (hAsked : FallbackAsked env fallback past before)
    (hStep : CallStep client env before c after) :
    FallbackExplained env fallback past c := by
  intro e hMem hPeer sent hBody hModel
  by_cases hZero : c.start.balanceState = 0
  · exact Or.inl hZero
  · right
    rcases hAsked with ⟨store, hStore, hModels⟩
    have hStart : c.start.sessionStore = some store :=
      hStep.between.sessionStore.trans hStore
    rcases hStep.asksFor e hMem hPeer with
      ⟨sent', hBody', hFor⟩
    rw [hBody] at hBody'
    cases hBody'
    rw [hModel, ChatCall.effective_model hStart hZero] at hFor
    cases hResumed : c.resumed env with
    | none =>
        rw [hResumed] at hFor
        exact ⟨c, mem_currentSession_self env past c,
          hFor.symm⟩
    | some entry =>
        rw [hResumed] at hFor
        have hFound : store.sessions c.sessionId =
            some entry := by
          have hLive := hResumed
          unfold ChatCall.resumed at hLive
          rw [hStart] at hLive
          exact (SessionStore.live_eq_some_iff.mp hLive).1
        rcases hModels _ entry hFound hFor.symm with
          ⟨member, hMember, hNamed⟩
        exact ⟨member,
          mem_currentSession_of_resumed hResumed hMember,
          hNamed⟩

/- After a run of such calls every session was asked for. -/
theorem fallbackAsked_of_run
    (hSessions : client.config.enableSessions = true)
    {now : Nat}
    {calls : List (ChatCall X)}
    {world : World X}
    (hRun :
      LabelledRun (CallStep client env)
        (World.new client.config now) calls world)
    (hOpens :
      ∀ c ∈ calls, OpensNothingAtZero env fallback c) :
    FallbackAsked env fallback calls world := by
  have hKept :=
    hRun.invariant
      (fun past w =>
        (∀ c ∈ past, OpensNothingAtZero env fallback c) →
          FallbackAsked env fallback past w)
      (fun _ => fallbackAsked_new hSessions now)
      (by
        intro past t c v _ hPast hStep hAll
        rcases List.forall_mem_append.mp hAll with
          ⟨hBefore, hLast⟩
        exact (hPast hBefore).step hStep
          (hLast c (List.mem_singleton.mpr rfl)))
  exact hKept hOpens

/-
  In every run whose calls open no session at zero balance,
  each request for the fallback model is explained.
-/
theorem fallback_confined
    (client : SolvelaClient X)
    (fallback : String)
    (hSessions : client.config.enableSessions = true)
    (env : Env)
    (now : Nat)
    (calls : List (ChatCall X))
    (world : World X)
    (hRun :
      LabelledRun (CallStep client env)
        (World.new client.config now) calls world)
    (hOpens :
      ∀ c ∈ calls, OpensNothingAtZero env fallback c) :
    ∀ past c rest, calls = past ++ c :: rest →
      FallbackExplained env fallback past c := by
  intro past c rest hCalls
  rw [hCalls] at hRun hOpens
  rcases labelledRun_append.mp hRun with
    ⟨before, hBefore, after, hStep, _⟩
  have hAsked :=
    fallbackAsked_of_run hSessions hBefore
      (fun c' hMem =>
        hOpens c' (List.mem_append_left _ hMem))
  exact hAsked.explained hStep

end Solvela

------------------------------------------------------------
-- Leaks
------------------------------------------------------------

namespace Solvela

open Effects Transitions

variable {X : Crates}
variable {client : SolvelaClient X}
variable {env : Env}
variable {fallback : String}

/- An attempt asks the gateway something. -/
theorem Attempt.exists_gateway
    {url : String}
    {headers : List Header}
    {req : ChatRequest}
    {es : List Exchange}
    {r : Except ClientError (ChatResponse × Option UInt64)}
    (hAttempt : Attempt client url headers req es r) :
    ∃ e ∈ es, e.peer = .gateway := by
  cases hAttempt with
  | answered hProbe _ =>
      exact ⟨_, List.mem_cons_self, hProbe.peer⟩
  | failed hProbe _ =>
      exact ⟨_, List.mem_cons_self, hProbe.peer⟩
  | refused hProbe _ _ _ =>
      exact ⟨_, List.mem_cons_self, hProbe.peer⟩
  | paid hProbe _ _ _ _ =>
      exact ⟨_, List.mem_cons_self, hProbe.peer⟩

theorem Conversation.exists_gateway
    {url : String}
    {req : ChatRequest}
    {es : List Exchange}
    {r : Except ClientError ChatResponse}
    (hTalk : Conversation client url req es r) :
    ∃ e ∈ es, e.peer = .gateway := by
  cases hTalk with
  | failed hAttempt => exact hAttempt.exists_gateway
  | unchecked _ hAttempt => exact hAttempt.exists_gateway
  | checked _ hAttempt _ =>
      rcases hAttempt.exists_gateway with ⟨e, hMem, hPeer⟩
      exact ⟨e, List.mem_append_left _ hMem, hPeer⟩

/- Opening a stream asks the gateway something. -/
theorem StreamAttempt.exists_gateway
    {url : String}
    {req : ChatRequest}
    {es : List Exchange}
    {r : Except ClientError
      (List (Except ClientError X.ChatChunk))}
    (hOpen : StreamAttempt client url req es r) :
    ∃ e ∈ es, e.peer = .gateway := by
  cases hOpen with
  | failed hProbe _ =>
      exact ⟨_, List.mem_cons_self, hProbe.peer⟩
  | opened hProbe _ _ =>
      exact ⟨_, List.mem_cons_self, hProbe.peer⟩
  | refused hProbe _ _ =>
      exact ⟨_, List.mem_cons_self, hProbe.peer⟩
  | paid hProbe _ _ _ _ =>
      exact ⟨_, List.mem_cons_self, hProbe.peer⟩

/- A streaming call is possible with any balance. -/
theorem exists_streamStep
    (client : SolvelaClient X)
    (env : Env)
    (before : World X)
    (balance : UInt64)
    (req : ChatRequest) :
    ∃ c after,
      CallStep client env before c after ∧
        c.streaming = true ∧ c.request = req ∧
          c.start =
            { before with balanceState := balance } ∧
            (∃ e ∈ c.sent, e.peer = .gateway) ∧
              after.now =
                (client.sessionStep env c.given
                  c.start).2.now := by
  let start := { before with balanceState := balance }
  rcases exists_runs (client.chatStream env req) start with
    ⟨r, after, hRun⟩
  rcases SolvelaClient.chatStream_trace hRun with
    ⟨sent, hSent, hOpen⟩
  exact ⟨_, after,
    .stream (Between.balance before balance) hRun hSent,
    rfl, rfl, rfl, hOpen.exists_gateway,
    SolvelaClient.chatStream_now hRun⟩

/- The session that a call leaves behind when it opens one. -/
theorem CallStep.opened_session
    {before after : World X}
    {c : ChatCall X}
    {store : SessionStore}
    (hStep : CallStep client env before c after)
    (hStore : c.start.sessionStore = some store)
    (hNone : c.resumed env = none) :
    ∃ store' entry, after.sessionStore = some store' ∧
      store'.ttl = store.ttl ∧
        store'.sessions c.sessionId = some entry ∧
          entry.model = (c.guarded client).1.model ∧
            entry.created =
              (client.sessionStep env c.given
                c.start).2.now := by
  let opened := SessionEntry.fresh
    (client.sessionStep env c.given c.start).2.now
    (c.guarded client).1.model
  rcases sessionStep_of_not_resumed client hStore
      hNone with ⟨hFirst, hLooked⟩
  rcases hStep.sessionStore_spec
      (congrArg Prod.snd hFirst) hLooked with
    hSame | ⟨hash, hNew⟩
  · exact ⟨_, opened, hSame, rfl,
      SessionStore.sessions_insert_self _ _ _, rfl, rfl⟩
  · refine ⟨_, opened.recordRequest hash, hNew, ?_, ?_, rfl,
      rfl⟩
    · rw [SessionStore.ttl_recordRequest]
      rfl
    · rw [SessionStore.sessions_recordRequest, if_pos rfl,
        SessionStore.sessions_insert_self]
      rfl

/- A live session is found by the next streaming call. -/
theorem exists_resumedStep
    (client : SolvelaClient X)
    {before : World X}
    {store : SessionStore}
    {entry : SessionEntry}
    {req : ChatRequest}
    (hStore : before.sessionStore = some store)
    (hLive :
      store.live (before.readClock env).1
          (SolvelaClient.sessionIdOf X req.messages) =
        some entry)
    (balance : UInt64) :
    ∃ c after,
      CallStep client env before c after ∧
        c.request = req ∧
          c.start =
            { before with balanceState := balance } ∧
            c.resumed env = some entry ∧
              ∃ e ∈ c.sent, e.peer = .gateway := by
  rcases exists_streamStep client env before balance req with
    ⟨c, after, hStep, _, hRequest, hStart, hAsks, _⟩
  refine ⟨c, after, hStep, hRequest, hStart, ?_, hAsks⟩
  unfold ChatCall.resumed ChatCall.sessionId
  rw [hStart, hRequest]
  dsimp only
  rw [hStore]
  exact hLive

/-
  A live session with the fallback model that nobody asked
  for leaks it to the next streaming call.
-/
theorem leaks_of_live
    {past : List (ChatCall X)}
    {before : World X}
    {store : SessionStore}
    {entry : SessionEntry}
    {req : ChatRequest}
    {balance : UInt64}
    (hStore : before.sessionStore = some store)
    (hLive :
      store.live (before.readClock env).1
          (SolvelaClient.sessionIdOf X req.messages) =
        some entry)
    (hModel : entry.model = fallback)
    (hUnasked :
      ∀ member ∈ currentSession env
          (SolvelaClient.sessionIdOf X req.messages) past,
        member.request.model ≠ fallback)
    (hOther : req.model ≠ fallback)
    (hBalance : balance ≠ 0) :
    ∃ c after,
      CallStep client env before c after ∧
        c.request = req ∧
          c.start.balanceState = balance ∧
            ¬ FallbackExplained env fallback past c := by
  rcases exists_resumedStep client hStore hLive balance with
    ⟨c, after, hStep, hRequest, hStart, hResumed, e, hMem,
      hPeer⟩
  have hPositive : c.start.balanceState ≠ 0 := by
    rw [hStart]
    exact hBalance
  have hStartStore : c.start.sessionStore = some store := by
    rw [hStart]
    exact hStore
  refine ⟨c, after, hStep, hRequest, by rw [hStart], ?_⟩
  intro hExplained
  rcases hStep.asksFor e hMem hPeer with
    ⟨sent, hBody, hFor⟩
  rw [ChatCall.effective_model hStartStore hPositive,
    hResumed] at hFor
  rcases hExplained e hMem hPeer sent hBody
      (hFor.trans hModel) with
    hZero | ⟨member, hMember, hNamed⟩
  · exact hPositive hZero
  · rw [currentSession_snoc] at hMember
    unfold ChatCall.join at hMember
    rw [if_pos rfl, hResumed] at hMember
    rcases List.mem_append.mp hMember with hPast | hLast
    · unfold ChatCall.sessionId at hPast
      rw [hRequest] at hPast
      exact hUnasked member hPast hNamed
    · rw [List.mem_singleton.mp hLast, hRequest] at hNamed
      exact hOther hNamed

/-
  The first call opens a session for the model that its guard
  decides on, and the session is live when it has returned.
-/
theorem exists_openingStep
    (client : SolvelaClient X)
    (hSessions : client.config.enableSessions = true)
    (hQuick : ∀ n, env.delay n < client.config.sessionTtl)
    (now : Nat)
    (balance : UInt64)
    (req : ChatRequest) :
    ∃ c after store entry,
      CallStep client env (World.new client.config now) c
          after ∧
        c.request = req ∧ c.start.balanceState = balance ∧
          c.resumed env = none ∧
            after.sessionStore = some store ∧
              store.live (after.readClock env).1
                  (SolvelaClient.sessionIdOf X
                    req.messages) =
                some entry ∧
                entry.model =
                  (c.guarded client).1.model := by
  rcases exists_streamStep client env
      (World.new client.config now) balance req with
    ⟨c, after, hStep, _, hRequest, hStart, _, hNow⟩
  have hStore :
      c.start.sessionStore =
        some (SessionStore.new client.config.sessionTtl) := by
    rw [hStart]
    exact World.sessionStore_new (X := X) hSessions now
  have hNone : c.resumed env = none := by
    unfold ChatCall.resumed
    rw [hStore]
    rfl
  rcases hStep.opened_session hStore hNone with
    ⟨store, entry, hAfter, hTtl, hEntry, hModel, hCreated⟩
  refine ⟨c, after, store, entry, hStep, hRequest,
    by rw [hStart], hNone, hAfter, ?_, hModel⟩
  apply SessionStore.live_eq_some_iff.mpr
  rw [← hRequest]
  refine ⟨hEntry, ?_⟩
  rw [hCreated, ← hNow, hTtl]
  change after.now + env.delay after.reads - after.now < _
  rw [Nat.add_sub_cancel_left]
  exact hQuick after.reads

/-
  Every client with sessions and a fallback model leaks it:
  a call at zero balance and one at a positive balance are
  enough.
-/
theorem fallback_leaks
    (client : SolvelaClient X)
    (hFallback :
      client.config.freeFallbackModel = some fallback)
    (hSessions : client.config.enableSessions = true)
    (hQuick : ∀ n, env.delay n < client.config.sessionTtl)
    (now : Nat)
    {req : ChatRequest}
    (hOther : req.model ≠ fallback)
    {balance : UInt64}
    (hBalance : balance ≠ 0) :
    ∃ first second world,
      LabelledRun (CallStep client env)
          (World.new client.config now) [first, second]
          world ∧
        second.request = req ∧
          second.start.balanceState = balance ∧
            ¬ FallbackExplained env fallback [first]
              second := by
  let sid := SolvelaClient.sessionIdOf X req.messages
  rcases exists_openingStep client hSessions hQuick now 0 req
    with
    ⟨first, mid, store, entry, hFirst, hRequest, hZero, hNone,
      hMid, hLive, hModel⟩
  have hSid : first.sessionId = sid := by
    unfold ChatCall.sessionId
    rw [hRequest]
  have hGuarded :
      (first.guarded client).1.model = fallback := by
    unfold ChatCall.guarded
    rw [hZero, SolvelaClient.balanceGuard_zero hFallback]
  have hMembers : currentSession env sid [first] = [first] := by
    have hJoined := currentSession_snoc env sid [] first
    unfold ChatCall.join at hJoined
    rw [if_pos hSid, hNone] at hJoined
    exact hJoined
  have hUnasked :
      ∀ member ∈ currentSession env sid [first],
        member.request.model ≠ fallback := by
    rw [hMembers]
    intro member hMember
    rw [List.mem_singleton.mp hMember, hRequest]
    exact hOther
  rcases leaks_of_live hMid hLive (hModel.trans hGuarded)
      hUnasked hOther hBalance with
    ⟨second, world, hSecond, hSame, hPaid, hLeak⟩
  exact ⟨first, second, world,
    ⟨mid, hFirst, world, hSecond, rfl⟩, hSame, hPaid, hLeak⟩

/- The sample client with sessions and a free model. -/
def stickyConfig : ClientConfig :=
  { freeConfig with enableSessions := true }

/- A run of the sample client, to the end of its calls. -/
def stickyRun
    (calls : List (ChatCall sampleCrates))
    (world : World sampleCrates) : Prop :=
  LabelledRun
    (CallStep (sampleClient stickyConfig) sampleEnv)
    (World.new stickyConfig 0) calls world

/- The sample delay is below the lifetime of a session. -/
theorem sampleEnv_quick :
    ∀ n, sampleEnv.delay n <
      (sampleClient stickyConfig).config.sessionTtl := by
  have hSecond : 1 < stickyConfig.sessionTtl := by
    decide
  exact fun _ => hSecond

/-
  One USDC, then an empty wallet: the second call finds the
  session of the first, and asks for the free model as it
  cannot pay.
-/
theorem fallback_confined_named :
    ∃ first second world,
      stickyRun [first, second] world ∧
        first.request = sampleRequest ∧
          first.start.balanceState = 1000000 ∧
            second.request = sampleRequest ∧
              second.start.balanceState = 0 ∧
                (∃ e ∈ second.sent, e.peer = .gateway ∧
                  AsksFor "free" e) ∧
                  ∀ past c rest,
                    [first, second] = past ++ c :: rest →
                      FallbackExplained sampleEnv "free" past
                        c := by
  rcases exists_openingStep (sampleClient stickyConfig) rfl
      sampleEnv_quick 0 1000000 sampleRequest with
    ⟨first, mid, store, entry, hFirst, hAsked, hPositive, _,
      hStore, hLive, _⟩
  rcases exists_resumedStep (sampleClient stickyConfig) hStore
      hLive 0 with
    ⟨second, world, hSecond, hAgain, hStart, hResumed, e, hMem,
      hPeer⟩
  have hRun : stickyRun [first, second] world :=
    ⟨mid, hFirst, world, hSecond, rfl⟩
  have hZero : second.start.balanceState = 0 := by
    rw [hStart]
  have hFree :
      (second.effective (sampleClient stickyConfig)
        sampleEnv).model = "free" :=
    ChatCall.effective_fallback rfl hZero
  refine ⟨first, second, world, hRun, hAsked, hPositive,
    hAgain, hZero, ⟨e, hMem, hPeer, ?_⟩, ?_⟩
  · rw [← hFree]
    exact hSecond.asksFor e hMem
  · apply fallback_confined (sampleClient stickyConfig) "free"
      rfl sampleEnv 0 [first, second] world hRun
    intro c hCall hNothing
    rcases List.mem_pair.mp hCall with rfl | rfl
    · rw [hPositive] at hNothing
      exact absurd hNothing (by decide)
    · rw [hResumed]
      exact Or.inl rfl

/-
  An empty wallet, then one USDC: the second call asks for
  another model, and is routed to the free one.
-/
theorem fallback_not_confined :
    ∃ first second world,
      stickyRun [first, second] world ∧
        second.request = sampleRequest ∧
          second.start.balanceState = 1000000 ∧
            ¬ FallbackExplained sampleEnv "free" [first]
              second := by
  have hBalance : (1000000 : UInt64) ≠ 0 := by
    decide
  exact fallback_leaks (sampleClient stickyConfig) rfl rfl
    sampleEnv_quick 0 (by decide) hBalance

end Solvela
