import Solvela.Client.Calls
import Solvela.Foundations.Transitions

/-
  Runs of chat calls on one client.

  Between two calls time passes, other calls may exchange
  messages, and the balance can take any value.  The cache
  and the session store are only changed by chat calls.

  Main declarations:
    * `ChatCall`, `Between`, `CallStep`
    * `ChatCall.effective`, `ChatCall.resumed`
    * `CallStep.sent_spec`, `CallStep.carries`
    * `CallStep.sessionStore_spec`
    * `ChatCall.Arrives`, `exists_arrival`
-/

------------------------------------------------------------
-- Calls
------------------------------------------------------------

namespace Solvela

/-
  One call of a run: what was asked, the world it began in,
  what it exchanged, the response it returned, if any, and
  the clock at its end.
-/
structure ChatCall (X : Crates) where
  streaming : Bool
  request : ChatRequest
  start : World X
  sent : List Exchange
  answer : Option ChatResponse
  ended : Nat

/- A later world with the same cache and session store. -/
structure Between
    {X : Crates}
    (before start : World X) : Prop where
  trace : before.trace <+: start.trace
  now_le : before.now ≤ start.now
  cache : start.cache = before.cache
  sessionStore : start.sessionStore = before.sessionStore

theorem Between.refl
    {X : Crates}
    (world : World X) :
    Between world world where
  trace := List.prefix_refl _
  now_le := Nat.le_refl _
  cache := rfl
  sessionStore := rfl

/- The same world with another balance. -/
theorem Between.balance
    {X : Crates}
    (world : World X)
    (balance : UInt64) :
    Between world { world with balanceState := balance } where
  trace := List.prefix_refl _
  now_le := Nat.le_refl _
  cache := rfl
  sessionStore := rfl

namespace ChatCall

variable {X : Crates}

/- The request as the call passes it on. -/
def given
    (c : ChatCall X) : ChatRequest :=
  if c.streaming then
    c.request
  else
    { c.request with stream := false }

@[simp] theorem given_model
    (c : ChatCall X) :
    c.given.model = c.request.model := by
  unfold given
  cases c.streaming with
  | false => rfl
  | true => rfl

@[simp] theorem given_messages
    (c : ChatCall X) :
    c.given.messages = c.request.messages := by
  unfold given
  cases c.streaming with
  | false => rfl
  | true => rfl

/- The request that the call sends. -/
def effective
    (client : SolvelaClient X)
    (env : Env)
    (c : ChatCall X) : ChatRequest :=
  (client.sessionStep env c.given c.start).1.1

/- The id of the conversation. -/
def sessionId
    (c : ChatCall X) : String :=
  SolvelaClient.sessionIdOf X c.request.messages

/- The live session that the call finds on arrival. -/
def resumed
    (env : Env)
    (c : ChatCall X) : Option SessionEntry :=
  c.start.sessionStore.bind (fun store =>
    store.live (c.start.readClock env).1 c.sessionId)

end ChatCall

end Solvela

------------------------------------------------------------
-- Steps
------------------------------------------------------------

namespace Solvela

open Effects

variable {X : Crates}

/- One call of a run, of either kind. -/
inductive CallStep
    (client : SolvelaClient X)
    (env : Env) :
    World X → ChatCall X → World X → Prop where
  | chat
      {before start after : World X}
      {req : ChatRequest}
      {sent : List Exchange}
      {r : Except ClientError ChatResponse}
      (hBetween : Between before start)
      (hRun : Runs (client.chat env req) start r after)
      (hSent : after.trace = start.trace ++ sent) :
      CallStep client env before
        { streaming := false
          request := req
          start := start
          sent := sent
          answer := r.toOption
          ended := after.now }
        after
  | stream
      {before start after : World X}
      {req : ChatRequest}
      {sent : List Exchange}
      {r : Except ClientError
        (List (Except ClientError X.ChatChunk))}
      (hBetween : Between before start)
      (hRun : Runs (client.chatStream env req) start r after)
      (hSent : after.trace = start.trace ++ sent) :
      CallStep client env before
        { streaming := true
          request := req
          start := start
          sent := sent
          answer := none
          ended := after.now }
        after

variable {client : SolvelaClient X}
variable {env : Env}
variable {before after : World X}
variable {c : ChatCall X}

theorem CallStep.between
    (hStep : CallStep client env before c after) :
    Between before c.start := by
  cases hStep with
  | chat hBetween _ _ => exact hBetween
  | stream hBetween _ _ => exact hBetween

/-
  What a call exchanged: nothing, or a conversation about the
  effective request, or what opening a stream takes.
-/
theorem CallStep.sent_spec
    (hStep : CallStep client env before c after) :
    c.sent = [] ∨
      (∃ r, Conversation client client.chatUrl
        (c.effective client env) c.sent r) ∨
        ∃ r, StreamAttempt client client.chatUrl
          (c.effective client env) c.sent r := by
  cases hStep with
  | chat _ hRun hSent =>
      rcases SolvelaClient.chat_trace hRun with
        hSame | ⟨es, hTrace, hTalk⟩
      · rw [hSent] at hSame
        left
        simpa using hSame
      · rw [hSent] at hTrace
        cases List.append_cancel_left hTrace
        exact Or.inr (Or.inl ⟨_, hTalk⟩)
  | stream _ hRun hSent =>
      rcases SolvelaClient.chatStream_trace hRun with
        ⟨es, hTrace, hOpen⟩
      rw [hSent] at hTrace
      cases List.append_cancel_left hTrace
      exact Or.inr (Or.inr ⟨_, hOpen⟩)

/- The requests of a call carry its effective request. -/
theorem CallStep.carries
    (hStep : CallStep client env before c after) :
    ∀ e ∈ c.sent, Carries (c.effective client env) e := by
  rcases hStep.sent_spec with
    hNone | ⟨r, hTalk⟩ | ⟨r, hOpen⟩
  · rw [hNone]
    intro e hMem
    cases hMem
  · exact hTalk.carries
  · exact hOpen.carries

end Solvela

------------------------------------------------------------
-- The Session Of A Call
------------------------------------------------------------

namespace Solvela

open Effects

namespace ChatCall

variable {X : Crates}

/- The request after the balance guard, and its verdict. -/
def guarded
    (client : SolvelaClient X)
    (c : ChatCall X) : ChatRequest × Bool :=
  SolvelaClient.balanceGuard client.config
    c.start.balanceState c.given

@[simp] theorem guarded_messages
    (client : SolvelaClient X)
    (c : ChatCall X) :
    (c.guarded client).1.messages = c.request.messages := by
  unfold guarded
  rw [SolvelaClient.balanceGuard_messages, given_messages]

/- The guard keeps the session that a call belongs to. -/
theorem sessionIdOf_guarded
    (client : SolvelaClient X)
    (c : ChatCall X) :
    SolvelaClient.sessionIdOf X
        (c.guarded client).1.messages =
      c.sessionId := by
  rw [guarded_messages]
  rfl

end ChatCall

variable {X : Crates}
variable {client : SolvelaClient X}
variable {env : Env}
variable {c : ChatCall X}
variable {store : SessionStore}

/- A call that finds a session leaves the store alone. -/
theorem sessionStep_of_resumed
    (client : SolvelaClient X)
    {entry : SessionEntry}
    (hStore : c.start.sessionStore = some store)
    (hResumed : c.resumed env = some entry) :
    (client.sessionStep env c.given c.start).1 =
        (if (c.guarded client).2 then
            (c.guarded client).1
          else
            { (c.guarded client).1 with model := entry.model },
          some c.sessionId) ∧
      (client.sessionStep env c.given
          c.start).2.sessionStore =
        some store := by
  unfold ChatCall.resumed at hResumed
  rw [hStore] at hResumed
  have hLive :
      store.live (c.start.readClock env).1 c.sessionId =
        some entry :=
    hResumed
  rw [← c.sessionIdOf_guarded client] at hLive ⊢
  exact SolvelaClient.sessionLookup_of_live hStore hLive _

/- A call that finds none creates one for its model. -/
theorem sessionStep_of_not_resumed
    (client : SolvelaClient X)
    (hStore : c.start.sessionStore = some store)
    (hNone : c.resumed env = none) :
    (client.sessionStep env c.given c.start).1 =
        ((c.guarded client).1, some c.sessionId) ∧
      (client.sessionStep env c.given
          c.start).2.sessionStore =
        some (store.insert c.sessionId
          (.fresh
            (client.sessionStep env c.given c.start).2.now
            (c.guarded client).1.model)) := by
  unfold ChatCall.resumed at hNone
  rw [hStore] at hNone
  have hLive :
      store.live (c.start.readClock env).1 c.sessionId =
        none :=
    hNone
  rw [← c.sessionIdOf_guarded client] at hLive ⊢
  exact SolvelaClient.sessionLookup_of_not_live hStore hLive _

/-
  After its look-up a call changes the session store by
  recording the request, if it does that at all.
-/
theorem CallStep.sessionStore_spec
    {before after : World X}
    {looked : SessionStore}
    (hStep : CallStep client env before c after)
    (hSid :
      (client.sessionStep env c.given c.start).1.2 =
        some c.sessionId)
    (hLooked :
      (client.sessionStep env c.given
        c.start).2.sessionStore = some looked) :
    after.sessionStore = some looked ∨
      ∃ hash, after.sessionStore =
        some (looked.recordRequest c.sessionId hash) := by
  cases hStep with
  | chat _ hRun _ =>
      exact SolvelaClient.chat_sessionStore hRun hSid hLooked
  | stream _ hRun _ =>
      exact Or.inr ⟨_, SolvelaClient.chatStream_sessionStore
        hRun hSid hLooked⟩

/- A call does not start to keep sessions. -/
theorem CallStep.keeps_no_sessions
    {before after : World X}
    (hStep : CallStep client env before c after)
    (hStore : before.sessionStore = none) :
    after.sessionStore = none := by
  cases hStep with
  | stream hBetween hRun _ =>
      exact SolvelaClient.chatStream_keeps_no_sessions hRun
        (hBetween.sessionStore.trans hStore)
  | chat hBetween hRun _ =>
      exact SolvelaClient.chat_keeps_no_sessions hRun
        (hBetween.sessionStore.trans hStore)

/- A new client keeps sessions if it is configured to. -/
theorem World.sessionStore_new
    {config : ClientConfig}
    (hSessions : config.enableSessions = true)
    (now : Nat) :
    (World.new (X := X) config now).sessionStore =
      some (SessionStore.new config.sessionTtl) := by
  unfold World.new
  rw [hSessions]
  rfl

/-
  What the look-up of a call leaves of a store: the session
  that it found, or a new one, and the others as they were.
-/
structure ChatCall.Arrives
    (client : SolvelaClient X)
    (env : Env)
    (c : ChatCall X)
    (store looked : SessionStore)
    (entry : SessionEntry) : Prop where
  found : looked.sessions c.sessionId = some entry
  others : ∀ sid, sid ≠ c.sessionId →
    looked.sessions sid = store.sessions sid
  resumed_or_fresh :
    (c.resumed env = some entry ∧
        store.sessions c.sessionId = some entry) ∨
      c.resumed env = none ∧
        ∃ created,
          entry = .fresh created (c.guarded client).1.model

theorem exists_arrival
    (client : SolvelaClient X)
    (hStore : c.start.sessionStore = some store) :
    (client.sessionStep env c.given c.start).1.2 =
        some c.sessionId ∧
      ∃ looked entry,
        (client.sessionStep env c.given
            c.start).2.sessionStore = some looked ∧
          c.Arrives client env store looked entry := by
  cases hResumed : c.resumed env with
  | some entry =>
      rcases sessionStep_of_resumed client hStore hResumed with
        ⟨hFirst, hLooked⟩
      have hFound : store.sessions c.sessionId = some entry := by
        have hLive := hResumed
        unfold ChatCall.resumed at hLive
        rw [hStore] at hLive
        exact (SessionStore.live_eq_some_iff.mp hLive).1
      exact ⟨congrArg Prod.snd hFirst, store, entry, hLooked,
        { found := hFound
          others := fun _ _ => rfl
          resumed_or_fresh := Or.inl ⟨hResumed, hFound⟩ }⟩
  | none =>
      rcases sessionStep_of_not_resumed client hStore
          hResumed with ⟨hFirst, hLooked⟩
      exact ⟨congrArg Prod.snd hFirst, _, _, hLooked,
        { found := SessionStore.sessions_insert_self _ _ _
          others := fun _ hNe =>
            SessionStore.sessions_insert_of_ne _ hNe _
          resumed_or_fresh := Or.inr ⟨hResumed, _, rfl⟩ }⟩

end Solvela
