import Solvela.Client.Handshake

/-
  What a chat call does around its conversation.

  The steps before the first request only look at the shared
  state, and those after the last one only change the cache
  and the session store.

  Main declarations:
    * `sessionLookup_changes`, `cacheCheck_changes`
    * `cacheStore_changes`, `sessionUpdate_changes`
    * `SolvelaClient.sessionStep`, `SolvelaClient.cacheStep`
    * `SolvelaClient.cachedAnswer`
    * `runs_chat`, `runs_chatStream`
    * `chat_balanceState`, `chatStream_balanceState`
    * `balanceGuard_routes`
    * `sessionStep_messages`, `sessionStep_stream`
    * `chat_trace`, `chatStream_trace`
    * `sessionLookup_of_live`, `sessionLookup_of_not_live`
    * `chat_sessionStore_of_unrecorded`
    * `chat_sessionStore_of_recorded`
    * `chatStream_sessionStore`
    * `cacheStep_of_cache`, `finish_cache`
-/

------------------------------------------------------------
-- Steps That Do Not Send
------------------------------------------------------------

namespace Solvela

namespace SolvelaClient

variable {X : Crates}

/- Looking up a session changes the store and the clock. -/
theorem sessionLookup_changes
    (env : Env)
    (req : ChatRequest)
    (usedFallback : Bool)
    (world : World X) :
    ∃ now reads store,
      (sessionLookup env req usedFallback world).2 =
        { world with
          now := now
          reads := reads
          sessionStore := store } := by
  unfold sessionLookup
  cases world.sessionStore with
  | none => exact ⟨world.now, world.reads, _, rfl⟩
  | some store => exact ⟨_, _, _, rfl⟩

/- Looking into the cache changes it and the clock. -/
theorem cacheCheck_changes
    (env : Env)
    (req : ChatRequest)
    (world : World X) :
    ∃ now reads cache,
      (cacheCheck env req world).2 =
        { world with
          now := now
          reads := reads
          cache := cache } := by
  unfold cacheCheck
  cases world.cache with
  | none => exact ⟨world.now, world.reads, _, rfl⟩
  | some cache => exact ⟨_, _, _, rfl⟩

/- So does storing a response. -/
theorem cacheStore_changes
    (env : Env)
    (cacheKey : Option UInt64)
    (response : ChatResponse)
    (world : World X) :
    ∃ now reads cache,
      cacheStore env cacheKey response world =
        { world with
          now := now
          reads := reads
          cache := cache } := by
  unfold cacheStore
  cases cacheKey with
  | none => exact ⟨world.now, world.reads, _, rfl⟩
  | some key =>
      cases world.cache with
      | none => exact ⟨world.now, world.reads, _, rfl⟩
      | some cache => exact ⟨_, _, _, rfl⟩

/- Recording a request changes only the store. -/
theorem sessionUpdate_changes
    (sessionId : Option String)
    (req : ChatRequest)
    (world : World X) :
    ∃ store,
      sessionUpdate sessionId req world =
        { world with sessionStore := store } := by
  unfold sessionUpdate
  cases sessionId with
  | none => exact ⟨world.sessionStore, rfl⟩
  | some sid =>
      cases world.sessionStore with
      | none => exact ⟨_, rfl⟩
      | some store => exact ⟨_, rfl⟩

@[simp] theorem sessionLookup_trace
    (env : Env)
    (req : ChatRequest)
    (usedFallback : Bool)
    (world : World X) :
    (sessionLookup env req usedFallback world).2.trace =
      world.trace := by
  rcases sessionLookup_changes env req usedFallback world with
    ⟨now, reads, store, hWorld⟩
  rw [hWorld]

@[simp] theorem cacheCheck_trace
    (env : Env)
    (req : ChatRequest)
    (world : World X) :
    (cacheCheck env req world).2.trace = world.trace := by
  rcases cacheCheck_changes env req world with
    ⟨now, reads, cache, hWorld⟩
  rw [hWorld]

@[simp] theorem cacheStore_trace
    (env : Env)
    (cacheKey : Option UInt64)
    (response : ChatResponse)
    (world : World X) :
    (cacheStore env cacheKey response world).trace =
      world.trace := by
  rcases cacheStore_changes env cacheKey response world with
    ⟨now, reads, cache, hWorld⟩
  rw [hWorld]

@[simp] theorem sessionUpdate_trace
    (sessionId : Option String)
    (req : ChatRequest)
    (world : World X) :
    (sessionUpdate sessionId req world).trace =
      world.trace := by
  rcases sessionUpdate_changes sessionId req world with
    ⟨store, hWorld⟩
  rw [hWorld]

end SolvelaClient

end Solvela

------------------------------------------------------------
-- The Steps Of A Call
------------------------------------------------------------

namespace Solvela

open Effects

namespace SolvelaClient

variable {X : Crates}

/- The request and the session id after Steps 1 and 2. -/
def sessionStep
    (client : SolvelaClient X)
    (env : Env)
    (req : ChatRequest)
    (world : World X) :
    (ChatRequest × Option String) × World X :=
  let guarded :=
    balanceGuard client.config world.balanceState req
  sessionLookup env guarded.1 guarded.2 world

/- The cache key and the cached response after Step 3. -/
def cacheStep
    (client : SolvelaClient X)
    (env : Env)
    (req : ChatRequest)
    (world : World X) :
    (Option UInt64 × Option ChatResponse) × World X :=
  let session := client.sessionStep env
    { req with stream := false } world
  cacheCheck env session.1.1 session.2

/- The live cached answer to a chat call, if there is one. -/
def cachedAnswer
    (client : SolvelaClient X)
    (env : Env)
    (req : ChatRequest)
    (world : World X) : Option ChatResponse :=
  (client.cacheStep env req world).1.2

/- The request that a chat call sends. -/
def effectiveRequest
    (client : SolvelaClient X)
    (env : Env)
    (req : ChatRequest)
    (world : World X) : ChatRequest :=
  (client.sessionStep env
    { req with stream := false } world).1.1

/- The world after a conversation and Step 6. -/
def finish
    (client : SolvelaClient X)
    (env : Env)
    (req : ChatRequest)
    (world : World X)
    (r : Except ClientError ChatResponse)
    (spoken : World X) : World X :=
  match r with
  | .ok response =>
      sessionUpdate
        (client.sessionStep env
          { req with stream := false } world).1.2
        (client.effectiveRequest env req world)
        (cacheStore env (client.cacheStep env req world).1.1
          response spoken)
  | .error _ => spoken

/-
  A chat call answers from the cache, or it holds a
  conversation and then updates the shared state.
-/
theorem runs_chat
    {client : SolvelaClient X}
    {env : Env}
    {req : ChatRequest}
    {world world' : World X}
    {r : Except ClientError ChatResponse} :
    Runs (client.chat env req) world r world' ↔
      (∃ cached,
        (client.cacheStep env req world).1.2 = some cached ∧
          r = .ok cached ∧
            world' = (client.cacheStep env req world).2) ∨
        (client.cacheStep env req world).1.2 = none ∧
          ∃ spoken,
            Runs
              (client.converse env client.chatUrl
                (client.effectiveRequest env req world))
              (client.cacheStep env req world).2 r spoken ∧
            world' =
              client.finish env req world r spoken := by
  unfold chat finish effectiveRequest cacheStep sessionStep
  rw [runs_get_bind, runs_modifyGet_bind,
    runs_modifyGet_bind]
  generalize sessionLookup env _ _ world = session
  generalize cacheCheck env session.1.1 session.2 = cache
  cases cache.1.2 with
  | some cached =>
      simp only [runs_pure, Option.some.injEq, reduceCtorEq,
        false_and, or_false, exists_eq_left']
  | none =>
      simp only [reduceCtorEq, false_and, exists_false,
        true_and, false_or]
      rw [runs_bind]
      constructor
      · intro hRun
        rcases hRun with
          ⟨response, spoken, hSpeak, hEnd⟩ |
            ⟨err, hSpeak, rfl⟩
        · rw [runs_modify_bind, runs_modify_bind,
            runs_pure] at hEnd
          rcases hEnd with ⟨rfl, rfl⟩
          exact ⟨spoken, hSpeak, rfl⟩
        · exact ⟨world', hSpeak, rfl⟩
      · intro hRun
        rcases hRun with ⟨spoken, hSpeak, rfl⟩
        cases r with
        | ok response =>
            refine Or.inl ⟨response, spoken, hSpeak, ?_⟩
            rw [runs_modify_bind, runs_modify_bind,
              runs_pure]
            exact ⟨rfl, rfl⟩
        | error err => exact Or.inr ⟨err, hSpeak, rfl⟩

/- A streaming call updates the session, then streams. -/
theorem runs_chatStream
    {client : SolvelaClient X}
    {env : Env}
    {req : ChatRequest}
    {world world' : World X}
    {r : Except ClientError
      (List (Except ClientError X.ChatChunk))} :
    Runs (client.chatStream env req) world r world' ↔
      Runs
        (client.openStream env client.chatUrl
          (client.sessionStep env req world).1.1)
        (sessionUpdate
          (client.sessionStep env req world).1.2
          (client.sessionStep env req world).1.1
          (client.sessionStep env req world).2)
        r world' := by
  rfl

end SolvelaClient

end Solvela

------------------------------------------------------------
-- The Balance During A Call
------------------------------------------------------------

namespace Solvela

open Effects

namespace SolvelaClient

variable {X : Crates}

@[simp] theorem sessionLookup_balanceState
    (env : Env)
    (req : ChatRequest)
    (usedFallback : Bool)
    (world : World X) :
    (sessionLookup env req usedFallback world).2.balanceState =
      world.balanceState := by
  rcases sessionLookup_changes env req usedFallback world with
    ⟨now, reads, store, hWorld⟩
  rw [hWorld]

@[simp] theorem cacheCheck_balanceState
    (env : Env)
    (req : ChatRequest)
    (world : World X) :
    (cacheCheck env req world).2.balanceState =
      world.balanceState := by
  rcases cacheCheck_changes env req world with
    ⟨now, reads, cache, hWorld⟩
  rw [hWorld]

@[simp] theorem cacheStore_balanceState
    (env : Env)
    (cacheKey : Option UInt64)
    (response : ChatResponse)
    (world : World X) :
    (cacheStore env cacheKey response world).balanceState =
      world.balanceState := by
  rcases cacheStore_changes env cacheKey response world with
    ⟨now, reads, cache, hWorld⟩
  rw [hWorld]

@[simp] theorem sessionUpdate_balanceState
    (sessionId : Option String)
    (req : ChatRequest)
    (world : World X) :
    (sessionUpdate sessionId req world).balanceState =
      world.balanceState := by
  rcases sessionUpdate_changes sessionId req world with
    ⟨store, hWorld⟩
  rw [hWorld]

/- A chat call does not change the balance. -/
theorem chat_balanceState
    {client : SolvelaClient X}
    {env : Env}
    {req : ChatRequest}
    {world world' : World X}
    {r : Except ClientError ChatResponse}
    (hRun : Runs (client.chat env req) world r world') :
    world'.balanceState = world.balanceState := by
  have hChecked :
      (client.cacheStep env req world).2.balanceState =
        world.balanceState := by
    unfold cacheStep
    rw [cacheCheck_balanceState]
    exact sessionLookup_balanceState env _ _ world
  rcases runs_chat.mp hRun with
    ⟨_, _, _, rfl⟩ | ⟨_, spoken, hSpeak, rfl⟩
  · exact hChecked
  · rcases converse_spec hSpeak with ⟨es, rfl, _⟩
    unfold finish
    cases r with
    | error err => exact hChecked
    | ok response =>
        simp only [sessionUpdate_balanceState,
          cacheStore_balanceState]
        exact hChecked

/- Neither does a streaming call. -/
theorem chatStream_balanceState
    {client : SolvelaClient X}
    {env : Env}
    {req : ChatRequest}
    {world world' : World X}
    {r : Except ClientError
      (List (Except ClientError X.ChatChunk))}
    (hRun : Runs (client.chatStream env req) world r world') :
    world'.balanceState = world.balanceState := by
  rcases openStream_spec (runs_chatStream.mp hRun) with
    ⟨es, rfl, _⟩
  change (sessionUpdate _ _ _).balanceState = _
  rw [sessionUpdate_balanceState]
  exact sessionLookup_balanceState env _ _ world

end SolvelaClient

end Solvela

------------------------------------------------------------
-- The Messages Of A Call
------------------------------------------------------------

namespace Solvela

namespace SolvelaClient

variable {X : Crates}

/- The guard looks at the model alone and changes no more. -/
theorem balanceGuard_routes
    (config : ClientConfig)
    (balance : UInt64) :
    ∃ route : String → String × Bool,
      ∀ req : ChatRequest,
        balanceGuard config balance req =
          ({ req with model := (route req.model).1 },
            (route req.model).2) := by
  unfold balanceGuard
  cases config.freeFallbackModel with
  | none => exact ⟨fun model => (model, false), fun _ => rfl⟩
  | some fallback =>
      by_cases hPolled : balance = balanceNotPolled
      · simp only [if_pos hPolled]
        exact ⟨fun model => (model, false), fun _ => rfl⟩
      · by_cases hZero : balance = 0
        · simp only [if_neg hPolled, if_pos hZero]
          exact ⟨fun _ => (fallback, true), fun _ => rfl⟩
        · simp only [if_neg hPolled, if_neg hZero]
          exact ⟨fun model => (model, false), fun _ => rfl⟩

@[simp] theorem balanceGuard_messages
    (config : ClientConfig)
    (balance : UInt64)
    (req : ChatRequest) :
    (balanceGuard config balance req).1.messages =
      req.messages := by
  rcases balanceGuard_routes config balance with
    ⟨route, hRoute⟩
  rw [hRoute]

@[simp] theorem sessionLookup_messages
    (env : Env)
    (req : ChatRequest)
    (usedFallback : Bool)
    (world : World X) :
    (sessionLookup env req usedFallback
      world).1.1.messages = req.messages := by
  unfold sessionLookup
  cases world.sessionStore with
  | none => rfl
  | some store =>
      cases usedFallback with
      | true => rfl
      | false => rfl

/- The steps before the first request keep the messages. -/
@[simp] theorem sessionStep_messages
    (client : SolvelaClient X)
    (env : Env)
    (req : ChatRequest)
    (world : World X) :
    (client.sessionStep env req world).1.1.messages =
      req.messages := by
  unfold sessionStep
  rw [sessionLookup_messages, balanceGuard_messages]

/- The hash of a call is that of the messages it was given. -/
theorem hashRequestContent_congr
    {req req' : ChatRequest}
    (hMessages : req.messages = req'.messages) :
    hashRequestContent X req = hashRequestContent X req' := by
  unfold hashRequestContent
  rw [hMessages]

end SolvelaClient

end Solvela

------------------------------------------------------------
-- The Stream Flag
------------------------------------------------------------

namespace Solvela

namespace SolvelaClient

variable {X : Crates}

/- The guard does not look at the flag. -/
theorem balanceGuard_stream
    (config : ClientConfig)
    (balance : UInt64)
    (req : ChatRequest)
    (stream : Bool) :
    balanceGuard config balance { req with stream := stream } =
      ({ (balanceGuard config balance req).1 with
          stream := stream },
        (balanceGuard config balance req).2) := by
  rcases balanceGuard_routes config balance with
    ⟨route, hRoute⟩
  rw [hRoute, hRoute]

/- Neither does the look-up of the session. -/
theorem sessionLookup_stream
    (env : Env)
    (req : ChatRequest)
    (stream usedFallback : Bool)
    (world : World X) :
    sessionLookup env { req with stream := stream }
        usedFallback world =
      (({ (sessionLookup env req usedFallback world).1.1 with
            stream := stream },
          (sessionLookup env req usedFallback world).1.2),
        (sessionLookup env req usedFallback world).2) := by
  unfold sessionLookup
  cases world.sessionStore with
  | none => rfl
  | some store =>
      cases usedFallback with
      | true => rfl
      | false => rfl

/- So both kinds of call take the same steps. -/
theorem sessionStep_stream
    (client : SolvelaClient X)
    (env : Env)
    (req : ChatRequest)
    (stream : Bool)
    (world : World X) :
    client.sessionStep env { req with stream := stream }
        world =
      (({ (client.sessionStep env req world).1.1 with
            stream := stream },
          (client.sessionStep env req world).1.2),
        (client.sessionStep env req world).2) := by
  unfold sessionStep
  rw [balanceGuard_stream]
  exact sessionLookup_stream env _ stream _ world

end SolvelaClient

end Solvela

------------------------------------------------------------
-- The Exchanges Of A Call
------------------------------------------------------------

namespace Solvela

open Effects

namespace SolvelaClient

variable {X : Crates}

@[simp] theorem sessionStep_trace
    (client : SolvelaClient X)
    (env : Env)
    (req : ChatRequest)
    (world : World X) :
    (client.sessionStep env req world).2.trace =
      world.trace := by
  unfold sessionStep
  exact sessionLookup_trace env _ _ world

@[simp] theorem cacheStep_trace
    (client : SolvelaClient X)
    (env : Env)
    (req : ChatRequest)
    (world : World X) :
    (client.cacheStep env req world).2.trace =
      world.trace := by
  unfold cacheStep
  rw [cacheCheck_trace, sessionStep_trace]

@[simp] theorem finish_trace
    (client : SolvelaClient X)
    (env : Env)
    (req : ChatRequest)
    (world : World X)
    (r : Except ClientError ChatResponse)
    (spoken : World X) :
    (client.finish env req world r spoken).trace =
      spoken.trace := by
  unfold finish
  cases r with
  | ok response =>
      simp only [sessionUpdate_trace, cacheStore_trace]
  | error err => rfl

/-
  The exchanges of a chat call: none when it answers from the
  cache, else those of its conversation.
-/
theorem chat_trace
    {client : SolvelaClient X}
    {env : Env}
    {req : ChatRequest}
    {world world' : World X}
    {r : Except ClientError ChatResponse}
    (hRun : Runs (client.chat env req) world r world') :
    world'.trace = world.trace ∨
      ∃ es, world'.trace = world.trace ++ es ∧
        Conversation client client.chatUrl
          (client.effectiveRequest env req world) es r := by
  rcases runs_chat.mp hRun with
    ⟨cached, _, _, rfl⟩ | ⟨_, spoken, hSpeak, rfl⟩
  · left
    rw [cacheStep_trace]
  · right
    rcases converse_spec hSpeak with ⟨es, rfl, hTalk⟩
    refine ⟨es, ?_, hTalk⟩
    rw [finish_trace]
    change (client.cacheStep env req world).2.trace ++ es = _
    rw [cacheStep_trace]

/- The exchanges of a streaming call. -/
theorem chatStream_trace
    {client : SolvelaClient X}
    {env : Env}
    {req : ChatRequest}
    {world world' : World X}
    {r : Except ClientError
      (List (Except ClientError X.ChatChunk))}
    (hRun : Runs (client.chatStream env req) world r world') :
    ∃ es, world'.trace = world.trace ++ es ∧
      StreamAttempt client client.chatUrl
        (client.sessionStep env req world).1.1 es r := by
  rcases openStream_spec (runs_chatStream.mp hRun) with
    ⟨es, rfl, hTalk⟩
  refine ⟨es, ?_, hTalk⟩
  change (sessionUpdate _ _ _).trace ++ es = _
  rw [sessionUpdate_trace, sessionStep_trace]

end SolvelaClient

end Solvela

------------------------------------------------------------
-- The Session Store During A Call
------------------------------------------------------------

namespace Solvela

open Effects

namespace SolvelaClient

variable {X : Crates}

/- The session of a conversation. -/
def sessionIdOf
    (X : Crates)
    (messages : List ChatMessage) : String :=
  SessionStore.deriveSessionId X.defaultHasher messages

/- A live session decides the model, unless one fell back. -/
theorem sessionLookup_of_live
    {env : Env}
    {req : ChatRequest}
    {world : World X}
    {store : SessionStore}
    {entry : SessionEntry}
    (hStore : world.sessionStore = some store)
    (hLive :
      store.live (world.readClock env).1
          (sessionIdOf X req.messages) =
        some entry)
    (usedFallback : Bool) :
    (sessionLookup env req usedFallback world).1 =
        (if usedFallback then
            req
          else
            { req with model := entry.model },
          some (sessionIdOf X req.messages)) ∧
      (sessionLookup env req usedFallback
          world).2.sessionStore =
        some store := by
  unfold sessionLookup
  rw [hStore]
  have hFound := fun now created =>
    SessionStore.getOrCreate_of_live hLive now created
      req.model
  unfold sessionIdOf at hFound ⊢
  simp only [hFound]
  cases usedFallback with
  | true => exact ⟨rfl, trivial⟩
  | false => exact ⟨rfl, trivial⟩

/-
  Otherwise a session with the asked model is created, at the
  last clock reading of the look-up.
-/
theorem sessionLookup_of_not_live
    {env : Env}
    {req : ChatRequest}
    {world : World X}
    {store : SessionStore}
    (hStore : world.sessionStore = some store)
    (hNone :
      store.live (world.readClock env).1
          (sessionIdOf X req.messages) =
        none)
    (usedFallback : Bool) :
    (sessionLookup env req usedFallback world).1 =
        (req, some (sessionIdOf X req.messages)) ∧
      (sessionLookup env req usedFallback
          world).2.sessionStore =
        some (store.insert (sessionIdOf X req.messages)
          (.fresh
            (sessionLookup env req usedFallback world).2.now
            req.model)) := by
  have hLater :
      (world.readClock env).1 ≤
        ((world.readClock env).2.readClock env).1 :=
    Nat.le_add_right _ _
  have hCreated := fun created =>
    SessionStore.getOrCreate_of_not_live hLater hNone created
      req.model
  unfold sessionLookup
  rw [hStore]
  unfold sessionIdOf at hCreated ⊢
  simp only [hCreated]
  cases usedFallback with
  | true => exact ⟨rfl, rfl⟩
  | false => exact ⟨rfl, rfl⟩

/- Recording a request takes no clock reading. -/
@[simp] theorem sessionUpdate_now
    (sessionId : Option String)
    (req : ChatRequest)
    (world : World X) :
    (sessionUpdate sessionId req world).now = world.now := by
  rcases sessionUpdate_changes sessionId req world with
    ⟨store, hWorld⟩
  rw [hWorld]

/- After its look-up, a streaming call reads no clock. -/
theorem chatStream_now
    {client : SolvelaClient X}
    {env : Env}
    {req : ChatRequest}
    {world world' : World X}
    {r : Except ClientError
      (List (Except ClientError X.ChatChunk))}
    (hRun : Runs (client.chatStream env req) world r world') :
    world'.now = (client.sessionStep env req world).2.now := by
  rcases openStream_spec (runs_chatStream.mp hRun) with
    ⟨es, rfl, _⟩
  exact sessionUpdate_now _ _ _

@[simp] theorem cacheCheck_sessionStore
    (env : Env)
    (req : ChatRequest)
    (world : World X) :
    (cacheCheck env req world).2.sessionStore =
      world.sessionStore := by
  rcases cacheCheck_changes env req world with
    ⟨now, reads, cache, hWorld⟩
  rw [hWorld]

@[simp] theorem cacheStore_sessionStore
    (env : Env)
    (cacheKey : Option UInt64)
    (response : ChatResponse)
    (world : World X) :
    (cacheStore env cacheKey response world).sessionStore =
      world.sessionStore := by
  rcases cacheStore_changes env cacheKey response world with
    ⟨now, reads, cache, hWorld⟩
  rw [hWorld]

/- Recording a request in a store. -/
theorem sessionUpdate_sessionStore
    {world : World X}
    {store : SessionStore}
    (hStore : world.sessionStore = some store)
    (sid : String)
    (req : ChatRequest) :
    (sessionUpdate (some sid) req world).sessionStore =
      some (store.recordRequest sid
        (hashRequestContent X req)) := by
  unfold sessionUpdate
  rw [hStore]

/- The look-up of the cache leaves the session store alone. -/
theorem cacheStep_sessionStore
    (client : SolvelaClient X)
    (env : Env)
    (req : ChatRequest)
    (world : World X) :
    (client.cacheStep env req world).2.sessionStore =
      (client.sessionStep env { req with stream := false }
        world).2.sessionStore := by
  unfold cacheStep
  exact cacheCheck_sessionStore env _ _

/-
  A chat call that is answered from the cache, or fails,
  records nothing.
-/
theorem chat_sessionStore_of_unrecorded
    {client : SolvelaClient X}
    {env : Env}
    {req : ChatRequest}
    {world world' : World X}
    {r : Except ClientError ChatResponse}
    (hRun : Runs (client.chat env req) world r world')
    (hUnrecorded :
      client.cachedAnswer env req world ≠ none ∨
        ∃ err, r = .error err) :
    world'.sessionStore =
      (client.sessionStep env { req with stream := false }
        world).2.sessionStore := by
  rw [← cacheStep_sessionStore]
  rcases runs_chat.mp hRun with
    ⟨_, _, _, rfl⟩ | ⟨hMissed, spoken, hSpeak, rfl⟩
  · rfl
  · rcases hUnrecorded with hHit | ⟨err, rfl⟩
    · exact absurd hMissed hHit
    · rcases converse_spec hSpeak with ⟨es, rfl, _⟩
      rfl

/- Any other chat call records its request once. -/
theorem chat_sessionStore_of_recorded
    {client : SolvelaClient X}
    {env : Env}
    {req : ChatRequest}
    {world world' : World X}
    {response : ChatResponse}
    {sid : String}
    {store : SessionStore}
    (hRun :
      Runs (client.chat env req) world (.ok response) world')
    (hMissed : client.cachedAnswer env req world = none)
    (hSid :
      (client.sessionStep env
        { req with stream := false } world).1.2 = some sid)
    (hStore :
      (client.sessionStep env
        { req with stream := false } world).2.sessionStore =
        some store) :
    world'.sessionStore =
      some (store.recordRequest sid
        (hashRequestContent X
          (client.effectiveRequest env req world))) := by
  rcases runs_chat.mp hRun with
    ⟨cached, hCached, _, _⟩ | ⟨_, spoken, hSpeak, rfl⟩
  · unfold cachedAnswer at hMissed
    rw [hMissed] at hCached
    cases hCached
  · rcases converse_spec hSpeak with ⟨es, rfl, _⟩
    have hSpoken :
        ((client.cacheStep env req world).2.extend
          es).sessionStore = some store :=
      (cacheStep_sessionStore client env req world).trans
        hStore
    unfold finish
    simp only [hSid]
    apply sessionUpdate_sessionStore _ sid
    rw [cacheStore_sessionStore]
    exact hSpoken

/-
  After its look-up, a chat call changes the session store by
  recording the request, if it does that at all.
-/
theorem chat_sessionStore
    {client : SolvelaClient X}
    {env : Env}
    {req : ChatRequest}
    {world world' : World X}
    {r : Except ClientError ChatResponse}
    {sid : String}
    {store : SessionStore}
    (hRun : Runs (client.chat env req) world r world')
    (hSid :
      (client.sessionStep env
        { req with stream := false } world).1.2 = some sid)
    (hStore :
      (client.sessionStep env
        { req with stream := false } world).2.sessionStore =
        some store) :
    world'.sessionStore = some store ∨
      ∃ hash, world'.sessionStore =
        some (store.recordRequest sid hash) := by
  by_cases hMissed :
      client.cachedAnswer env req world = none
  · cases r with
    | ok response =>
        exact Or.inr ⟨_, chat_sessionStore_of_recorded hRun
          hMissed hSid hStore⟩
    | error err =>
        rw [chat_sessionStore_of_unrecorded hRun
          (Or.inr ⟨err, rfl⟩)]
        exact Or.inl hStore
  · rw [chat_sessionStore_of_unrecorded hRun (Or.inl hMissed)]
    exact Or.inl hStore

/- A streaming call records the request in any case. -/
theorem chatStream_sessionStore
    {client : SolvelaClient X}
    {env : Env}
    {req : ChatRequest}
    {world world' : World X}
    {r : Except ClientError
      (List (Except ClientError X.ChatChunk))}
    {sid : String}
    {store : SessionStore}
    (hRun : Runs (client.chatStream env req) world r world')
    (hSid :
      (client.sessionStep env req world).1.2 = some sid)
    (hStore :
      (client.sessionStep env req world).2.sessionStore =
        some store) :
    world'.sessionStore =
      some (store.recordRequest sid
        (hashRequestContent X
          (client.sessionStep env req world).1.1)) := by
  rcases openStream_spec (runs_chatStream.mp hRun) with
    ⟨es, rfl, _⟩
  rw [hSid]
  exact sessionUpdate_sessionStore hStore sid _

end SolvelaClient

end Solvela

------------------------------------------------------------
-- The Cache During A Call
------------------------------------------------------------

namespace Solvela

open Effects

namespace SolvelaClient

variable {X : Crates}

/- The cache key of a request. -/
def requestKey
    (X : Crates)
    (req : ChatRequest) : UInt64 :=
  ResponseCache.cacheKey X.aHasher X.roleToString req.model
    req.messages

theorem sessionLookup_now_le
    (env : Env)
    (req : ChatRequest)
    (usedFallback : Bool)
    (world : World X) :
    world.now ≤
      (sessionLookup env req usedFallback world).2.now := by
  unfold sessionLookup
  cases world.sessionStore with
  | none => exact Nat.le_refl _
  | some store =>
      have hFirst := Nat.le_add_right world.now
        (env.delay world.reads)
      exact (hFirst.trans (Nat.le_add_right _ _)).trans
        (Nat.le_add_right _ _)

@[simp] theorem sessionLookup_cache
    (env : Env)
    (req : ChatRequest)
    (usedFallback : Bool)
    (world : World X) :
    (sessionLookup env req usedFallback world).2.cache =
      world.cache := by
  rcases sessionLookup_changes env req usedFallback world with
    ⟨now, reads, store, hWorld⟩
  rw [hWorld]

@[simp] theorem sessionUpdate_cache
    (sessionId : Option String)
    (req : ChatRequest)
    (world : World X) :
    (sessionUpdate sessionId req world).cache =
      world.cache := by
  rcases sessionUpdate_changes sessionId req world with
    ⟨store, hWorld⟩
  rw [hWorld]

/- Step 3 looks up the key of the effective request. -/
theorem cacheStep_of_cache
    (client : SolvelaClient X)
    (env : Env)
    (req : ChatRequest)
    {world : World X}
    {cache : ResponseCache X.LruCache}
    (hCache : world.cache = some cache) :
    (client.cacheStep env req world).1 =
        (some (requestKey X
            (client.effectiveRequest env req world)),
          (cache.get X.lru
            (client.cacheStep env req world).2.now
            (requestKey X
              (client.effectiveRequest env req world))).1) ∧
      (client.cacheStep env req world).2.cache =
        some (cache.get X.lru
          (client.cacheStep env req world).2.now
          (requestKey X
            (client.effectiveRequest env req world))).2 ∧
        world.now ≤
          (client.cacheStep env req world).2.now := by
  have hKept :
      (client.sessionStep env { req with stream := false }
        world).2.cache = some cache := by
    unfold sessionStep
    rw [sessionLookup_cache]
    exact hCache
  have hLater :
      world.now ≤
        (client.sessionStep env { req with stream := false }
          world).2.now :=
    sessionLookup_now_le env _ _ world
  unfold cacheStep effectiveRequest cacheCheck
  dsimp only
  rw [hKept]
  exact ⟨rfl, rfl, hLater.trans (Nat.le_add_right _ _)⟩

/- Step 6 stores the response under that key. -/
theorem finish_cache
    {client : SolvelaClient X}
    {env : Env}
    {req : ChatRequest}
    {world spoken : World X}
    {cache : ResponseCache X.LruCache}
    {key : UInt64}
    (hKey :
      (client.cacheStep env req world).1.1 = some key)
    (hCache : spoken.cache = some cache)
    (response : ChatResponse) :
    ∃ now,
      spoken.now ≤ now ∧
        now ≤ (client.finish env req world (.ok response)
          spoken).now ∧
          (client.finish env req world (.ok response)
              spoken).cache =
            some (cache.put X.lru now
              (client.finish env req world (.ok response)
                spoken).now
              key response) := by
  refine ⟨spoken.now + env.delay spoken.reads,
    Nat.le_add_right _ _, ?_⟩
  unfold finish
  simp only [sessionUpdate_cache, sessionUpdate_now]
  unfold cacheStore
  rw [hKey, hCache]
  exact ⟨Nat.le_add_right _ _, rfl⟩

/- The look-up of a session takes three clock readings. -/
theorem sessionLookup_now_quick
    {env : Env}
    {limit : Nat}
    (hQuick : ∀ n, env.delay n ≤ limit)
    (req : ChatRequest)
    (usedFallback : Bool)
    (world : World X) :
    (sessionLookup env req usedFallback world).2.now ≤
      world.now + 3 * limit := by
  have hFirst := hQuick world.reads
  have hSecond := hQuick (world.reads + 1)
  have hThird := hQuick (world.reads + 1 + 1)
  unfold sessionLookup
  cases world.sessionStore with
  | none => exact Nat.le_add_right _ _
  | some store =>
      change world.now + env.delay world.reads +
        env.delay (world.reads + 1) +
          env.delay (world.reads + 1 + 1) ≤ _
      omega

/- The look-up in the cache takes one more. -/
theorem cacheCheck_now_quick
    {env : Env}
    {limit : Nat}
    (hQuick : ∀ n, env.delay n ≤ limit)
    (req : ChatRequest)
    (world : World X) :
    (cacheCheck env req world).2.now ≤ world.now + limit := by
  unfold cacheCheck
  cases world.cache with
  | none => exact Nat.le_add_right _ _
  | some cache =>
      exact Nat.add_le_add_left (hQuick world.reads) _

/- So Step 3 is over soon. -/
theorem cacheStep_now_quick
    (client : SolvelaClient X)
    {env : Env}
    {limit : Nat}
    (hQuick : ∀ n, env.delay n ≤ limit)
    (req : ChatRequest)
    (world : World X) :
    (client.cacheStep env req world).2.now ≤
      world.now + 4 * limit := by
  let session := client.sessionStep env
    { req with stream := false } world
  have hLooked :
      session.2.now ≤ world.now + 3 * limit :=
    sessionLookup_now_quick hQuick _ _ world
  have hChecked :
      (cacheCheck env session.1.1 session.2).2.now ≤
        session.2.now + limit :=
    cacheCheck_now_quick hQuick _ _
  change (cacheCheck env session.1.1 session.2).2.now ≤ _
  omega

/- A streaming call does not touch the cache. -/
theorem chatStream_cache
    {client : SolvelaClient X}
    {env : Env}
    {req : ChatRequest}
    {world world' : World X}
    {r : Except ClientError
      (List (Except ClientError X.ChatChunk))}
    (hRun : Runs (client.chatStream env req) world r world') :
    world'.cache = world.cache := by
  rcases openStream_spec (runs_chatStream.mp hRun) with
    ⟨es, rfl, _⟩
  change (sessionUpdate _ _ _).cache = _
  rw [sessionUpdate_cache]
  exact sessionLookup_cache env _ _ world

end SolvelaClient

end Solvela

------------------------------------------------------------
-- Calls Without Sessions
------------------------------------------------------------

namespace Solvela

open Effects

namespace SolvelaClient

variable {X : Crates}
variable {client : SolvelaClient X}
variable {env : Env}
variable {req : ChatRequest}
variable {world world' : World X}

/- Without sessions the look-up does nothing. -/
theorem sessionLookup_of_no_sessions
    (hStore : world.sessionStore = none)
    (usedFallback : Bool) :
    sessionLookup env req usedFallback world =
      ((req, none), world) := by
  unfold sessionLookup
  rw [hStore]

/- Then only the guard can change the request. -/
theorem sessionStep_of_no_sessions
    (hStore : world.sessionStore = none) :
    client.sessionStep env req world =
      (((balanceGuard client.config world.balanceState req).1,
        none), world) := by
  unfold sessionStep
  exact sessionLookup_of_no_sessions hStore _

/- A chat call does not start to keep sessions. -/
theorem chat_keeps_no_sessions
    {r : Except ClientError ChatResponse}
    (hRun : Runs (client.chat env req) world r world')
    (hStore : world.sessionStore = none) :
    world'.sessionStore = none := by
  have hLooked :
      (client.cacheStep env req world).2.sessionStore =
        none := by
    rw [cacheStep_sessionStore,
      sessionStep_of_no_sessions hStore]
    exact hStore
  rcases runs_chat.mp hRun with
    ⟨_, _, _, rfl⟩ | ⟨_, spoken, hSpeak, rfl⟩
  · exact hLooked
  · rcases converse_spec hSpeak with ⟨es, rfl, _⟩
    unfold finish
    cases r with
    | error err => exact hLooked
    | ok response =>
        simp only [sessionStep_of_no_sessions hStore]
        unfold sessionUpdate
        rw [cacheStore_sessionStore]
        exact hLooked

/- Neither does a streaming call. -/
theorem chatStream_keeps_no_sessions
    {r : Except ClientError
      (List (Except ClientError X.ChatChunk))}
    (hRun : Runs (client.chatStream env req) world r world')
    (hStore : world.sessionStore = none) :
    world'.sessionStore = none := by
  rcases openStream_spec (runs_chatStream.mp hRun) with
    ⟨es, rfl, _⟩
  rw [sessionStep_of_no_sessions hStore]
  exact hStore

/- Without a fallback model the guard does nothing. -/
theorem balanceGuard_of_no_fallback
    {config : ClientConfig}
    (hFallback : config.freeFallbackModel = none)
    (balance : UInt64)
    (req : ChatRequest) :
    balanceGuard config balance req = (req, false) := by
  unfold balanceGuard
  rw [hFallback]

/- Without both, the request is sent as it is. -/
theorem sessionStep_of_plain
    (hFallback : client.config.freeFallbackModel = none)
    (hStore : world.sessionStore = none) :
    client.sessionStep env req world =
      ((req, none), world) := by
  rw [sessionStep_of_no_sessions hStore,
    balanceGuard_of_no_fallback hFallback]

theorem effectiveRequest_of_plain
    (hFallback : client.config.freeFallbackModel = none)
    (hStore : world.sessionStore = none) :
    client.effectiveRequest env req world =
      { req with stream := false } := by
  unfold effectiveRequest
  rw [sessionStep_of_plain hFallback hStore]

end SolvelaClient

end Solvela
