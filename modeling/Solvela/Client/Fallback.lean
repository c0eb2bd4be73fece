import Solvela.Client.Budget

/-
  The free fallback model.

  A zero balance routes a call to the fallback model.  It
  does not keep the call from paying when the gateway asks:
  the terms of a 402 are met for whatever model was asked.

  Main declarations:
    * `sessionStep_zero`
    * `AsksFor`
    * `Free`, `ChatFree`, `StreamFree`
    * `zero_balance_free_iff`
-/

------------------------------------------------------------
-- Routing
------------------------------------------------------------

namespace Solvela

namespace SolvelaClient

variable {X : Crates}

theorem balanceGuard_zero
    {config : ClientConfig}
    {fallback : String}
    (hFallback : config.freeFallbackModel = some fallback)
    (req : ChatRequest) :
    balanceGuard config 0 req =
      ({ req with model := fallback }, true) := by
  unfold balanceGuard
  rw [hFallback]
  rfl

theorem balanceGuard_of_ne_zero
    {config : ClientConfig}
    {balance : UInt64}
    (hBalance : balance ≠ 0)
    (req : ChatRequest) :
    balanceGuard config balance req = (req, false) := by
  unfold balanceGuard
  cases config.freeFallbackModel with
  | none => rfl
  | some fallback =>
      by_cases hPolled : balance = balanceNotPolled
      · simp only [if_pos hPolled]
      · simp only [if_neg hPolled, if_neg hBalance]

/- After a fallback the session does not change the request. -/
theorem sessionLookup_fallback
    (env : Env)
    (req : ChatRequest)
    (world : World X) :
    (sessionLookup env req true world).1.1 = req := by
  unfold sessionLookup
  cases world.sessionStore with
  | none => rfl
  | some store => rfl

/- A call at zero balance uses the fallback model. -/
theorem sessionStep_zero
    {client : SolvelaClient X}
    {fallback : String}
    (hFallback :
      client.config.freeFallbackModel = some fallback)
    {world : World X}
    (hZero : world.balanceState = 0)
    (env : Env)
    (req : ChatRequest) :
    (client.sessionStep env req world).1.1 =
      { req with model := fallback } := by
  unfold sessionStep
  rw [hZero, balanceGuard_zero hFallback]
  exact sessionLookup_fallback env _ world

end SolvelaClient

end Solvela

------------------------------------------------------------
-- The Model That Is Asked For
------------------------------------------------------------

namespace Solvela

/- A request to the gateway, if it is one, is for `model`. -/
def AsksFor
    (model : String)
    (e : Exchange) : Prop :=
  e.peer = .gateway →
    ∃ sent, e.request.body = .chat sent ∧ sent.model = model

theorem Carries.asksFor
    {req : ChatRequest}
    {e : Exchange}
    (hCarries : Carries req e) :
    AsksFor req.model e := by
  intro hPeer
  rcases hCarries hPeer with ⟨stream, hBody⟩
  exact ⟨_, hBody, rfl⟩

variable {X : Crates}
variable {client : SolvelaClient X}
variable {url : String}

/- A conversation asks for one model throughout. -/
theorem Conversation.asksFor
    {req : ChatRequest}
    {es : List Exchange}
    {r : Except ClientError ChatResponse}
    (hTalk : Conversation client url req es r) :
    ∀ e ∈ es, AsksFor req.model e :=
  fun e hMem => (hTalk.carries e hMem).asksFor

/- Opening a stream asks for one model throughout. -/
theorem StreamAttempt.asksFor
    {req : ChatRequest}
    {es : List Exchange}
    {r : Except ClientError
      (List (Except ClientError X.ChatChunk))}
    (hOpen : StreamAttempt client url req es r) :
    ∀ e ∈ es, AsksFor req.model e :=
  fun e hMem => (hOpen.carries e hMem).asksFor

end Solvela

------------------------------------------------------------
-- When A Zero Balance Keeps A Call Free
------------------------------------------------------------

namespace Solvela

open Effects

variable {X : Crates}

/- Nothing is paid, and only the fallback model is asked. -/
structure Free
    (fallback : String)
    (es : List Exchange) : Prop where
  unpaid : ∀ e ∈ es, e.request.payments = []
  routed : ∀ e ∈ es, AsksFor fallback e

theorem free_nil
    (fallback : String) :
    Free fallback [] where
  unpaid := by
    intro e hNone
    cases hNone
  routed := by
    intro e hNone
    cases hNone

/- A chat call is free, however it is answered. -/
def ChatFree
    (client : SolvelaClient X)
    (env : Env)
    (fallback : String)
    (req : ChatRequest)
    (world : World X) : Prop :=
  ∀ r world' es,
    Runs (client.chat env req) world r world' →
      world'.trace = world.trace ++ es → Free fallback es

/- A streaming call is free, however it is answered. -/
def StreamFree
    (client : SolvelaClient X)
    (env : Env)
    (fallback : String)
    (req : ChatRequest)
    (world : World X) : Prop :=
  ∀ r world' es,
    Runs (client.chatStream env req) world r world' →
      world'.trace = world.trace ++ es → Free fallback es

variable {client : SolvelaClient X}
variable {fallback : String}

/- A cached answer makes a chat call free. -/
theorem chatFree_of_cached
    {env : Env}
    {req : ChatRequest}
    {world : World X}
    (hCached : (client.cachedAnswer env req world).isSome) :
    ChatFree client env fallback req world := by
  intro r world' es hRun hTrace
  rcases SolvelaClient.runs_chat.mp hRun with
    ⟨cached, _, _, rfl⟩ | ⟨hMissed, _⟩
  · rw [SolvelaClient.cacheStep_trace] at hTrace
    have hNone : es = [] := by
      simpa using hTrace
    rw [hNone]
    exact free_nil fallback
  · have hNone :
        client.cachedAnswer env req world = none :=
      hMissed
    rw [hNone] at hCached
    cases hCached

/- So does a recipient that nothing can be paid to. -/
theorem chatFree_of_invalid_recipient
    (hFallback :
      client.config.freeFallbackModel = some fallback)
    (hInvalid : InvalidRecipient X client.config)
    {world : World X}
    (hZero : world.balanceState = 0)
    (env : Env)
    (req : ChatRequest) :
    ChatFree client env fallback req world := by
  intro r world' es hRun hTrace
  rcases hInvalid with ⟨expected, err, hExpected, hParse⟩
  rcases SolvelaClient.chat_trace hRun with
    hSame | ⟨es', hTrace', hTalk⟩
  · rw [hTrace] at hSame
    have hNone : es = [] := by
      simpa using hSame
    rw [hNone]
    exact free_nil fallback
  · rw [hTrace] at hTrace'
    cases List.append_cancel_left hTrace'
    refine ⟨hTalk.honest.unpaid_of_invalid_recipient
      hExpected hParse, ?_⟩
    have hRouted := hTalk.asksFor
    unfold SolvelaClient.effectiveRequest at hRouted
    rw [SolvelaClient.sessionStep_zero hFallback
      hZero] at hRouted
    exact hRouted

theorem streamFree_of_invalid_recipient
    (hFallback :
      client.config.freeFallbackModel = some fallback)
    (hInvalid : InvalidRecipient X client.config)
    {world : World X}
    (hZero : world.balanceState = 0)
    (env : Env)
    (req : ChatRequest) :
    StreamFree client env fallback req world := by
  intro r world' es hRun hTrace
  rcases hInvalid with ⟨expected, err, hExpected, hParse⟩
  rcases SolvelaClient.chatStream_trace hRun with
    ⟨es', hTrace', hOpen⟩
  rw [hTrace] at hTrace'
  cases List.append_cancel_left hTrace'
  refine ⟨hOpen.honest.unpaid_of_invalid_recipient
    hExpected hParse, ?_⟩
  have hRouted := hOpen.asksFor
  rw [SolvelaClient.sessionStep_zero hFallback
    hZero] at hRouted
  exact hRouted

namespace Demand

variable {payTo : String} {amount : UInt64}
variable {demand : Demand X payTo amount}

/- Against a gateway that asks, a chat call is not free. -/
theorem Acceptable.not_chatFree
    (hAcceptable : demand.Acceptable client.config)
    (P : Payable X)
    (env : Env)
    (hReply : env.reply = demand.reply)
    (req : ChatRequest)
    (world : World X)
    (hMissed : client.cachedAnswer env req world = none) :
    ¬ ChatFree client env fallback req world := by
  intro hFree
  rcases hAcceptable.exists_paid_chat P env hReply req world
      hMissed with
    ⟨r, world', es, hRun, hTrace, e, hMem, hPaid⟩
  exact hPaid ((hFree r world' es hRun hTrace).unpaid e hMem)

theorem Acceptable.not_streamFree
    (hAcceptable : demand.Acceptable client.config)
    (P : Payable X)
    (env : Env)
    (hReply : env.reply = demand.reply)
    (req : ChatRequest)
    (world : World X) :
    ¬ StreamFree client env fallback req world := by
  intro hFree
  rcases hAcceptable.exists_paid_stream P env hReply req
      world with
    ⟨r, world', es, hRun, hTrace, e, hMem, hPaid⟩
  exact hPaid ((hFree r world' es hRun hTrace).unpaid e hMem)

end Demand

/- No amount is too small to be asked for. -/
theorem exists_zero_demand
    (P : Payable X)
    (hValid : ¬ InvalidRecipient X client.config) :
    ∃ payTo, ∃ demand : Demand X payTo 0,
      demand.Acceptable client.config :=
  exists_acceptable_demand P hValid
    (fun _ _ => UInt64.zero_le)

/-
  At zero balance and against every gateway, a chat call is
  free exactly when no recipient can be paid or the answer is
  cached, and a streaming call exactly when no recipient can
  be paid.
-/
theorem zero_balance_free_iff
    (P : Payable X)
    (client : SolvelaClient X)
    (fallback : String)
    (hFallback :
      client.config.freeFallbackModel = some fallback)
    (env : Env)
    (req : ChatRequest)
    (world : World X)
    (hZero : world.balanceState = 0) :
    ((∀ reply,
      ChatFree client (env.withReply reply) fallback req
        world) ↔
      InvalidRecipient X client.config ∨
        (client.cachedAnswer env req world).isSome) ∧
    ((∀ reply,
      StreamFree client (env.withReply reply) fallback req
        world) ↔
      InvalidRecipient X client.config) := by
  constructor
  · constructor
    · intro hFree
      by_contra hNot
      rw [not_or] at hNot
      rcases hNot with ⟨hValid, hMissed⟩
      rcases exists_zero_demand P hValid with
        ⟨payTo, demand, hAcceptable⟩
      have hUncached :
          client.cachedAnswer env req world = none := by
        simpa using hMissed
      exact hAcceptable.not_chatFree P
        (env.withReply demand.reply) rfl req world hUncached
        (hFree demand.reply)
    · intro hCondition reply
      rcases hCondition with hInvalid | hCached
      · exact chatFree_of_invalid_recipient hFallback
          hInvalid hZero _ req
      · exact chatFree_of_cached hCached
  · constructor
    · intro hFree
      by_contra hValid
      rcases exists_zero_demand P hValid with
        ⟨payTo, demand, hAcceptable⟩
      exact hAcceptable.not_streamFree P
        (env.withReply demand.reply) rfl req world
        (hFree demand.reply)
    · intro hInvalid reply
      exact streamFree_of_invalid_recipient hFallback
        hInvalid hZero _ req

/- The default configuration with a free model. -/
def freeConfig : ClientConfig :=
  { ClientConfig.default with
    freeFallbackModel := some "free" }

/- A new client whose wallet was found empty. -/
def emptyWorld : World sampleCrates :=
  { World.new freeConfig 0 with balanceState := 0 }

/- The default recipient, and an empty wallet. -/
theorem zero_balance_free_default :
    ((∀ reply,
      ChatFree (sampleClient freeConfig)
        (sampleEnv.withReply reply) "free" sampleRequest
        emptyWorld) ↔
      InvalidRecipient sampleCrates freeConfig ∨
        ((sampleClient freeConfig).cachedAnswer sampleEnv
          sampleRequest emptyWorld).isSome) ∧
    ((∀ reply,
      StreamFree (sampleClient freeConfig)
        (sampleEnv.withReply reply) "free" sampleRequest
        emptyWorld) ↔
      InvalidRecipient sampleCrates freeConfig) :=
  zero_balance_free_iff sampleCrates_payable
    (sampleClient freeConfig) "free" rfl sampleEnv
    sampleRequest emptyWorld rfl

/- A gateway is paid by a client without a balance. -/
theorem zero_balance_not_free :
    ¬ ChatFree (sampleClient freeConfig) sampleEnv "free"
        sampleRequest emptyWorld ∧
      ¬ StreamFree (sampleClient freeConfig) sampleEnv "free"
        sampleRequest emptyWorld := by
  have hAcceptable :
      sampleDemand.Acceptable
        (sampleClient freeConfig).config :=
    sampleDemand_acceptable rfl rfl
  constructor
  · exact hAcceptable.not_chatFree sampleCrates_payable
      sampleEnv rfl sampleRequest emptyWorld rfl
  · exact hAcceptable.not_streamFree sampleCrates_payable
      sampleEnv rfl sampleRequest emptyWorld

end Solvela
