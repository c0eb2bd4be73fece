import Solvela.Client.Atomicity

/-
  Chat calls and streaming calls, compared.

  A streaming call records its request before it sends it,
  and a chat call when it was answered.  What they send, and
  what they leave of the sessions, is the same.

  Main declarations:
    * `sessionStep_withReply`
    * `SessionsAfter`
    * `chat_agrees_with_stream`
-/

------------------------------------------------------------
-- The Request They Send
------------------------------------------------------------

namespace Solvela

/- The flag of the carried request does not matter. -/
theorem carries_stream_iff
    {req : ChatRequest}
    {stream : Bool}
    {e : Exchange} :
    Carries { req with stream := stream } e ↔
      Carries req e :=
  Iff.rfl

namespace SolvelaClient

open Effects

variable {X : Crates}
variable {client : SolvelaClient X}
variable {env : Env}
variable {req : ChatRequest}
variable {world world' : World X}

/- The look-up asks nobody. -/
theorem sessionStep_withReply
    (client : SolvelaClient X)
    (env : Env)
    (reply : List Exchange → Peer → HttpRequest →
      Except ReqwestError HttpResponse)
    (req : ChatRequest)
    (world : World X) :
    client.sessionStep (env.withReply reply) req world =
      client.sessionStep env req world :=
  rfl

/- A chat call sends the request of a streaming one. -/
theorem chat_carries
    {r : Except ClientError ChatResponse}
    {es : List Exchange}
    (hRun : Runs (client.chat env req) world r world')
    (hSent : world'.trace = world.trace ++ es) :
    ∀ e ∈ es,
      Carries (client.sessionStep env req world).1.1 e := by
  rcases chat_trace hRun with hSame | ⟨es', hTrace, hTalk⟩
  · rw [hSent] at hSame
    have hNone : es = [] := by
      simpa using hSame
    rw [hNone]
    intro e hMem
    cases hMem
  · rw [hSent] at hTrace
    cases List.append_cancel_left hTrace
    intro e hMem
    have hCarries := hTalk.carries e hMem
    unfold effectiveRequest at hCarries
    rw [sessionStep_stream] at hCarries
    exact carries_stream_iff.mp hCarries

theorem chatStream_carries
    {r : Except ClientError
      (List (Except ClientError X.ChatChunk))}
    {es : List Exchange}
    (hRun : Runs (client.chatStream env req) world r world')
    (hSent : world'.trace = world.trace ++ es) :
    ∀ e ∈ es,
      Carries (client.sessionStep env req world).1.1 e := by
  rcases chatStream_trace hRun with ⟨es', hTrace, hOpen⟩
  rw [hSent] at hTrace
  cases List.append_cancel_left hTrace
  exact hOpen.carries

end SolvelaClient

end Solvela

------------------------------------------------------------
-- The Sessions They Leave
------------------------------------------------------------

namespace Solvela

open Effects

variable {X : Crates}

/- Only the session under `sid` may have changed. -/
def SessionsAfter
    (sid : String)
    (before after : Option SessionStore) : Prop :=
  Option.Rel
    (fun store left => ∀ id, id ≠ sid →
      left.sessions id = store.sessions id)
    before after

namespace SolvelaClient

variable {client : SolvelaClient X}
variable {env : Env}
variable {req : ChatRequest}
variable {world world' : World X}

/- What recording a request leaves after the look-up. -/
def recordedStore
    (client : SolvelaClient X)
    (env : Env)
    (req : ChatRequest)
    (world : World X) : Option SessionStore :=
  (client.sessionStep env req world).2.sessionStore.map
    (fun looked =>
      looked.recordRequest (sessionIdOf X req.messages)
        (hashRequestContent X req))

/- The look-up of a call that is about to be made. -/
theorem exists_looked
    (client : SolvelaClient X)
    (env : Env)
    (req : ChatRequest)
    {store : SessionStore}
    (hStore : world.sessionStore = some store) :
    (client.sessionStep env req world).1.2 =
        some (sessionIdOf X req.messages) ∧
      ∃ looked,
        (client.sessionStep env req world).2.sessionStore =
            some looked ∧
          ∀ id, id ≠ sessionIdOf X req.messages →
            looked.sessions id = store.sessions id := by
  let c : ChatCall X :=
    { streaming := true
      request := req
      start := world
      sent := []
      answer := none
      ended := world.now }
  have hArrival :
      (client.sessionStep env c.given c.start).1.2 =
          some c.sessionId ∧
        ∃ looked entry,
          (client.sessionStep env c.given
              c.start).2.sessionStore = some looked ∧
            c.Arrives client env store looked entry :=
    exists_arrival client hStore
  rcases hArrival with
    ⟨hSid, looked, _, hLooked, hArrives⟩
  exact ⟨hSid, looked, hLooked, hArrives.others⟩

/- Without sessions there is nothing to record in. -/
theorem recordedStore_of_no_sessions
    (client : SolvelaClient X)
    (env : Env)
    (req : ChatRequest)
    (hStore : world.sessionStore = none) :
    client.recordedStore env req world = none := by
  unfold recordedStore
  rw [sessionStep_of_no_sessions hStore]
  exact Option.map_eq_none_iff.mpr hStore

/- Only the session of the request is touched by that. -/
theorem sessionsAfter_recordedStore
    (client : SolvelaClient X)
    (env : Env)
    (req : ChatRequest)
    (world : World X) :
    SessionsAfter (sessionIdOf X req.messages)
      world.sessionStore
      (client.recordedStore env req world) := by
  cases hStore : world.sessionStore with
  | none =>
      rw [recordedStore_of_no_sessions client env req hStore]
      exact .none
  | some store =>
      rcases exists_looked client env req hStore with
        ⟨_, looked, hLooked, hOthers⟩
      unfold recordedStore
      rw [hLooked]
      refine .some ?_
      intro id hNe
      rw [SessionStore.sessions_recordRequest, if_neg hNe]
      exact hOthers id hNe

/- An answered chat call leaves that, if it was not a hit. -/
theorem chat_leaves_recordedStore
    {response : ChatResponse}
    (hRun :
      Runs (client.chat env req) world (.ok response) world')
    (hMissed : client.cachedAnswer env req world = none) :
    world'.sessionStore =
      client.recordedStore env req world := by
  cases hStore : world.sessionStore with
  | none =>
      rw [chat_keeps_no_sessions hRun hStore,
        recordedStore_of_no_sessions client env req hStore]
  | some store =>
      rcases exists_looked client env req hStore with
        ⟨hSid, looked, hLooked, _⟩
      unfold recordedStore
      rw [hLooked]
      have hStep := sessionStep_stream client env req false
        world
      rw [chat_sessionStore_of_recorded hRun hMissed
        (by rw [hStep]; exact hSid)
        (by rw [hStep]; exact hLooked)]
      have hHash :
          hashRequestContent X
              (client.effectiveRequest env req world) =
            hashRequestContent X req := by
        apply hashRequestContent_congr
        exact sessionStep_messages client env _ world
      rw [hHash]
      rfl

/- So does every streaming call. -/
theorem chatStream_leaves_recordedStore
    {r : Except ClientError
      (List (Except ClientError X.ChatChunk))}
    (hRun : Runs (client.chatStream env req) world r world') :
    world'.sessionStore =
      client.recordedStore env req world := by
  cases hStore : world.sessionStore with
  | none =>
      rw [chatStream_keeps_no_sessions hRun hStore,
        recordedStore_of_no_sessions client env req hStore]
  | some store =>
      rcases exists_looked client env req hStore with
        ⟨hSid, looked, hLooked, _⟩
      unfold recordedStore
      rw [hLooked, chatStream_sessionStore hRun hSid hLooked]
      have hHash :
          hashRequestContent X
              (client.sessionStep env req world).1.1 =
            hashRequestContent X req := by
        apply hashRequestContent_congr
        exact sessionStep_messages client env req world
      rw [hHash]
      rfl

end SolvelaClient

/-
  A chat call that is not answered from the cache and a
  streaming call, from the same world and whatever the
  replies to each, send one request, and if both succeed they
  leave the same sessions, of which only that of the request
  may have changed.
-/
theorem chat_agrees_with_stream
    (client : SolvelaClient X)
    (env : Env)
    (chatReply streamReply :
      List Exchange → Peer → HttpRequest →
        Except ReqwestError HttpResponse)
    (req : ChatRequest)
    (world chatted streamed : World X)
    (hMissed :
      client.cachedAnswer (env.withReply chatReply) req
        world = none)
    (r : Except ClientError ChatResponse)
    (hChat :
      Runs (client.chat (env.withReply chatReply) req) world
        r chatted)
    (s : Except ClientError
      (List (Except ClientError X.ChatChunk)))
    (hStream :
      Runs (client.chatStream (env.withReply streamReply) req)
        world s streamed)
    (chatSent streamSent : List Exchange)
    (hChatSent :
      chatted.trace = world.trace ++ chatSent)
    (hStreamSent :
      streamed.trace = world.trace ++ streamSent) :
    (∃ sent : ChatRequest, sent.messages = req.messages ∧
      ∀ e ∈ chatSent ++ streamSent, Carries sent e) ∧
    (∀ response items, r = .ok response → s = .ok items →
      chatted.sessionStore = streamed.sessionStore ∧
        SessionsAfter
          (SolvelaClient.sessionIdOf X req.messages)
          world.sessionStore chatted.sessionStore) := by
  constructor
  · refine ⟨(client.sessionStep env req world).1.1,
      SolvelaClient.sessionStep_messages client env req
        world, ?_⟩
    have hChatted :=
      SolvelaClient.chat_carries hChat hChatSent
    have hStreamed :=
      SolvelaClient.chatStream_carries hStream hStreamSent
    rw [SolvelaClient.sessionStep_withReply]
      at hChatted hStreamed
    exact List.forall_mem_append.mpr ⟨hChatted, hStreamed⟩
  · rintro response items rfl rfl
    rw [SolvelaClient.chat_leaves_recordedStore hChat hMissed,
      SolvelaClient.chatStream_leaves_recordedStore hStream]
    exact ⟨rfl,
      SolvelaClient.sessionsAfter_recordedStore client
        (env.withReply chatReply) req world⟩

/- Both kinds of call, from a new client with sessions. -/
theorem chat_agrees_with_stream_new :
    ∃ chatted streamed : World sampleCrates,
      (∃ response,
        Runs
          ((sampleClient sessionsConfig).chat
            (steadyEnv (.ok (responseOf 200 "answer")))
            sampleRequest)
          (World.new sessionsConfig 0) (.ok response)
          chatted) ∧
        (∃ items,
          Runs
            ((sampleClient sessionsConfig).chatStream
              (steadyEnv (.ok (responseOf 200 "answer")))
              sampleRequest)
            (World.new sessionsConfig 0) (.ok items)
            streamed) ∧
          chatted.sessionStore = streamed.sessionStore := by
  have hSteady :
      Steady sampleCrates
        (steadyEnv (.ok (responseOf 200 "answer")))
        (Sample.emptyResponse "answer") :=
    ⟨"answer", rfl, fun _ _ => rfl⟩
  have hFrom :
      ∀ world : World sampleCrates,
        (sampleClient sessionsConfig).cachedAnswer
            (steadyEnv (.ok (responseOf 200 "answer")))
            sampleRequest world = none →
          ∃ chatted streamed : World sampleCrates,
            (∃ response,
              Runs
                ((sampleClient sessionsConfig).chat
                  (steadyEnv (.ok (responseOf 200 "answer")))
                  sampleRequest)
                world (.ok response) chatted) ∧
              (∃ items,
                Runs
                  ((sampleClient sessionsConfig).chatStream
                    (steadyEnv
                      (.ok (responseOf 200 "answer")))
                    sampleRequest)
                  world (.ok items) streamed) ∧
                chatted.sessionStore =
                  streamed.sessionStore := by
    intro world hMissed
    rcases hSteady.exists_chat (sampleClient sessionsConfig)
        sampleRequest world hMissed with
      ⟨chatSent, chatted, _, hChat, hChatSent⟩
    rcases hSteady.exists_stream (sampleClient sessionsConfig)
        sampleRequest world with
      ⟨items, streamSent, streamed, hStream, hStreamSent⟩
    have hAgree :=
      (chat_agrees_with_stream (sampleClient sessionsConfig)
        (steadyEnv (.ok (responseOf 200 "answer")))
        (fun _ _ _ => .ok (responseOf 200 "answer"))
        (fun _ _ _ => .ok (responseOf 200 "answer"))
        sampleRequest world chatted streamed hMissed _ hChat
        _ hStream chatSent streamSent hChatSent
        hStreamSent).2 _ _ rfl rfl
    exact ⟨chatted, streamed, ⟨_, hChat⟩, ⟨_, hStream⟩,
      hAgree.1⟩
  exact hFrom (World.new sessionsConfig 0) rfl

end Solvela
