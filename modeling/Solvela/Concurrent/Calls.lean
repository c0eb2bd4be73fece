import Solvela.Client.Budget
import Solvela.Concurrent.Talks
import Solvela.Foundations.Histories

/-
  What one call does in its own turns.

  A call is taken apart once, here: which accesses it makes in
  which order, and which exchanges it has, whatever others do
  in between.

  Main declarations:
    * `sentIn`, `sentIn_talk`
    * `yields_balanceGuard`, `yields_sessionLookup`
    * `yields_cacheCheck`, `yields_chat`, `yields_chatStream`
    * `yields_poll`, `cases_of_mem_monitorRounds`
    * `Phase`, `conversation_of_put`, `done_of_hit`
-/

------------------------------------------------------------
-- Exchanges Among The Accesses
------------------------------------------------------------

namespace Solvela

open Dialogues

/- The exchange that an access is, if it is one. -/
def sentBy : Accessed → Option Exchange
| ⟨.send question, reply⟩ =>
    some
      { peer := question.peer
        request := question.request
        reply := reply }
| _ => none

/- The exchanges among some accesses. -/
def sentIn
    (es : List Accessed) : List Exchange :=
  es.filterMap sentBy

@[simp] theorem sentIn_nil :
    sentIn [] = [] := by
  rfl

@[simp] theorem sentIn_append
    (first second : List Accessed) :
    sentIn (first ++ second) =
      sentIn first ++ sentIn second :=
  List.filterMap_append

/- A talk leaves its exchanges. -/
@[simp] theorem sentIn_talk
    (es : List (Turn Question Reply)) :
    sentIn (es.map sends.turn) = exchangesOf es := by
  induction es with
  | nil => rfl
  | cons e es ih =>
      have hFirst :
          sentIn ((e :: es).map sends.turn) =
            exchangeOf e :: sentIn (es.map sends.turn) := rfl
      rw [hFirst, ih]
      rfl

end Solvela

------------------------------------------------------------
-- Steps Around A Talk
------------------------------------------------------------

namespace Solvela

open Dialogues

namespace Concurrent

variable {X : Crates}
variable {client : SolvelaClient X}
variable {req : ChatRequest}
variable {es : List Accessed}

theorem yields_access
    {a : SharedAccess}
    {answer : a.Answer} :
    Yields (access a) es answer ↔ es = [⟨a, answer⟩] := by
  unfold access Dialogue.query
  rw [yields_ask]
  constructor
  · rintro ⟨b, rest, rfl, hDone⟩
    rcases yields_done.mp hDone with ⟨rfl, rfl⟩
    rfl
  · rintro rfl
    exact ⟨answer, [], rfl, yields_done.mpr ⟨rfl, rfl⟩⟩

/- A talk in a call takes the turns of the talk. -/
theorem yields_talk
    {ε α : Type}
    {t : Talk ε α}
    {r : Except ε α} :
    Yields (talk t) es r ↔
      ∃ own, es = own.map sends.turn ∧ Yields t.run own r :=
  yields_translate

/- The guard decides by the balance it loads, if it does. -/
theorem yields_balanceGuard
    {guarded : ChatRequest × Bool} :
    Yields (balanceGuard client.config req) es guarded ↔
      (client.config.freeFallbackModel = none ∧ es = [] ∧
          guarded = (req, false)) ∨
        ∃ model balance,
          client.config.freeFallbackModel = some model ∧
            es = [⟨.loadBalance, balance⟩] ∧
              guarded = SolvelaClient.balanceGuard
                client.config balance req := by
  unfold balanceGuard
  cases client.config.freeFallbackModel with
  | none => simp [yields_pure]
  | some model =>
      simp only [reduceCtorEq, false_and, false_or,
        Option.some.injEq]
      rw [yields_map]
      constructor
      · rintro ⟨balance, hLoad, rfl⟩
        rw [yields_access.mp hLoad]
        exact ⟨model, balance, rfl, rfl, rfl⟩
      · rintro ⟨_, balance, _, rfl, rfl⟩
        exact ⟨balance, yields_access.mpr rfl, rfl⟩

/- The accesses of `getOrCreate`, and what they return. -/
inductive SessionTurns
    (id defaultModel : String) :
    List Accessed → SessionInfo → Prop where
  | found
      {info : SessionInfo} :
      SessionTurns id defaultModel
        [⟨.findSession id defaultModel, some info⟩] info
  | opened
      {info : SessionInfo} :
      SessionTurns id defaultModel
        [⟨.findSession id defaultModel, none⟩,
          ⟨.openSession id defaultModel, info⟩] info

theorem yields_getOrCreate
    {id defaultModel : String}
    {info : SessionInfo} :
    Yields (getOrCreate id defaultModel) es info ↔
      SessionTurns id defaultModel es info := by
  unfold getOrCreate
  rw [yields_bind]
  constructor
  · rintro ⟨first, second, found, rfl, hFind, hRest⟩
    rw [yields_access.mp hFind]
    cases found with
    | some info' =>
        rcases yields_pure.mp hRest with ⟨rfl, rfl⟩
        exact .found
    | none =>
        rw [yields_access.mp hRest]
        exact .opened
  · intro hTurns
    cases hTurns with
    | found =>
        exact ⟨_, [], some info, rfl, yields_access.mpr rfl,
          yields_pure.mpr ⟨rfl, rfl⟩⟩
    | opened =>
        exact ⟨[_], [_], none, rfl, yields_access.mpr rfl,
          yields_access.mpr rfl⟩

/- The request after a session was looked up. -/
def withSession
    (req : ChatRequest)
    (usedFallback : Bool)
    (session : SessionInfo) : ChatRequest :=
  if usedFallback then
    req
  else
    { req with model := session.model }

theorem yields_sessionLookup
    {usedFallback : Bool}
    {session : ChatRequest × Option String} :
    Yields (sessionLookup client req usedFallback) es
        session ↔
      (client.config.enableSessions = false ∧ es = [] ∧
          session = (req, none)) ∨
        client.config.enableSessions = true ∧
          ∃ info,
            SessionTurns
                (SessionStore.deriveSessionId X.defaultHasher
                  req.messages) req.model es info ∧
              session =
                (withSession req usedFallback info,
                  some (SessionStore.deriveSessionId
                    X.defaultHasher req.messages)) := by
  unfold sessionLookup
  cases client.config.enableSessions with
  | false => simp [yields_pure]
  | true =>
      simp only [Bool.true_eq_false, false_and, false_or,
        true_and, if_true]
      rw [yields_bind]
      constructor
      · rintro ⟨first, second, info, rfl, hLook, hEnd⟩
        refine ⟨info, ?_⟩
        cases usedFallback with
        | true =>
            rcases yields_pure.mp hEnd with ⟨rfl, rfl⟩
            rw [List.append_nil]
            exact ⟨yields_getOrCreate.mp hLook, rfl⟩
        | false =>
            rcases yields_pure.mp hEnd with ⟨rfl, rfl⟩
            rw [List.append_nil]
            exact ⟨yields_getOrCreate.mp hLook, rfl⟩
      · rintro ⟨info, hTurns, rfl⟩
        refine ⟨es, [], info, (List.append_nil es).symm,
          yields_getOrCreate.mpr hTurns, ?_⟩
        cases usedFallback with
        | true => exact yields_pure.mpr ⟨rfl, rfl⟩
        | false => exact yields_pure.mpr ⟨rfl, rfl⟩

/- The key of a request. -/
def keyOf
    (X : Crates)
    (req : ChatRequest) : UInt64 :=
  ResponseCache.cacheKey X.aHasher X.roleToString req.model
    req.messages

theorem yields_cacheCheck
    {cache : Option UInt64 × Option ChatResponse} :
    Yields (cacheCheck client req) es cache ↔
      (client.config.enableCache = false ∧ es = [] ∧
          cache = (none, none)) ∨
        client.config.enableCache = true ∧
          ∃ cached,
            es = [⟨.cacheGet (keyOf X req), cached⟩] ∧
              cache = (some (keyOf X req), cached) := by
  unfold cacheCheck
  cases client.config.enableCache with
  | false => simp [yields_pure]
  | true =>
      simp only [Bool.true_eq_false, false_and, false_or,
        true_and, if_true]
      rw [yields_map]
      constructor
      · rintro ⟨cached, hGet, rfl⟩
        rw [yields_access.mp hGet]
        exact ⟨cached, rfl, rfl⟩
      · rintro ⟨cached, rfl, rfl⟩
        exact ⟨cached, yields_access.mpr rfl, rfl⟩

theorem yields_cacheStore
    {key : Option UInt64}
    {response : ChatResponse}
    {u : Unit} :
    Yields (cacheStore key response) es u ↔
      es = (key.map
        (fun k => (⟨.cachePut k response, ()⟩ :
          Accessed))).toList := by
  unfold cacheStore
  cases key with
  | none => simp [yields_pure]
  | some k => exact yields_access

theorem yields_sessionUpdate
    {id : Option String}
    {u : Unit} :
    Yields (sessionUpdate X id req) es u ↔
      es = (id.map
        (fun sid => (⟨.recordRequest sid
          (SolvelaClient.hashRequestContent X req), ()⟩ :
            Accessed))).toList := by
  unfold sessionUpdate
  cases id with
  | none => simp [yields_pure]
  | some sid => exact yields_access

end Concurrent

end Solvela

------------------------------------------------------------
-- Whole Calls
------------------------------------------------------------

namespace Solvela

open Dialogues

namespace Concurrent

variable {X : Crates}
variable {client : SolvelaClient X}
variable {req : ChatRequest}
variable {es : List Accessed}

/- The store of a response under its key, if there is one. -/
def storeTurns
    (key : Option UInt64)
    (response : ChatResponse) : List Accessed :=
  (key.map (fun k => (⟨.cachePut k response, ()⟩ :
    Accessed))).toList

/- The record of a request, if it has a session. -/
def recordTurns
    (X : Crates)
    (id : Option String)
    (req : ChatRequest) : List Accessed :=
  (id.map (fun sid => (⟨.recordRequest sid
    (SolvelaClient.hashRequestContent X req), ()⟩ :
      Accessed))).toList

/- What follows the cache check of a chat call. -/
inductive ChatRest
    (client : SolvelaClient X)
    (session : ChatRequest × Option String)
    (cache : Option UInt64 × Option ChatResponse) :
    List Accessed → Except ClientError ChatResponse →
      Prop where
  | cached
      {response : ChatResponse}
      (hHit : cache.2 = some response) :
      ChatRest client session cache [] (.ok response)
  | failed
      {own : List (Turn Question Reply)}
      {err : ClientError}
      (hMiss : cache.2 = none)
      (hTalk :
        Yields (converse client client.chatUrl session.1).run
          own (.error err)) :
      ChatRest client session cache (own.map sends.turn)
        (.error err)
  | answered
      {own : List (Turn Question Reply)}
      {response : ChatResponse}
      (hMiss : cache.2 = none)
      (hTalk :
        Yields (converse client client.chatUrl session.1).run
          own (.ok response)) :
      ChatRest client session cache
        (own.map sends.turn ++
          (storeTurns cache.1 response ++
            recordTurns X session.2 session.1))
        (.ok response)

/- The steps that a chat call takes before it sends. -/
structure Prelude
    (client : SolvelaClient X)
    (req : ChatRequest)
    (guarded : ChatRequest × Bool)
    (session : ChatRequest × Option String)
    (guard look : List Accessed) : Prop where
  guards : Yields (balanceGuard client.config req) guard guarded
  looks :
    Yields (sessionLookup client guarded.1 guarded.2) look
      session

theorem yields_chat
    {r : Except ClientError ChatResponse} :
    Yields (chat client req) es r ↔
      ∃ guard look check rest guarded session cache,
        es = guard ++ (look ++ (check ++ rest)) ∧
          Prelude client { req with stream := false } guarded
              session guard look ∧
            Yields (cacheCheck client session.1) check cache ∧
              ChatRest client session cache rest r := by
  unfold chat
  constructor
  · intro hYields
    rcases yields_bind.mp hYields with
      ⟨guard, later, guarded, rfl, hGuard, hLater⟩
    rcases yields_bind.mp hLater with
      ⟨look, later, session, rfl, hLook, hLater⟩
    rcases yields_bind.mp hLater with
      ⟨check, rest, cache, rfl, hCheck, hRest⟩
    refine ⟨guard, look, check, rest, guarded, session, cache,
      rfl, ⟨hGuard, hLook⟩, hCheck, ?_⟩
    rcases cache with ⟨key, cached⟩
    cases cached with
    | some response =>
        rcases yields_pure.mp hRest with ⟨rfl, rfl⟩
        exact .cached rfl
    | none =>
        rcases yields_bind.mp hRest with
          ⟨spoken, after, r₀, rfl, hTalk, hAfter⟩
        rcases yields_talk.mp hTalk with ⟨own, rfl, hOwn⟩
        cases r₀ with
        | error err =>
            rcases yields_pure.mp hAfter with ⟨rfl, rfl⟩
            rw [List.append_nil]
            exact .failed rfl hOwn
        | ok response =>
            rcases yields_bind.mp hAfter with
              ⟨store, after, _, rfl, hStore, hAfter⟩
            rcases yields_bind.mp hAfter with
              ⟨record, after, _, rfl, hRecord, hEnd⟩
            rcases yields_pure.mp hEnd with ⟨rfl, rfl⟩
            rw [List.append_nil,
              yields_cacheStore.mp hStore,
              yields_sessionUpdate.mp hRecord]
            exact .answered rfl hOwn
  · rintro ⟨guard, look, check, rest, guarded, session, cache,
      rfl, ⟨hGuard, hLook⟩, hCheck, hRest⟩
    refine yields_bind.mpr ⟨guard, _, guarded, rfl, hGuard,
      yields_bind.mpr ⟨look, _, session, rfl, hLook,
        yields_bind.mpr ⟨check, _, cache, rfl, hCheck, ?_⟩⟩⟩
    rcases cache with ⟨key, cached⟩
    cases hRest with
    | cached hHit =>
        cases hHit
        exact yields_pure.mpr ⟨rfl, rfl⟩
    | @failed own err hMiss hTalk =>
        cases hMiss
        exact yields_bind.mpr ⟨_, [], .error err,
          (List.append_nil _).symm,
          yields_talk.mpr ⟨own, rfl, hTalk⟩,
          yields_pure.mpr ⟨rfl, rfl⟩⟩
    | @answered own response hMiss hTalk =>
        cases hMiss
        refine yields_bind.mpr ⟨_, _, .ok response, rfl,
          yields_talk.mpr ⟨own, rfl, hTalk⟩, ?_⟩
        refine yields_bind.mpr ⟨_, _, (), rfl,
          yields_cacheStore.mpr rfl, ?_⟩
        exact yields_bind.mpr ⟨_, [], (),
          (List.append_nil _).symm,
          yields_sessionUpdate.mpr rfl,
          yields_pure.mpr ⟨rfl, rfl⟩⟩

theorem yields_chatStream
    {r : Except ClientError
      (List (Except ClientError X.ChatChunk))} :
    Yields (chatStream client req) es r ↔
      ∃ guard look own guarded session,
        es = guard ++ (look ++
            (recordTurns X session.2 session.1 ++
              own.map sends.turn)) ∧
          Prelude client req guarded session guard look ∧
            Yields
              (openStream client client.chatUrl session.1).run
              own r := by
  unfold chatStream
  constructor
  · intro hYields
    rcases yields_bind.mp hYields with
      ⟨guard, later, guarded, rfl, hGuard, hLater⟩
    rcases yields_bind.mp hLater with
      ⟨look, later, session, rfl, hLook, hLater⟩
    rcases yields_bind.mp hLater with
      ⟨record, later, _, rfl, hRecord, hTalk⟩
    rcases yields_talk.mp hTalk with ⟨own, rfl, hOwn⟩
    rw [yields_sessionUpdate.mp hRecord]
    exact ⟨guard, look, own, guarded, session, rfl,
      ⟨hGuard, hLook⟩, hOwn⟩
  · rintro ⟨guard, look, own, guarded, session, rfl,
      ⟨hGuard, hLook⟩, hOwn⟩
    exact yields_bind.mpr ⟨guard, _, guarded, rfl, hGuard,
      yields_bind.mpr ⟨look, _, session, rfl, hLook,
        yields_bind.mpr ⟨_, _, (), rfl,
          yields_sessionUpdate.mpr rfl,
          yields_talk.mpr ⟨own, rfl, hOwn⟩⟩⟩⟩

/- Before a call sends, it sends nothing. -/
theorem Prelude.sentIn_eq_nil
    {guarded : ChatRequest × Bool}
    {session : ChatRequest × Option String}
    {guard look : List Accessed}
    (hPrelude :
      Prelude client req guarded session guard look) :
    sentIn guard = [] ∧ sentIn look = [] := by
  constructor
  · rcases yields_balanceGuard.mp hPrelude.guards with
      ⟨_, rfl, _⟩ | ⟨_, _, _, rfl, _⟩
    · rfl
    · rfl
  · rcases yields_sessionLookup.mp hPrelude.looks with
      ⟨_, rfl, _⟩ | ⟨_, info, hTurns, _⟩
    · rfl
    · cases hTurns with
      | found => rfl
      | opened => rfl

theorem sentIn_cacheCheck
    {cache : Option UInt64 × Option ChatResponse}
    (hCheck : Yields (cacheCheck client req) es cache) :
    sentIn es = [] := by
  rcases yields_cacheCheck.mp hCheck with
    ⟨_, rfl, _⟩ | ⟨_, _, rfl, _⟩
  · rfl
  · rfl

@[simp] theorem sentIn_storeTurns
    (key : Option UInt64)
    (response : ChatResponse) :
    sentIn (storeTurns key response) = [] := by
  cases key with
  | none => rfl
  | some k => rfl

@[simp] theorem sentIn_recordTurns
    (X : Crates)
    (id : Option String)
    (req : ChatRequest) :
    sentIn (recordTurns X id req) = [] := by
  cases id with
  | none => rfl
  | some sid => rfl

/- A chat call only sends what follows its cache check. -/
theorem Prelude.sentIn_chat
    {guarded : ChatRequest × Bool}
    {session : ChatRequest × Option String}
    {cache : Option UInt64 × Option ChatResponse}
    {guard look check : List Accessed}
    (hPrelude :
      Prelude client req guarded session guard look)
    (hCheck : Yields (cacheCheck client session.1) check cache)
    (rest : List Accessed) :
    sentIn (guard ++ (look ++ (check ++ rest))) =
      sentIn rest := by
  rw [sentIn_append, sentIn_append, sentIn_append,
    hPrelude.sentIn_eq_nil.1, hPrelude.sentIn_eq_nil.2,
    sentIn_cacheCheck hCheck]
  rfl

/- That is a conversation, unless it hit. -/
theorem ChatRest.sentIn_spec
    {session : ChatRequest × Option String}
    {cache : Option UInt64 × Option ChatResponse}
    {rest : List Accessed}
    {r : Except ClientError ChatResponse}
    (hRest : ChatRest client session cache rest r) :
    sentIn rest = [] ∨
      Conversation client client.chatUrl session.1
        (sentIn rest) r := by
  cases hRest with
  | cached _ => exact Or.inl rfl
  | failed _ hTalk =>
      rw [sentIn_talk]
      exact Or.inr (conversation_of_yields hTalk)
  | answered _ hTalk =>
      rw [sentIn_append, sentIn_talk, sentIn_append,
        sentIn_storeTurns, sentIn_recordTurns,
        List.append_nil, List.append_nil]
      exact Or.inr (conversation_of_yields hTalk)

/- A chat call is answered from the cache, or it converses. -/
theorem sentIn_chat
    {r : Except ClientError ChatResponse}
    (hYields : Yields (chat client req) es r) :
    sentIn es = [] ∨
      ∃ sent, Conversation client client.chatUrl sent
        (sentIn es) r := by
  rcases yields_chat.mp hYields with
    ⟨guard, look, check, rest, guarded, session, cache, rfl,
      hPrelude, hCheck, hRest⟩
  rw [hPrelude.sentIn_chat hCheck]
  rcases hRest.sentIn_spec with hNone | hTalk
  · exact Or.inl hNone
  · exact Or.inr ⟨session.1, hTalk⟩

/- A streaming call opens a stream. -/
theorem sentIn_chatStream
    {r : Except ClientError
      (List (Except ClientError X.ChatChunk))}
    (hYields : Yields (chatStream client req) es r) :
    ∃ sent, StreamAttempt client client.chatUrl sent
      (sentIn es) r := by
  rcases yields_chatStream.mp hYields with
    ⟨guard, look, own, guarded, session, rfl, hPrelude, hOwn⟩
  rw [sentIn_append, sentIn_append, sentIn_append,
    hPrelude.sentIn_eq_nil.1, hPrelude.sentIn_eq_nil.2,
    sentIn_recordTurns, sentIn_talk]
  exact ⟨session.1, streamAttempt_of_yields hOwn⟩

end Concurrent

end Solvela

------------------------------------------------------------
-- The Monitor
------------------------------------------------------------

namespace Solvela

open Dialogues

/- The access is that of a monitor after a reading. -/
def StoresBalance
    (e : Accessed) : Prop :=
  ∃ atomic, e = ⟨.storeBalance atomic, ()⟩

namespace Concurrent

variable {X : Crates}
variable {monitor : BalanceMonitor}
variable {ata : Pubkey}
variable {es : List Accessed}

/- A request for the balance, and how it was answered. -/
def balanceTurn
    (X : Crates)
    (monitor : BalanceMonitor)
    (ata : Pubkey)
    (reply : Except ReqwestError HttpResponse) : Accessed :=
  ⟨.send
    { peer := .rpc
      request :=
        SolvelaClient.balanceRequest X monitor.rpcUrl ata },
    reply⟩

/- A fetch is one exchange, whose reply it reads. -/
theorem yields_fetchBalance
    {own : List (Turn Question Reply)}
    {result : Except BalanceError ℚ}
    (hYields :
      Yields (fetchBalance X monitor ata).run own result) :
    ∃ reply,
      own.map sends.turn = [balanceTurn X monitor ata reply] ∧
        ∀ uiAmount, result = .ok uiAmount →
          ∃ resp, reply = .ok resp ∧
            BalanceMonitor.readBalance X resp =
              .ok uiAmount := by
  rcases yields_ask.mp hYields with ⟨reply, rest, rfl, hRest⟩
  cases reply with
  | error e =>
      rcases yields_done.mp hRest with ⟨rfl, rfl⟩
      exact ⟨.error e, rfl, nofun⟩
  | ok resp =>
      rcases yields_done.mp hRest with ⟨rfl, rfl⟩
      exact ⟨.ok resp, rfl, fun _ hRead => ⟨resp, rfl, hRead⟩⟩

/- A round stores the amount it has read, or nothing. -/
theorem yields_poll
    {state state' : MonitorState}
    (hYields : Yields (poll X monitor ata state) es state') :
    (∃ reply, es = [balanceTurn X monitor ata reply]) ∨
      ∃ resp uiAmount,
        BalanceMonitor.readBalance X resp = .ok uiAmount ∧
          es =
            [balanceTurn X monitor ata (.ok resp),
              ⟨.storeBalance (castU64 (uiAmount * 1000000)),
                ()⟩] := by
  rcases yields_bind.mp hYields with
    ⟨first, second, result, rfl, hTalk, hRest⟩
  rcases yields_talk.mp hTalk with ⟨own, rfl, hOwn⟩
  rcases yields_fetchBalance hOwn with ⟨reply, hTurn, hRead⟩
  rw [hTurn]
  cases result with
  | error e =>
      rcases yields_pure.mp hRest with ⟨rfl, _⟩
      exact Or.inl ⟨reply, rfl⟩
  | ok uiAmount =>
      rcases hRead uiAmount rfl with ⟨resp, rfl, hBalance⟩
      rcases yields_map.mp hRest with ⟨_, hStore, _⟩
      rw [yields_access.mp hStore]
      exact Or.inr ⟨resp, uiAmount, hBalance, rfl⟩

/- A monitor fetches and stores, and does nothing else. -/
theorem cases_of_mem_monitorRounds
    {rounds : Nat}
    {state state' : MonitorState}
    (hYields :
      Yields (monitorRounds X monitor ata rounds state) es
        state') :
    ∀ e ∈ es,
      (∃ reply, e = balanceTurn X monitor ata reply) ∨
        StoresBalance e := by
  induction rounds generalizing es state with
  | zero =>
      rcases yields_pure.mp hYields with ⟨rfl, _⟩
      exact List.forall_mem_nil _
  | succ rounds ih =>
      rcases yields_bind.mp hYields with
        ⟨own, later, next, rfl, hPoll, hRest⟩
      intro e hMem
      rcases List.mem_append.mp hMem with hIn | hLater
      · rcases yields_poll hPoll with
          ⟨reply, rfl⟩ | ⟨resp, uiAmount, _, rfl⟩
        · exact Or.inl ⟨reply, List.mem_singleton.mp hIn⟩
        · rcases List.mem_pair.mp hIn with rfl | rfl
          · exact Or.inl ⟨_, rfl⟩
          · exact Or.inr ⟨_, rfl⟩
      · exact ih hRest e hLater

/- The monitor only asks the RPC endpoint. -/
theorem sentIn_monitorRounds
    {rounds : Nat}
    {state state' : MonitorState}
    (hYields :
      Yields (monitorRounds X monitor ata rounds state) es
        state') :
    ∀ e ∈ sentIn es, e.peer = .rpc ∧
      e.request.payments = [] := by
  intro e hMem
  rcases List.mem_filterMap.mp hMem with ⟨a, hIn, hSent⟩
  rcases cases_of_mem_monitorRounds hYields a hIn with
    ⟨reply, rfl⟩ | ⟨atomic, rfl⟩
  · cases hSent
    exact ⟨rfl, rfl⟩
  · cases hSent

end Concurrent

end Solvela

------------------------------------------------------------
-- Phases Of A Call
------------------------------------------------------------

namespace Solvela

open Dialogues Histories

/- The steps of a call, in the order it takes them. -/
inductive Phase where
  | balance
  | session
  | cacheCheck
  | talk
  | cacheStore
  | sessionUpdate
deriving DecidableEq

/- To which part of a call an access belongs. -/
def SharedAccess.phase : SharedAccess → Phase
| .loadBalance => .balance
| .storeBalance _ => .balance
| .findSession _ _ => .session
| .openSession _ _ => .session
| .recordRequest _ _ => .sessionUpdate
| .cacheGet _ => .cacheCheck
| .cachePut _ _ => .cacheStore
| .send _ => .talk

/- All of the accesses belong to one phase. -/
def InPhase
    (phase : Phase)
    (es : List Accessed) : Prop :=
  ∀ e ∈ es, e.1.phase = phase

theorem inPhase_nil
    (phase : Phase) :
    InPhase phase [] := by
  intro e hNone
  cases hNone

theorem inPhase_singleton
    (e : Accessed) :
    InPhase e.1.phase [e] := by
  intro e' hMem
  rw [List.mem_singleton.mp hMem]

theorem inPhase_talk
    (own : List (Turn Question Reply)) :
    InPhase .talk (own.map sends.turn) := by
  intro e hMem
  rcases List.mem_map.mp hMem with ⟨_, _, rfl⟩
  rfl

namespace Concurrent

variable {X : Crates}
variable {client : SolvelaClient X}
variable {req : ChatRequest}

theorem Prelude.inPhase
    {guarded : ChatRequest × Bool}
    {session : ChatRequest × Option String}
    {guard look : List Accessed}
    (hPrelude :
      Prelude client req guarded session guard look) :
    InPhase .balance guard ∧ InPhase .session look := by
  constructor
  · rcases yields_balanceGuard.mp hPrelude.guards with
      ⟨_, rfl, _⟩ | ⟨_, _, _, rfl, _⟩
    · exact inPhase_nil _
    · exact inPhase_singleton _
  · rcases yields_sessionLookup.mp hPrelude.looks with
      ⟨_, rfl, _⟩ | ⟨_, info, hTurns, _⟩
    · exact inPhase_nil _
    · intro e hMem
      cases hTurns with
      | found =>
          rw [List.mem_singleton.mp hMem]
          rfl
      | opened =>
          rcases List.mem_pair.mp hMem with rfl | rfl
          · rfl
          · rfl

theorem inPhase_cacheCheck
    {es : List Accessed}
    {cache : Option UInt64 × Option ChatResponse}
    (hCheck : Yields (cacheCheck client req) es cache) :
    InPhase .cacheCheck es := by
  rcases yields_cacheCheck.mp hCheck with
    ⟨_, rfl, _⟩ | ⟨_, _, rfl, _⟩
  · exact inPhase_nil _
  · exact inPhase_singleton _

theorem inPhase_storeTurns
    (key : Option UInt64)
    (response : ChatResponse) :
    InPhase .cacheStore (storeTurns key response) := by
  cases key with
  | none => exact inPhase_nil _
  | some k => exact inPhase_singleton _

theorem inPhase_recordTurns
    (X : Crates)
    (id : Option String)
    (req : ChatRequest) :
    InPhase .sessionUpdate (recordTurns X id req) := by
  cases id with
  | none => exact inPhase_nil _
  | some sid => exact inPhase_singleton _

/- The monitor never looks at the stores. -/
theorem phase_of_mem_monitorRounds
    {monitor : BalanceMonitor}
    {ata : Pubkey}
    {rounds : Nat}
    {es : List Accessed}
    {state state' : MonitorState}
    (hYields :
      Yields (monitorRounds X monitor ata rounds state) es
        state') :
    ∀ e ∈ es, e.1.phase = .talk ∨ e.1.phase = .balance := by
  intro e hMem
  rcases cases_of_mem_monitorRounds hYields e hMem with
    ⟨reply, rfl⟩ | ⟨atomic, rfl⟩
  · exact Or.inl rfl
  · exact Or.inr rfl

/- What follows the cache check of a chat call. -/
theorem ChatRest.phase_of_mem
    {session : ChatRequest × Option String}
    {cache : Option UInt64 × Option ChatResponse}
    {rest : List Accessed}
    {r : Except ClientError ChatResponse}
    (hRest : ChatRest client session cache rest r) :
    ∀ e ∈ rest, e.1.phase = .talk ∨
      e.1.phase = .cacheStore ∨
        e.1.phase = .sessionUpdate := by
  intro e hMem
  cases hRest with
  | cached _ => cases hMem
  | @failed own err _ _ =>
      exact Or.inl (inPhase_talk own e hMem)
  | @answered own response _ _ =>
      rcases List.mem_append.mp hMem with hIn | hMem
      · exact Or.inl (inPhase_talk own e hIn)
      rcases List.mem_append.mp hMem with hIn | hIn
      · exact Or.inr (Or.inl (inPhase_storeTurns _ _ e hIn))
      · exact Or.inr
          (Or.inr (inPhase_recordTurns X _ _ e hIn))

/- The session of a chat call is got where it is looked up. -/
theorem mem_look_of_mem_chat
    {guarded : ChatRequest × Bool}
    {session : ChatRequest × Option String}
    {cache : Option UInt64 × Option ChatResponse}
    {guard look check rest : List Accessed}
    {r : Except ClientError ChatResponse}
    (hPrelude :
      Prelude client req guarded session guard look)
    (hCheck : Yields (cacheCheck client session.1) check cache)
    (hRest : ChatRest client session cache rest r)
    {e : Accessed}
    (hMem : e ∈ guard ++ (look ++ (check ++ rest)))
    (hPhase : e.1.phase = .session) :
    e ∈ look := by
  rcases List.mem_append.mp hMem with hIn | hMem
  · rw [hPrelude.inPhase.1 e hIn] at hPhase
    cases hPhase
  rcases List.mem_append.mp hMem with hIn | hMem
  · exact hIn
  rcases List.mem_append.mp hMem with hIn | hIn
  · rw [inPhase_cacheCheck hCheck e hIn] at hPhase
    cases hPhase
  · rcases hRest.phase_of_mem e hIn with hIn | hIn | hIn
    · rw [hIn] at hPhase
      cases hPhase
    · rw [hIn] at hPhase
      cases hPhase
    · rw [hIn] at hPhase
      cases hPhase

/- So is that of a streaming call. -/
theorem mem_look_of_mem_chatStream
    {guarded : ChatRequest × Bool}
    {session : ChatRequest × Option String}
    {guard look : List Accessed}
    {own : List (Turn Question Reply)}
    (hPrelude :
      Prelude client req guarded session guard look)
    {e : Accessed}
    (hMem :
      e ∈ guard ++ (look ++
        (recordTurns X session.2 session.1 ++
          own.map sends.turn)))
    (hPhase : e.1.phase = .session) :
    e ∈ look := by
  rcases List.mem_append.mp hMem with hIn | hMem
  · rw [hPrelude.inPhase.1 e hIn] at hPhase
    cases hPhase
  rcases List.mem_append.mp hMem with hIn | hMem
  · exact hIn
  rcases List.mem_append.mp hMem with hIn | hIn
  · rw [inPhase_recordTurns X _ _ e hIn] at hPhase
    cases hPhase
  · rw [inPhase_talk own e hIn] at hPhase
    cases hPhase

/- Only chat calls look at the cache. -/
theorem exists_chat_of_mem
    {call : Call}
    {es : List Accessed}
    {result : CallResult X}
    (hYields : Yields (call.dialogue client) es result)
    {e : Accessed}
    (hMem : e ∈ es)
    (hPhase :
      e.1.phase = .cacheCheck ∨ e.1.phase = .cacheStore) :
    ∃ req r, call = .chat req ∧ result = .chat r ∧
      Yields (chat client req) es r := by
  have hNot : ∀ {phase : Phase},
      e.1.phase = phase → phase ≠ .cacheCheck →
        phase ≠ .cacheStore → False := by
    intro phase hIs hCheck hStore
    rw [hIs] at hPhase
    rcases hPhase with hPhase | hPhase
    · exact hCheck hPhase
    · exact hStore hPhase
  cases call with
  | chat req =>
      rcases yields_map.mp hYields with ⟨r, hChat, rfl⟩
      exact ⟨req, r, rfl, rfl, hChat⟩
  | chatStream req =>
      exfalso
      rcases yields_map.mp hYields with ⟨r, hStream, _⟩
      rcases yields_chatStream.mp hStream with
        ⟨guard, look, turns, guarded, session, rfl, hPrelude,
          _⟩
      rcases List.mem_append.mp hMem with hIn | hMem
      · exact hNot (hPrelude.inPhase.1 e hIn)
          (by decide) (by decide)
      rcases List.mem_append.mp hMem with hIn | hMem
      · exact hNot (hPrelude.inPhase.2 e hIn)
          (by decide) (by decide)
      rcases List.mem_append.mp hMem with hIn | hIn
      · exact hNot (inPhase_recordTurns X _ _ e hIn)
          (by decide) (by decide)
      · exact hNot (inPhase_talk turns e hIn)
          (by decide) (by decide)
  | proxied gatewayUrl request =>
      exfalso
      rcases yields_map.mp hYields with ⟨r, hTalk, _⟩
      rcases yields_talk.mp hTalk with ⟨turns, rfl, _⟩
      exact hNot (inPhase_talk turns e hMem)
        (by decide) (by decide)
  | monitored monitor ata rounds =>
      exfalso
      rcases yields_map.mp hYields with ⟨r, hRounds, _⟩
      rcases phase_of_mem_monitorRounds hRounds e hMem with
        hIn | hIn
      · exact hNot hIn (by decide) (by decide)
      · exact hNot hIn (by decide) (by decide)

/- Before its answer is there, a chat call stores nothing. -/
theorem Prelude.phase_ne_cacheStore
    {guarded : ChatRequest × Bool}
    {session : ChatRequest × Option String}
    {cache : Option UInt64 × Option ChatResponse}
    {guard look check : List Accessed}
    (hPrelude :
      Prelude client req guarded session guard look)
    (hCheck : Yields (cacheCheck client session.1) check cache)
    (own : List (Turn Question Reply)) :
    ∀ e ∈ guard ++ (look ++ (check ++ own.map sends.turn)),
      e.1.phase ≠ .cacheStore := by
  intro e hMem hPhase
  rcases List.mem_append.mp hMem with hIn | hMem
  · rw [hPrelude.inPhase.1 e hIn] at hPhase
    cases hPhase
  rcases List.mem_append.mp hMem with hIn | hMem
  · rw [hPrelude.inPhase.2 e hIn] at hPhase
    cases hPhase
  rcases List.mem_append.mp hMem with hIn | hIn
  · rw [inPhase_cacheCheck hCheck e hIn] at hPhase
    cases hPhase
  · rw [inPhase_talk own e hIn] at hPhase
    cases hPhase

/-
  A chat call that stores a response got it from its own
  conversation.
-/
theorem conversation_of_put
    {es rest : List Accessed}
    {key : UInt64}
    {response : ChatResponse}
    {r : Except ClientError ChatResponse}
    (hYields :
      Yields (chat client req)
        (es ++ ⟨.cachePut key response, ()⟩ :: rest) r) :
    ∃ sent, key = keyOf X sent ∧
      Conversation client client.chatUrl sent (sentIn es)
        (.ok response) := by
  rcases yields_chat.mp hYields with
    ⟨guard, look, check, after, guarded, session, cache, hAll,
      hPrelude, hCheck, hRest⟩
  have hBefore := hPrelude.phase_ne_cacheStore hCheck
  have hMem :
      (⟨.cachePut key response, ()⟩ : Accessed) ∈
        guard ++ (look ++ (check ++ after)) := by
    rw [← hAll]
    exact List.mem_append_right _ List.mem_cons_self
  cases hRest with
  | cached _ => exact absurd rfl (hBefore [] _ hMem)
  | failed _ _ => exact absurd rfl (hBefore _ _ hMem)
  | @answered own response' _ hTalk =>
      have hRecord :=
        inPhase_recordTurns X session.2 session.1
      rcases yields_cacheCheck.mp hCheck with
        ⟨_, rfl, rfl⟩ | ⟨_, cached, rfl, rfl⟩
      · exfalso
        have hMem' :
            (⟨.cachePut key response, ()⟩ : Accessed) ∈
              (guard ++ (look ++
                ([] ++ own.map sends.turn))) ++
                  recordTurns X session.2 session.1 := by
          rw [List.append_assoc, List.append_assoc,
            List.append_assoc]
          exact hMem
        rcases List.mem_append.mp hMem' with hIn | hIn
        · exact hBefore own _ hIn rfl
        · cases hRecord _ hIn
      · have hCut :
            es ++ ⟨.cachePut key response, ()⟩ :: rest =
              (guard ++ (look ++
                ([⟨.cacheGet (keyOf X session.1), cached⟩] ++
                  own.map sends.turn))) ++
                ⟨.cachePut (keyOf X session.1) response',
                  ()⟩ :: recordTurns X session.2 session.1 := by
          rw [hAll]
          simp only [List.append_assoc]
          rfl
        rcases eq_of_only_event
            (P := fun e : Accessed =>
              e.1.phase = .cacheStore)
            hCut rfl (hBefore own)
            (fun e hIn hPhase => by
              rw [hRecord e hIn] at hPhase
              cases hPhase) with
          ⟨rfl, hPut, _⟩
        cases hPut
        refine ⟨session.1, rfl, ?_⟩
        rw [sentIn_append, sentIn_append, sentIn_append,
          hPrelude.sentIn_eq_nil.1,
          hPrelude.sentIn_eq_nil.2, sentIn_talk]
        exact conversation_of_yields hTalk

/- A chat call that hits is done, with what it found. -/
theorem done_of_hit
    {es rest : List Accessed}
    {key : UInt64}
    {response : ChatResponse}
    {r : Except ClientError ChatResponse}
    (hYields :
      Yields (chat client req)
        (es ++ ⟨.cacheGet key, some response⟩ :: rest) r) :
    ∃ sent, key = keyOf X sent ∧ sentIn es = [] ∧
      rest = [] ∧ r = .ok response := by
  rcases yields_chat.mp hYields with
    ⟨guard, look, check, after, guarded, session, cache, hAll,
      hPrelude, hCheck, hRest⟩
  have hLater : ∀ e ∈ after,
      ¬ e.1.phase = .cacheCheck := by
    intro e hMem hPhase
    rcases hRest.phase_of_mem e hMem with hIn | hIn | hIn
    · rw [hIn] at hPhase
      cases hPhase
    · rw [hIn] at hPhase
      cases hPhase
    · rw [hIn] at hPhase
      cases hPhase
  have hBefore : ∀ e ∈ guard ++ look,
      ¬ e.1.phase = .cacheCheck := by
    intro e hMem hPhase
    rcases List.mem_append.mp hMem with hIn | hIn
    · rw [hPrelude.inPhase.1 e hIn] at hPhase
      cases hPhase
    · rw [hPrelude.inPhase.2 e hIn] at hPhase
      cases hPhase
  rcases yields_cacheCheck.mp hCheck with
    ⟨_, rfl, rfl⟩ | ⟨_, cached, rfl, rfl⟩
  · exfalso
    have hMem :
        (⟨.cacheGet key, some response⟩ : Accessed) ∈
          (guard ++ look) ++ after := by
      rw [List.append_assoc]
      change _ ∈ guard ++ (look ++ ([] ++ after))
      rw [← hAll]
      exact List.mem_append_right _ List.mem_cons_self
    rcases List.mem_append.mp hMem with hIn | hIn
    · exact hBefore _ hIn rfl
    · exact hLater _ hIn rfl
  · have hCut :
        es ++ ⟨.cacheGet key, some response⟩ :: rest =
          (guard ++ look) ++
            ⟨.cacheGet (keyOf X session.1), cached⟩ ::
              after := by
      rw [hAll, List.append_assoc]
      rfl
    rcases eq_of_only_event
        (P := fun e : Accessed => e.1.phase = .cacheCheck)
        hCut rfl hBefore hLater with
      ⟨rfl, hGet, rfl⟩
    cases hGet
    refine ⟨session.1, rfl, ?_, ?_⟩
    · rw [sentIn_append, hPrelude.sentIn_eq_nil.1,
        hPrelude.sentIn_eq_nil.2]
      rfl
    · cases hRest with
      | cached hHit =>
          cases hHit
          exact ⟨rfl, rfl⟩
      | failed hMiss _ => cases hMiss
      | answered hMiss _ => cases hMiss

end Concurrent

end Solvela
