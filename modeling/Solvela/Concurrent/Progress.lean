import Solvela.Concurrent.Payments

/-
  How far the calls on one client can go.

  Whatever the peers reply, a call asks a bounded number of
  questions, which its configuration tells.  No call waits
  for another: from every state that is reached, each can be
  brought to its end by its own turns alone.

  Main declarations:
    * `Call.mostTurns`
    * `Call.within_mostTurns`
    * `interleaved_calls_finish`
-/

------------------------------------------------------------
-- The Turns Of A Talk
------------------------------------------------------------

namespace Solvela

open Dialogues

namespace Talk

variable {ε α : Type}

theorem within_ofOutcome
    (r : Except ε α) :
    Within 0 (ofOutcome r).run :=
  within_done 0 r

theorem within_send
    (peer : Peer)
    (request : HttpRequest) :
    Within 1 (send peer request).run :=
  within_ask (fun r => within_done 0 r)

theorem within_exchange
    (peer : Peer)
    (request : HttpRequest)
    (failed : ReqwestError → ε)
    (read : HttpResponse → Except ε α) :
    Within 1 (exchange peer request failed read).run :=
  ((within_send peer request).adapt failed).andThen
    (fun resp => within_ofOutcome (read resp))

end Talk

namespace Concurrent

open Talk

variable {X : Crates}

theorem within_signExactPayment
    (wallet : Wallet X)
    (rpcUrl recipient : String)
    (amountAtomic : UInt64) :
    Within 1
      (signExactPayment wallet rpcUrl recipient
        amountAtomic).run := by
  have hRest : ∀ ix, Within 1
      (do
        let blockhash ← getLatestBlockhash X rpcUrl
        Talk.ofOutcome
          (signTransaction wallet ix blockhash)).run := by
    intro ix
    exact (within_exchange _ _ _ _).andThen
      (fun _ => within_ofOutcome _)
  exact (within_ofOutcome _).andThen hRest

theorem within_signPaymentFor402WithAmount
    (client : SolvelaClient X)
    (paymentRequired : PaymentRequired) :
    Within 1
      (signPaymentFor402WithAmount client
        paymentRequired).run := by
  apply (within_ofOutcome _).andThen (m := 0) (n := 1)
  intro terms
  apply ((within_signExactPayment _ _ _ _).adapt _).andThen
    (m := 1) (n := 0)
  intro signedTx
  exact within_done 0 _

theorem within_signPaymentFor402
    (client : SolvelaClient X)
    (paymentRequired : PaymentRequired) :
    Within 1 (signPaymentFor402 client paymentRequired).run :=
  (within_signPaymentFor402WithAmount client
    paymentRequired).andThen (fun _ => within_done 0 _)

theorem within_payAndResendWithAmount
    (client : SolvelaClient X)
    (url : String)
    (req : ChatRequest)
    (paymentRequired : PaymentRequired) :
    Within 2
      (payAndResendWithAmount client url req
        paymentRequired).run := by
  apply (within_signPaymentFor402WithAmount client
    paymentRequired).andThen (m := 1) (n := 1)
  intro signed
  exact (within_exchange _ _ _ _).andThen
    (fun _ => within_done 0 _)

/- A probe, a blockhash and the paid request. -/
theorem within_handshake
    (client : SolvelaClient X)
    (url : String)
    (headers : List Header)
    (req : ChatRequest) :
    Within 3 (handshake client url headers req).run := by
  apply (within_exchange _ _ _ _).andThen (m := 1) (n := 2)
  intro probed
  cases probed with
  | inl parsed => exact within_done 2 _
  | inr paymentRequired =>
      exact (within_payAndResendWithAmount client url req
        paymentRequired).andThen (fun _ => within_done 0 _)

/- Each attempt of the loop is one handshake at most. -/
theorem within_retryLoop
    (client : SolvelaClient X)
    (url : String)
    (req : ChatRequest)
    (attempts : Nat)
    (response : ChatResponse)
    (totalPaidAtomic : UInt64) :
    Within (3 * attempts)
      (retryLoop client url req attempts response
        totalPaidAtomic).run := by
  induction attempts generalizing response totalPaidAtomic with
  | zero => exact within_done 0 _
  | succ attempts ih =>
      unfold retryLoop
      cases isDegraded X.unicode response with
      | none => exact within_done _ _
      | some reason =>
          rw [Nat.mul_succ, Nat.add_comm]
          apply (within_handshake client url _ req).andThen
          intro reply
          rcases reply with ⟨parsed, paid⟩
          cases paid with
          | none => exact ih _ _
          | some paidAmount =>
              rw [← Nat.zero_add (3 * attempts)]
              exact (within_ofOutcome _).andThen
                (fun _ => ih _ _)

end Concurrent

/- The first handshake, and one for every retry. -/
def ClientConfig.mostRequests
    (config : ClientConfig) : Nat :=
  if config.enableQualityCheck then
    3 + 3 * config.maxQualityRetries
  else
    3

namespace Concurrent

open Talk

variable {X : Crates}

theorem within_converse
    (client : SolvelaClient X)
    (url : String)
    (req : ChatRequest) :
    Within client.config.mostRequests
      (converse client url req).run := by
  have hSent :
      Within 3 (sendChatRequest client url req).run :=
    (within_handshake client url [] req).andThen
      (fun _ => within_done 0 _)
  unfold converse ClientConfig.mostRequests
  cases client.config.enableQualityCheck with
  | true =>
      exact hSent.andThen
        (fun sent => within_retryLoop client url req _ _ _)
  | false =>
      exact hSent.andThen (fun sent => within_done 0 _)

theorem within_openStream
    (client : SolvelaClient X)
    (url : String)
    (req : ChatRequest) :
    Within 3 (openStream client url req).run := by
  apply (within_exchange _ _ _ _).andThen (m := 1) (n := 2)
  intro probed
  cases probed with
  | none => exact (within_exchange _ _ _ _).mono (by decide)
  | some paymentRequired =>
      exact (within_signPaymentFor402 client
        paymentRequired).andThen
          (fun _ => within_exchange _ _ _ _)

theorem within_payAndForward
    (state : ProxyState X)
    (gatewayUrl method : String)
    (headers : List (String × List UInt8))
    (body : List UInt8)
    (paymentRequired : PaymentRequired) :
    Within 2
      (payAndForward state gatewayUrl method headers body
        paymentRequired).run := by
  apply (within_signPaymentFor402 state.client
    paymentRequired).observe.andThen (m := 1) (n := 1)
  intro signed
  cases signed with
  | error err => exact within_done 1 _
  | ok paymentHeader =>
      apply (within_send _ _).observe.andThen
        (m := 1) (n := 0)
      intro reply
      cases reply with
      | error err => exact within_done 0 _
      | ok resp =>
          by_cases hStatus : resp.status = 402
          · simp only [hStatus, if_true]
            exact within_done 0 _
          · simp only [hStatus, if_false]
            exact within_done 0 _

theorem within_handle402
    (state : ProxyState X)
    (gatewayUrl method : String)
    (headers : List (String × List UInt8))
    (body : List UInt8)
    (resp402 : HttpResponse) :
    Within 2
      (handle402 state gatewayUrl method headers body
        resp402).run := by
  unfold handle402
  cases resp402.body with
  | error err => exact within_done 2 _
  | ok respBody =>
      cases hParsed : X.paymentRequiredFromStr respBody with
      | error err =>
          simp only [hParsed]
          exact within_done 2 _
      | ok paymentRequired =>
          simp only [hParsed]
          exact within_payAndForward state gatewayUrl method
            headers body paymentRequired

theorem within_proxyHandler
    (state : ProxyState X)
    (request : CallerRequest) :
    Within 3 (proxyHandler state request).run := by
  apply (within_send _ _).observe.andThen (m := 1) (n := 2)
  intro reply
  cases reply with
  | error err =>
      cases hTimeout : err.isTimeout with
      | true =>
          simp only [hTimeout, if_true]
          exact within_done 2 _
      | false =>
          simp only [hTimeout]
          exact within_done 2 _
  | ok gatewayResp =>
      by_cases hStatus : gatewayResp.status = 402
      · simp only [hStatus, if_true]
        exact within_handle402 state _ _ _ _ _
      · simp only [hStatus, if_false]
        exact within_done 2 _

end Concurrent

end Solvela

------------------------------------------------------------
-- The Turns Of A Call
------------------------------------------------------------

namespace Solvela

open Dialogues

variable {X : Crates}

/-
  The balance if there is a fallback, the session with its
  update, the cache with its update, and the requests.
-/
def Call.mostTurns
    (config : ClientConfig) : Call → Nat
| .chat _ =>
    (if config.freeFallbackModel.isSome then 1 else 0) +
      ((if config.enableSessions then 3 else 0) +
        ((if config.enableCache then 2 else 0) +
          config.mostRequests))
| .chatStream _ =>
    (if config.freeFallbackModel.isSome then 1 else 0) +
      ((if config.enableSessions then 3 else 0) + 3)
| .proxied _ _ => 3
| .monitored _ _ rounds => 2 * rounds

namespace Concurrent

variable {client : SolvelaClient X}
variable {req : ChatRequest}

theorem length_recordTurns
    (X : Crates)
    (id : Option String)
    (req : ChatRequest) :
    (recordTurns X id req).length =
      if id.isSome then 1 else 0 := by
  cases id with
  | none => rfl
  | some sid => rfl

theorem length_storeTurns
    (key : Option UInt64)
    (response : ChatResponse) :
    (storeTurns key response).length =
      if key.isSome then 1 else 0 := by
  cases key with
  | none => rfl
  | some k => rfl

theorem Prelude.length_le
    {guarded : ChatRequest × Bool}
    {session : ChatRequest × Option String}
    {guard look : List Accessed}
    (hPrelude :
      Prelude client req guarded session guard look) :
    guard.length ≤
        (if client.config.freeFallbackModel.isSome then 1
          else 0) ∧
      look.length + (recordTurns X session.2 session.1).length ≤
        if client.config.enableSessions then 3 else 0 := by
  constructor
  · rcases yields_balanceGuard.mp hPrelude.guards with
      ⟨hNone, rfl, _⟩ | ⟨model, _, hSome, rfl, _⟩
    · rw [hNone]
      rfl
    · rw [hSome]
      rfl
  · rw [length_recordTurns]
    rcases yields_sessionLookup.mp hPrelude.looks with
      ⟨hOff, rfl, rfl⟩ | ⟨hOn, info, hTurns, rfl⟩
    · rw [hOff]
      rfl
    · rw [hOn]
      cases hTurns with
      | found => exact Nat.le_succ 2
      | opened => exact Nat.le_refl 3

/- A chat call checks the cache before it stores. -/
theorem length_le_of_yields_chat
    {es : List Accessed}
    {r : Except ClientError ChatResponse}
    (hYields : Yields (chat client req) es r) :
    es.length ≤ (Call.chat req).mostTurns client.config := by
  rcases yields_chat.mp hYields with
    ⟨guard, look, check, rest, guarded, session, cache, rfl,
      hPrelude, hCheck, hRest⟩
  rcases hPrelude.length_le with ⟨hGuard, hLook⟩
  have hCache :
      check.length + (if cache.1.isSome then 1 else 0) ≤
        if client.config.enableCache then 2 else 0 := by
    rcases yields_cacheCheck.mp hCheck with
      ⟨hOff, rfl, rfl⟩ | ⟨hOn, _, rfl, rfl⟩
    · rw [hOff]
      rfl
    · rw [hOn]
      rfl
  have hTold : ∀ own r',
      Yields (converse client client.chatUrl session.1).run
          own r' →
        own.length ≤ client.config.mostRequests := by
    intro own r' hOwn
    exact within_converse client client.chatUrl session.1 own
      _ hOwn
  unfold Call.mostTurns
  simp only [List.length_append]
  cases hRest with
  | cached _ =>
      rw [List.length_nil]
      omega
  | @failed own err _ hTalk =>
      have hOwn := hTold own _ hTalk
      rw [List.length_map]
      omega
  | @answered own response _ hTalk =>
      have hOwn := hTold own _ hTalk
      simp only [List.length_append, List.length_map,
        length_storeTurns]
      omega

theorem length_le_of_yields_chatStream
    {es : List Accessed}
    {r : Except ClientError
      (List (Except ClientError X.ChatChunk))}
    (hYields : Yields (chatStream client req) es r) :
    es.length ≤
      (Call.chatStream req).mostTurns client.config := by
  rcases yields_chatStream.mp hYields with
    ⟨guard, look, own, guarded, session, rfl, hPrelude, hOwn⟩
  rcases hPrelude.length_le with ⟨hGuard, hLook⟩
  have hTold : own.length ≤ 3 :=
    within_openStream client client.chatUrl session.1 own _
      hOwn
  unfold Call.mostTurns
  simp only [List.length_append, List.length_map]
  omega

/- A round asks for the balance, and may store it. -/
theorem within_monitorRounds
    (X : Crates)
    (monitor : BalanceMonitor)
    (ata : Pubkey)
    (rounds : Nat)
    (state : MonitorState) :
    Within (2 * rounds)
      (monitorRounds X monitor ata rounds state) := by
  induction rounds generalizing state with
  | zero => exact within_done 0 _
  | succ rounds ih =>
      have hPoll : Within 2 (poll X monitor ata state) := by
        apply (Talk.within_exchange _ _ _ _).translate.bind
          (m := 1) (n := 1)
        intro result
        cases result with
        | error err => exact within_done 1 _
        | ok uiAmount =>
            exact within_ask (fun _ => within_done 0 _)
      rw [Nat.mul_succ, Nat.add_comm]
      exact hPoll.bind (fun state => ih state)

end Concurrent

/- No call takes more turns, whatever it is answered. -/
theorem Call.within_mostTurns
    (client : SolvelaClient X)
    (call : Call) :
    Within (call.mostTurns client.config)
      (call.dialogue client) := by
  cases call with
  | chat req =>
      intro es u hPlays
      rcases hPlays.completes someAnswer with
        ⟨later, result, hYields⟩
      rcases yields_map.mp hYields with ⟨r, hChat, _⟩
      have hLe := Concurrent.length_le_of_yields_chat hChat
      rw [List.length_append] at hLe
      exact (Nat.le_add_right _ _).trans hLe
  | chatStream req =>
      intro es u hPlays
      rcases hPlays.completes someAnswer with
        ⟨later, result, hYields⟩
      rcases yields_map.mp hYields with ⟨r, hStream, _⟩
      have hLe :=
        Concurrent.length_le_of_yields_chatStream hStream
      rw [List.length_append] at hLe
      exact (Nat.le_add_right _ _).trans hLe
  | proxied gatewayUrl request =>
      exact (Concurrent.within_proxyHandler _
        request).translate.bind (n := 0)
          (fun _ => within_done 0 _)
  | monitored monitor ata rounds =>
      exact (Concurrent.within_monitorRounds X monitor ata
        rounds _).bind (n := 0) (fun _ => within_done 0 _)

end Solvela

------------------------------------------------------------
-- Coming To An End
------------------------------------------------------------

namespace Solvela

open Dialogues Transitions

variable {X : Crates} {ι : Type}

/- An access, with an environment for the peers. -/
def AnsweredBy
    (env : Env)
    (world : World X)
    (e : Accessed)
    (world' : World X) : Prop :=
  Accesses world e world' ∧
    ∀ question reply, e = ⟨.send question, reply⟩ →
      reply = env.reply world.trace question.peer
        question.request

/- What is no exchange needs no peer. -/
theorem Accesses.answeredBy
    {world world' : World X}
    {a : SharedAccess}
    {answer : a.Answer}
    (hStep : Accesses world ⟨a, answer⟩ world')
    (hOwn : ∀ question, a ≠ .send question)
    (env : Env) :
    AnsweredBy env world ⟨a, answer⟩ world' := by
  refine ⟨hStep, ?_⟩
  intro question reply hSame
  exact absurd (congrArg Sigma.fst hSame) (hOwn question)

/- Each access can be made at once, in every state. -/
theorem AnsweredBy.total
    (env : Env)
    (world : World X)
    (a : SharedAccess) :
    ∃ answer world', AnsweredBy env world ⟨a, answer⟩ world' := by
  have hNow := Nat.le_refl world.now
  cases a with
  | loadBalance =>
      exact ⟨_, _, Accesses.loadBalance.answeredBy nofun env⟩
  | storeBalance atomic =>
      exact ⟨_, _, Accesses.storeBalance.answeredBy nofun env⟩
  | findSession id defaultModel =>
      exact ⟨_, _,
        (Accesses.findSession hNow).answeredBy nofun env⟩
  | openSession id defaultModel =>
      exact ⟨_, _,
        (Accesses.openSession hNow hNow).answeredBy nofun env⟩
  | recordRequest id requestHash =>
      exact ⟨_, _,
        Accesses.recordRequest.answeredBy nofun env⟩
  | cacheGet key =>
      exact ⟨_, _,
        (Accesses.cacheGet hNow).answeredBy nofun env⟩
  | cachePut key response =>
      exact ⟨_, _,
        (Accesses.cachePut hNow hNow).answeredBy nofun env⟩
  | send question =>
      refine ⟨env.reply world.trace question.peer
        question.request, _, .send, ?_⟩
      intro question' reply hSame
      cases hSame
      rfl

/-
  A run of calls that share a client is bounded by what they
  could ask.  From every state it reaches, and however the
  peers reply from there, each call can come to its end by its
  own turns alone, within its own bound.
-/
theorem interleaved_calls_finish
    [DecidableEq ι]
    [Fintype ι]
    (client : SolvelaClient X)
    (world : World X)
    (calls : ι → Call)
    (ls : List (ι × Accessed))
    (p : Pool (World X) ι SharedAccess SharedAccess.Answer
      (CallResult X))
    (hRun :
      LabelledRun (PoolStep Accesses)
        (startPool client world calls) ls p) :
    ls.length ≤ ∑ i, (calls i).mostTurns client.config ∧
      ∀ (env : Env) (i : ι), ∃ es result world',
        (ownPart i ls).length + es.length ≤
            (calls i).mostTurns client.config ∧
          LabelledRun (AnsweredBy env) p.shared es world' ∧
            LabelledRun (PoolStep Accesses) p
              (es.map (fun e => (i, e)))
              { shared := world'
                tasks :=
                  Function.update p.tasks i
                    (.done result) } := by
  have hBound : ∀ i, Within
      ((calls i).mostTurns client.config)
      ((calls i).dialogue client) :=
    fun i => (calls i).within_mostTurns client
  refine ⟨length_le_of_run hRun hBound, ?_⟩
  intro env i
  rcases exists_yields (AnsweredBy.total env) (p.tasks i)
      p.shared with
    ⟨es, result, world', hYields, hAnswered⟩
  have hPlays :
      Plays ((calls i).dialogue client) (ownPart i ls ++ es)
        (.done result) :=
    plays_append.mpr ⟨_, plays_of_run hRun i, hYields⟩
  have hLe := hBound i _ _ hPlays
  rw [List.length_append] at hLe
  have hActs : LabelledRun Accesses p.shared es world' := by
    have hEach :
        LabelledRun Accesses (id p.shared) (es.map id)
          (id world') :=
      hAnswered.simulates (fun _ _ _ _ hStep => hStep.1)
    rwa [List.map_id] at hEach
  exact ⟨es, result, world', hLe, hAnswered,
    exists_run_of_plays hYields hActs⟩

/- One of two calls is done, and the other comes to its end. -/
theorem sample_call_finishes :
    ∃ ls p, ∃ es : List Accessed, ∃ result world',
      LabelledRun (PoolStep Accesses)
          (startPool (sampleClient .default)
            (World.new .default 0)
            (fun _ : Bool => .chat sampleRequest)) ls p ∧
        ls.length ≤ 6 ∧ es.length ≤ 3 ∧
          LabelledRun (PoolStep Accesses) p
            (es.map (fun e => (false, e)))
            { shared := world'
              tasks :=
                Function.update p.tasks false
                  (.done result) } := by
  rcases exists_sample_payment with
    ⟨ls, p, _, _, _, _, hRun, _⟩
  have hFinish :=
    interleaved_calls_finish (sampleClient .default)
      (World.new .default 0)
      (fun _ : Bool => .chat sampleRequest) ls p hRun
  rcases hFinish.2 sampleEnv false with
    ⟨es, result, world', hOwn, _, hRest⟩
  exact ⟨ls, p, es, result, world', hRun, hFinish.1,
    (Nat.le_add_left _ _).trans hOwn, hRest⟩

end Solvela
