import Solvela.Concurrent.Model
import Solvela.Proxy.Forwarding

/-
  Talks and the programs they stand for.

  With an environment to answer it, a talk is the program of
  the client that it was written after, construct by
  construct.  And whatever peers answered in a talk, some
  environment answers in that way, so what holds of every
  solitary run holds of every talk.

  Main declarations:
    * `answers`, `exchangesOf`
    * `perform_converse`, `perform_openStream`
    * `perform_proxyHandler`, `perform_fetchBalance`
    * `runs_of_yields`
    * `conversation_of_yields`, `streamAttempt_of_yields`
    * `proxyAttempt_of_yields`
-/

------------------------------------------------------------
-- Answered By An Environment
------------------------------------------------------------

namespace Solvela

open Dialogues Effects

variable {X : Crates}

/- An environment answers, and the world keeps the record. -/
def answers
    (env : Env) : Handler Question Reply (World X) :=
  fun question world =>
    let reply :=
      env.reply world.trace question.peer question.request
    (reply, world.extend
      [{ peer := question.peer
         request := question.request
         reply := reply }])

namespace Talk

variable {ε α : Type}

theorem perform_ofOutcome
    (env : Env)
    (r : Except ε α) :
    perform (answers (X := X) env) (ofOutcome r) =
      Effects.ofOutcome r :=
  perform_done (answers env) r

theorem perform_send
    (env : Env)
    (peer : Peer)
    (request : HttpRequest) :
    perform (answers (X := X) env) (send peer request) =
      Solvela.send env peer request := by
  funext world
  have hSend :
      Solvela.send (X := X) env peer request world =
        (Effects.ofOutcome
          (env.reply world.trace peer request) :
            Prog X ReqwestError HttpResponse)
          (world.extend
            [{ peer := peer, request := request,
               reply := env.reply world.trace peer
                 request }]) := rfl
  have hPerform :
      perform (answers (X := X) env) (send peer request)
          world =
        settle
          (env.reply world.trace peer request,
            world.extend
              [{ peer := peer, request := request,
                 reply := env.reply world.trace peer
                   request }]) := rfl
  rw [hSend, hPerform]
  cases env.reply world.trace peer request with
  | ok resp => rfl
  | error e => rfl

theorem perform_exchange
    (env : Env)
    (peer : Peer)
    (request : HttpRequest)
    (failed : ReqwestError → ε)
    (read : HttpResponse → Except ε α) :
    perform (answers (X := X) env)
        (exchange peer request failed read) =
      Solvela.exchange env peer request failed read := by
  unfold exchange Solvela.exchange
  rw [perform_bind, perform_adapt, perform_send]
  congr 1
  funext resp
  exact perform_ofOutcome env (read resp)

end Talk

end Solvela

------------------------------------------------------------
-- Talks Are The Programs
------------------------------------------------------------

namespace Solvela

open Dialogues Effects

namespace Concurrent

variable {X : Crates}
variable (env : Env)

theorem perform_signExactPayment
    (wallet : Wallet X)
    (rpcUrl recipient : String)
    (amountAtomic : UInt64) :
    perform (answers (X := X) env)
        (signExactPayment wallet rpcUrl recipient
          amountAtomic) =
      Solvela.signExactPayment wallet env rpcUrl recipient
        amountAtomic := by
  unfold signExactPayment Solvela.signExactPayment
    getLatestBlockhash Solvela.getLatestBlockhash
  rw [perform_bind, Talk.perform_ofOutcome]
  congr 1
  funext ix
  rw [perform_bind, Talk.perform_exchange]
  congr 1
  funext blockhash
  exact Talk.perform_ofOutcome env _

theorem perform_signPaymentFor402WithAmount
    (client : SolvelaClient X)
    (required : PaymentRequired) :
    perform (answers (X := X) env)
        (signPaymentFor402WithAmount client required) =
      client.signPaymentFor402WithAmount env required := by
  unfold signPaymentFor402WithAmount
    SolvelaClient.signPaymentFor402WithAmount
  rw [perform_bind, Talk.perform_ofOutcome]
  congr 1
  funext terms
  rw [perform_bind, perform_adapt, perform_signExactPayment]
  rfl

theorem perform_signPaymentFor402
    (client : SolvelaClient X)
    (required : PaymentRequired) :
    perform (answers (X := X) env)
        (signPaymentFor402 client required) =
      client.signPaymentFor402 env required := by
  unfold signPaymentFor402 SolvelaClient.signPaymentFor402
  rw [perform_bind, perform_signPaymentFor402WithAmount]
  rfl

theorem perform_payAndResendWithAmount
    (client : SolvelaClient X)
    (url : String)
    (req : ChatRequest)
    (required : PaymentRequired) :
    perform (answers (X := X) env)
        (payAndResendWithAmount client url req required) =
      client.payAndResendWithAmount env url req required := by
  unfold payAndResendWithAmount
    SolvelaClient.payAndResendWithAmount
  rw [perform_bind, perform_signPaymentFor402WithAmount]
  congr 1
  funext signed
  rw [perform_bind, Talk.perform_exchange]
  rfl

theorem perform_handshake
    (client : SolvelaClient X)
    (url : String)
    (headers : List Header)
    (req : ChatRequest) :
    perform (answers (X := X) env)
        (handshake client url headers req) =
      client.handshake env url headers req := by
  unfold handshake SolvelaClient.handshake
  rw [perform_bind, Talk.perform_exchange]
  congr 1
  funext probed
  cases probed with
  | inl parsed => rfl
  | inr required =>
      change perform _ (_ >>= _) = _
      rw [perform_bind, perform_payAndResendWithAmount]
      rfl

theorem perform_sendChatRequest
    (client : SolvelaClient X)
    (url : String)
    (req : ChatRequest) :
    perform (answers (X := X) env)
        (sendChatRequest client url req) =
      client.sendChatRequest env url req := by
  unfold sendChatRequest SolvelaClient.sendChatRequest
  rw [perform_bind, perform_handshake]
  rfl

theorem perform_retryLoop
    (client : SolvelaClient X)
    (url : String)
    (req : ChatRequest)
    (attempts : Nat)
    (response : ChatResponse)
    (total : UInt64) :
    perform (answers (X := X) env)
        (retryLoop client url req attempts response total) =
      client.retryLoop env url req attempts response
        total := by
  induction attempts generalizing response total with
  | zero => rfl
  | succ attempts ih =>
      unfold retryLoop SolvelaClient.retryLoop
      cases isDegraded X.unicode response with
      | none => rfl
      | some reason =>
          change perform _ (_ >>= _) = _
          rw [perform_bind, perform_handshake]
          congr 1
          funext reply
          rcases reply with ⟨next, amount⟩
          cases amount with
          | none => exact ih _ _
          | some amount =>
              change perform _ (_ >>= _) = _
              rw [perform_bind, Talk.perform_ofOutcome]
              congr 1
              funext _
              exact ih _ _

theorem perform_converse
    (client : SolvelaClient X)
    (url : String)
    (req : ChatRequest) :
    perform (answers (X := X) env)
        (converse client url req) =
      client.converse env url req := by
  unfold converse SolvelaClient.converse
    SolvelaClient.retryIfDegraded
  rw [perform_bind, perform_sendChatRequest]
  congr 1
  funext sent
  cases client.config.enableQualityCheck with
  | true => exact perform_retryLoop env _ _ _ _ _ _
  | false => rfl

theorem perform_openStream
    (client : SolvelaClient X)
    (url : String)
    (req : ChatRequest) :
    perform (answers (X := X) env)
        (openStream client url req) =
      client.openStream env url req := by
  unfold openStream SolvelaClient.openStream
  rw [perform_bind, Talk.perform_exchange]
  congr 1
  funext probed
  cases probed with
  | none => exact Talk.perform_exchange env _ _ _ _
  | some required =>
      change perform _ (_ >>= _) = _
      rw [perform_bind, perform_signPaymentFor402]
      congr 1
      funext header
      exact Talk.perform_exchange env _ _ _ _

theorem perform_payAndForward
    (state : ProxyState X)
    (gatewayUrl method : String)
    (headers : List (String × List UInt8))
    (body : List UInt8)
    (required : PaymentRequired) :
    perform (answers (X := X) env)
        (payAndForward state gatewayUrl method headers body
          required) =
      state.payAndForward env gatewayUrl method headers body
        required := by
  unfold payAndForward ProxyState.payAndForward
  rw [perform_bind, perform_observe,
    perform_signPaymentFor402]
  congr 1
  funext signed
  cases signed with
  | error e => rfl
  | ok header =>
      change perform _ (_ >>= _) = _
      rw [perform_bind, perform_observe, Talk.perform_send]
      congr 1
      funext reply
      cases reply with
      | error e => rfl
      | ok resp =>
          change perform _ (if _ then _ else _) =
            (if _ then _ else _)
          split
          · rfl
          · rfl

theorem perform_handle402
    (state : ProxyState X)
    (gatewayUrl method : String)
    (headers : List (String × List UInt8))
    (body : List UInt8)
    (resp402 : HttpResponse) :
    perform (answers (X := X) env)
        (handle402 state gatewayUrl method headers body
          resp402) =
      state.handle402 env gatewayUrl method headers body
        resp402 := by
  unfold handle402 ProxyState.handle402
  cases resp402.body with
  | error e => rfl
  | ok text =>
      dsimp only
      cases X.paymentRequiredFromStr text with
      | error e => rfl
      | ok required =>
          exact perform_payAndForward env state gatewayUrl
            method headers body required

theorem perform_proxyHandler
    (state : ProxyState X)
    (request : CallerRequest) :
    perform (answers (X := X) env)
        (proxyHandler state request) =
      state.proxyHandler env request := by
  unfold proxyHandler ProxyState.proxyHandler
  rw [perform_bind, perform_observe, Talk.perform_send]
  congr 1
  funext reply
  cases reply with
  | error e =>
      change perform _ (if _ then _ else _) =
        (if _ then _ else _)
      split
      · rfl
      · rfl
  | ok resp =>
      change perform _ (if _ then _ else _) =
        (if _ then _ else _)
      split
      · exact perform_handle402 env state _ _ _ _ resp
      · rfl

theorem perform_fetchBalance
    (monitor : BalanceMonitor)
    (ata : Pubkey) :
    perform (answers (X := X) env)
        (fetchBalance X monitor ata) =
      monitor.fetchBalance env ata :=
  Talk.perform_exchange env _ _ _ _

end Concurrent

end Solvela

------------------------------------------------------------
-- What A Talk Leaves In The Record
------------------------------------------------------------

namespace Solvela

open Dialogues Effects Transitions

variable {X : Crates} {ε α : Type}

/- The exchange that a turn of a talk is. -/
def exchangeOf
    (e : Turn Question Reply) : Exchange where
  peer := e.1.peer
  request := e.1.request
  reply := e.2

/- The exchanges of a talk. -/
def exchangesOf
    (es : List (Turn Question Reply)) : List Exchange :=
  es.map exchangeOf

/- An environment whose replies are those of a record. -/
def scripted
    (start : Nat)
    (script : List Exchange)
    (delay : Nat → Nat) : Env where
  reply := fun past _ _ =>
    match script[past.length - start]? with
    | some e => e.reply
    | none => .error { message := "", isTimeout := false }
  delay := delay

/- It gives the replies in order. -/
theorem handles_scripted
    (start : Nat)
    (before later : List Exchange)
    (es : List (Turn Question Reply))
    (delay : Nat → Nat)
    (world : World X)
    (hStart : world.trace.length = start + before.length) :
    LabelledRun
      (Handles (answers
        (scripted start (before ++ (exchangesOf es ++ later))
          delay)))
      world es (world.extend (exchangesOf es)) := by
  induction es generalizing before world with
  | nil =>
      rw [labelledRun_nil]
      exact World.extend_nil world
  | cons e es ih =>
      have hSplit :
          before ++ (exchangesOf (e :: es) ++ later) =
            (before ++ [exchangeOf e]) ++
              (exchangesOf es ++ later) := by
        rw [List.append_assoc]
        rfl
      have hReply :
          (before ++ (exchangesOf (e :: es) ++ later))[
              world.trace.length - start]? =
            some (exchangeOf e) := by
        rw [hStart, Nat.add_sub_cancel_left,
          List.getElem?_append_right (Nat.le_refl _),
          Nat.sub_self]
        rfl
      refine ⟨world.extend [exchangeOf e], ?_, ?_⟩
      · have hAnswer :
            (scripted start
                (before ++ (exchangesOf (e :: es) ++ later))
                delay).reply world.trace e.1.peer
                e.1.request =
              e.2 := by
          unfold scripted
          simp only [hReply]
          rfl
        unfold Handles answers
        rw [hAnswer]
        rfl
      · have hLater := ih (before ++ [exchangeOf e])
          (world.extend [exchangeOf e]) (by
            unfold World.extend
            simp only [List.length_append,
              List.length_singleton]
            omega)
        rw [← hSplit, World.extend_extend] at hLater
        exact hLater

/-
  A talk that was held is held with an environment that
  replies so.
-/
theorem runs_scripted
    {t : Talk ε α}
    {es : List (Turn Question Reply)}
    {r : Except ε α}
    (hYields : Yields t.run es r)
    (start : Nat)
    (before later : List Exchange)
    (delay : Nat → Nat)
    (world : World X)
    (hStart : world.trace.length = start + before.length) :
    Runs
      (perform
        (answers (scripted start
          (before ++ (exchangesOf es ++ later)) delay)) t)
      world r (world.extend (exchangesOf es)) :=
  runs_perform.mpr ⟨es, hYields,
    handles_scripted start before later es delay world hStart⟩

/- So it is held with some environment. -/
theorem runs_of_yields
    {t : Talk ε α}
    {es : List (Turn Question Reply)}
    {r : Except ε α}
    (hYields : Yields t.run es r)
    (delay : Nat → Nat)
    (world : World X) :
    Runs
      (perform
        (answers (scripted world.trace.length
          (exchangesOf es) delay)) t)
      world r (world.extend (exchangesOf es)) := by
  have hRun :=
    runs_scripted hYields world.trace.length [] [] delay world
      rfl
  rw [List.nil_append, List.append_nil] at hRun
  exact hRun

theorem World.extend_injective
    {world : World X}
    {first second : List Exchange}
    (hSame : world.extend first = world.extend second) :
    first = second :=
  List.append_cancel_left (congrArg World.trace hSame)

end Solvela

------------------------------------------------------------
-- What Holds Of Talks
------------------------------------------------------------

namespace Solvela

open Dialogues

namespace Concurrent

variable {X : Crates}
variable {client : SolvelaClient X}
variable {url : String}
variable {req : ChatRequest}
variable {es : List (Turn Question Reply)}

/- A world to hold a talk in. -/
def emptyWorld (X : Crates) : World X where
  trace := []
  now := 0
  reads := 0
  balanceState := balanceNotPolled
  cache := none
  sessionStore := none

theorem conversation_of_yields
    {r : Except ClientError ChatResponse}
    (hYields : Yields (converse client url req).run es r) :
    Conversation client url req (exchangesOf es) r := by
  have hRun :=
    runs_of_yields hYields (fun _ => 0) (emptyWorld X)
  rw [perform_converse] at hRun
  rcases SolvelaClient.converse_spec hRun with
    ⟨own, hSame, hTalk⟩
  rw [World.extend_injective hSame]
  exact hTalk

theorem streamAttempt_of_yields
    {r : Except ClientError
      (List (Except ClientError X.ChatChunk))}
    (hYields : Yields (openStream client url req).run es r) :
    StreamAttempt client url req (exchangesOf es) r := by
  have hRun :=
    runs_of_yields hYields (fun _ => 0) (emptyWorld X)
  rw [perform_openStream] at hRun
  rcases SolvelaClient.openStream_spec hRun with
    ⟨own, hSame, hAttempt⟩
  rw [World.extend_injective hSame]
  exact hAttempt

theorem proxyAttempt_of_yields
    {state : ProxyState X}
    {request : CallerRequest}
    {r : Except Empty ProxyResponse}
    (hYields : Yields (proxyHandler state request).run es r) :
    ProxyAttempt state request (exchangesOf es) := by
  have hRun :=
    runs_of_yields hYields (fun _ => 0) (emptyWorld X)
  rw [perform_proxyHandler] at hRun
  rcases ProxyState.proxyHandler_spec hRun with
    ⟨own, response, hSame, hAttempt, _⟩
  rw [World.extend_injective hSame]
  exact hAttempt

end Concurrent

end Solvela
