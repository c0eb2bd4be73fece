import Solvela.Client.Signing

/-
  The payment handshake and the retry loop, as relations
  between exchanges and outcomes.

  The programs are followed once, here.  What a result says
  about a call is then proved by cases and induction on these
  relations.

  Main declarations:
    * `Asks`, `Attempt`, `Retries`, `Conversation`
    * `handshake_spec`
    * `retryLoop_spec`
    * `converse_spec`
    * `StreamAttempt`, `openStream_spec`
    * `Conversation.forall_mem`
    * `Conversation.carries`, `StreamAttempt.carries`
-/

------------------------------------------------------------
-- Attempts
------------------------------------------------------------

namespace Solvela

variable {X : Crates}

/- The terms that a 402 response asks for. -/
def termsOf
    (X : Crates)
    (e : Exchange) : Option PaymentRequired :=
  match e.reply with
  | .ok resp =>
      if resp.status = 402 then
        (SolvelaClient.readPaymentRequired X resp).toOption
      else
        none
  | .error _ => none

/- A chat request sent to the gateway. -/
structure Posts
    (url : String)
    (headers : List Header)
    (req : ChatRequest)
    (e : Exchange) : Prop where
  peer : e.peer = .gateway
  request : e.request = .post url headers (.chat req)

/- Posting a chat request adds one such exchange. -/
theorem posts_of_runs
    {ε α : Type}
    {env : Env}
    {url : String}
    {headers : List Header}
    {req : ChatRequest}
    {failed : ReqwestError → ε}
    {read : HttpResponse → Except ε α}
    {world world' : World X}
    {r : Except ε α}
    (hRun :
      Effects.Runs
        (exchange env .gateway (.post url headers (.chat req))
          failed read) world r world') :
    ∃ e, Posts url headers req e ∧
      world' = world.extend [e] ∧
        r = replyOutcome failed read e.reply := by
  rcases runs_exchange.mp hRun with ⟨reply, _, rfl, rfl⟩
  exact ⟨_, ⟨rfl, rfl⟩, rfl, rfl⟩

/- What the probe of an attempt was answered. -/
def probeOutcome
    (X : Crates)
    (e : Exchange) :
    Except ClientError (ChatResponse ⊕ PaymentRequired) :=
  replyOutcome ClientError.network
    (SolvelaClient.readProbe X) e.reply

/- What a paid request was answered. -/
def paidOutcome
    (X : Crates)
    (e : Exchange) : Except ClientError ChatResponse :=
  replyOutcome ClientError.network
    (SolvelaClient.readPaidResponse X) e.reply

/-
  One attempt: a probe, and after a 402 the signature and the
  paid request.  The outcome carries the amount, if one was
  paid.
-/
inductive Attempt
    (client : SolvelaClient X)
    (url : String)
    (headers : List Header)
    (req : ChatRequest) :
    List Exchange →
      Except ClientError (ChatResponse × Option UInt64) →
        Prop where
  | answered
      {probe : Exchange}
      {response : ChatResponse}
      (hProbe : Posts url headers req probe)
      (hAnswer : probeOutcome X probe = .ok (.inl response)) :
      Attempt client url headers req [probe]
        (.ok (response, none))
  | failed
      {probe : Exchange}
      {err : ClientError}
      (hProbe : Posts url headers req probe)
      (hAnswer : probeOutcome X probe = .error err) :
      Attempt client url headers req [probe] (.error err)
  | refused
      {probe : Exchange}
      {required : PaymentRequired}
      {rpcs : List Exchange}
      {err : ClientError}
      (hProbe : Posts url headers req probe)
      (hAnswer : probeOutcome X probe = .ok (.inr required))
      (hRpcs : ∀ e ∈ rpcs, IsRpc e)
      (hRefused : SolvelaClient.Refuses client required err) :
      Attempt client url headers req (probe :: rpcs)
        (.error err)
  | paid
      {probe payment : Exchange}
      {required : PaymentRequired}
      {rpcs : List Exchange}
      {amount : UInt64}
      {header : String}
      (hProbe : Posts url headers req probe)
      (hAnswer : probeOutcome X probe = .ok (.inr required))
      (hRpcs : ∀ e ∈ rpcs, IsRpc e)
      (hSigns : Signs client required amount header)
      (hPayment :
        Posts url [(paymentSignature, header)] req payment) :
      Attempt client url headers req
        (probe :: (rpcs ++ [payment]))
        ((paidOutcome X payment).map
          (fun response => (response, some amount)))

/- A payment is required by a response with terms. -/
theorem termsOf_of_required
    {e : Exchange}
    {resp : HttpResponse}
    {required : PaymentRequired}
    (hReply : e.reply = .ok resp)
    (hPay : resp.status = 402)
    (hTerms :
      SolvelaClient.readPaymentRequired X resp =
        .ok required) :
    termsOf X e = some required := by
  unfold termsOf
  rw [hReply]
  simp only [if_pos hPay, hTerms]
  rfl

/- What is behind a probe that was not in vain. -/
theorem probeOutcome_ok
    {e : Exchange}
    {probed : ChatResponse ⊕ PaymentRequired}
    (hAnswer : probeOutcome X e = .ok probed) :
    ∃ resp, e.reply = .ok resp ∧
      (resp.status = 200 ∧
          (∃ response, probed = .inl response ∧
            SolvelaClient.readChatResponse X resp =
              .ok response) ∨
        resp.status = 402 ∧
          ∃ required, probed = .inr required ∧
            SolvelaClient.readPaymentRequired X resp =
              .ok required) := by
  unfold probeOutcome replyOutcome at hAnswer
  cases hReply : e.reply with
  | error err =>
      rw [hReply] at hAnswer
      cases hAnswer
  | ok resp =>
      rw [hReply] at hAnswer
      refine ⟨resp, rfl, ?_⟩
      simp only [SolvelaClient.readProbe] at hAnswer
      by_cases hOk : resp.status = 200
      · rw [if_pos hOk] at hAnswer
        rcases Effects.map_eq_ok_iff.mp hAnswer with
          ⟨response, hRead, rfl⟩
        exact Or.inl ⟨hOk, response, rfl, hRead⟩
      · rw [if_neg hOk] at hAnswer
        by_cases hPay : resp.status = 402
        · rw [if_pos hPay] at hAnswer
          rcases Effects.map_eq_ok_iff.mp hAnswer with
            ⟨required, hTerms, rfl⟩
          exact Or.inr ⟨hPay, required, rfl, hTerms⟩
        · rw [if_neg hPay] at hAnswer
          cases hAnswer

/- A probe that was answered with terms was answered 402. -/
theorem termsOf_of_probeOutcome
    {e : Exchange}
    {required : PaymentRequired}
    (hAnswer : probeOutcome X e = .ok (.inr required)) :
    termsOf X e = some required := by
  rcases probeOutcome_ok hAnswer with
    ⟨resp, hReply, ⟨_, _, hNo, _⟩ | ⟨hPay, _, hSame, hTerms⟩⟩
  · cases hNo
  · cases hSame
    exact termsOf_of_required hReply hPay hTerms

end Solvela

------------------------------------------------------------
-- The Handshake
------------------------------------------------------------

namespace Solvela

open Effects

namespace SolvelaClient

variable {X : Crates}

/- A signature is refused, or it is sent with the request. -/
theorem payAndResendWithAmount_spec
    {client : SolvelaClient X}
    {env : Env}
    {url : String}
    {req : ChatRequest}
    {required : PaymentRequired}
    {world world' : World X}
    {r : Except ClientError (ChatResponse × UInt64)}
    (hRun :
      Runs (client.payAndResendWithAmount env url req required)
        world r world') :
    ∃ rpcs, (∀ e ∈ rpcs, IsRpc e) ∧
      ((∃ err, r = .error err ∧ world' = world.extend rpcs ∧
          Refuses client required err) ∨
        ∃ payment amount header,
          world' = world.extend (rpcs ++ [payment]) ∧
            Signs client required amount header ∧
              Posts url [(paymentSignature, header)] req
                  payment ∧
                r = (paidOutcome X payment).map
                  (fun response => (response, amount))) := by
  unfold payAndResendWithAmount at hRun
  rcases runs_bind.mp hRun with
    ⟨signed, t, hSign, hSend⟩ | ⟨err, hSign, rfl⟩
  · rcases signPaymentFor402WithAmount_spec hSign with
      ⟨rpcs, rfl, hRpcs, hSigned⟩
    rcases runs_bind_pure.mp hSend with ⟨r₀, hPaid, rfl⟩
    rcases posts_of_runs hPaid with
      ⟨payment, hPayment, rfl, rfl⟩
    refine ⟨rpcs, hRpcs, Or.inr ⟨payment, signed.2, signed.1,
      ?_, hSigned signed rfl, hPayment, rfl⟩⟩
    rw [World.extend_extend]
  · rcases signPaymentFor402WithAmount_spec hSign with
      ⟨rpcs, hWorld, hRpcs, _⟩
    exact ⟨rpcs, hRpcs, Or.inl ⟨err, rfl, hWorld,
      signPaymentFor402WithAmount_refuses hSign⟩⟩

/- A handshake is an attempt. -/
theorem handshake_spec
    {client : SolvelaClient X}
    {env : Env}
    {url : String}
    {headers : List Header}
    {req : ChatRequest}
    {world world' : World X}
    {r : Except ClientError (ChatResponse × Option UInt64)}
    (hRun :
      Runs (client.handshake env url headers req) world r
        world') :
    ∃ es, world' = world.extend es ∧
      Attempt client url headers req es r := by
  unfold handshake at hRun
  rcases runs_bind.mp hRun with
    ⟨probed, t, hAsk, hRest⟩ | ⟨err, hAsk, rfl⟩
  · rcases posts_of_runs hAsk with
      ⟨probe, hProbe, rfl, hAnswer⟩
    cases probed with
    | inl response =>
        rcases runs_pure.mp hRest with ⟨rfl, rfl⟩
        exact ⟨_, rfl, .answered hProbe hAnswer.symm⟩
    | inr required =>
        rcases runs_bind_pure.mp hRest with ⟨r₀, hPay, rfl⟩
        rcases payAndResendWithAmount_spec hPay with
          ⟨rpcs, hRpcs, ⟨err, rfl, rfl, hRefused⟩ |
            ⟨payment, amount, header, rfl, hSigns,
              hPayment, rfl⟩⟩
        · refine ⟨_, World.extend_extend _ _ _, ?_⟩
          exact .refused hProbe hAnswer.symm hRpcs hRefused
        · refine ⟨_, World.extend_extend _ _ _, ?_⟩
          have hAttempt :=
            Attempt.paid hProbe hAnswer.symm hRpcs hSigns
              hPayment
          cases hPaid : paidOutcome X payment with
          | ok response =>
              rw [hPaid] at hAttempt
              exact hAttempt
          | error err =>
              rw [hPaid] at hAttempt
              exact hAttempt
  · rcases posts_of_runs hAsk with
      ⟨probe, hProbe, rfl, hAnswer⟩
    exact ⟨_, rfl, .failed hProbe hAnswer.symm⟩

end SolvelaClient

end Solvela

------------------------------------------------------------
-- The Retry Loop
------------------------------------------------------------

namespace Solvela

open Effects

variable {X : Crates}

/-
  The retry loop with some attempts left, a response to judge
  and an amount already paid.
-/
inductive Retries
    (client : SolvelaClient X)
    (url : String)
    (req : ChatRequest) :
    Nat → ChatResponse → UInt64 → List Exchange →
      Except ClientError ChatResponse → Prop where
  | exhausted
      {response : ChatResponse}
      {total : UInt64} :
      Retries client url req 0 response total []
        (.ok response)
  | accepted
      {attempts : Nat}
      {response : ChatResponse}
      {total : UInt64}
      (hGood : isDegraded X.unicode response = none) :
      Retries client url req (attempts + 1) response total []
        (.ok response)
  | failed
      {attempts : Nat}
      {response : ChatResponse}
      {total : UInt64}
      {es : List Exchange}
      {err : ClientError}
      (hBad : isDegraded X.unicode response ≠ none)
      (hAttempt :
        Attempt client url [SolvelaClient.retryReasonHeader]
          req es (.error err)) :
      Retries client url req (attempts + 1) response total es
        (.error err)
  | answered
      {attempts : Nat}
      {response next : ChatResponse}
      {total : UInt64}
      {es rest : List Exchange}
      {r : Except ClientError ChatResponse}
      (hBad : isDegraded X.unicode response ≠ none)
      (hAttempt :
        Attempt client url [SolvelaClient.retryReasonHeader]
          req es (.ok (next, none)))
      (hRest :
        Retries client url req attempts next total rest r) :
      Retries client url req (attempts + 1) response total
        (es ++ rest) r
  | overspent
      {attempts : Nat}
      {response next : ChatResponse}
      {total amount : UInt64}
      {es : List Exchange}
      {err : ClientError}
      (hBad : isDegraded X.unicode response ≠ none)
      (hAttempt :
        Attempt client url [SolvelaClient.retryReasonHeader]
          req es (.ok (next, some amount)))
      (hOver :
        SolvelaClient.checkBudget client.config
            (saturatingAdd total amount) =
          .error err) :
      Retries client url req (attempts + 1) response total es
        (.error err)
  | paid
      {attempts : Nat}
      {response next : ChatResponse}
      {total amount : UInt64}
      {es rest : List Exchange}
      {r : Except ClientError ChatResponse}
      (hBad : isDegraded X.unicode response ≠ none)
      (hAttempt :
        Attempt client url [SolvelaClient.retryReasonHeader]
          req es (.ok (next, some amount)))
      (hWithin :
        SolvelaClient.checkBudget client.config
            (saturatingAdd total amount) =
          .ok ())
      (hRest :
        Retries client url req attempts next
          (saturatingAdd total amount) rest r) :
      Retries client url req (attempts + 1) response total
        (es ++ rest) r

/- The retry loop makes such retries. -/
theorem SolvelaClient.retryLoop_spec
    {client : SolvelaClient X}
    {env : Env}
    {url : String}
    {req : ChatRequest}
    {attempts : Nat}
    {response : ChatResponse}
    {total : UInt64}
    {world world' : World X}
    {r : Except ClientError ChatResponse}
    (hRun :
      Runs (client.retryLoop env url req attempts response
        total) world r world') :
    ∃ es, world' = world.extend es ∧
      Retries client url req attempts response total es r := by
  induction attempts generalizing response total world with
  | zero =>
      rcases runs_pure.mp hRun with ⟨rfl, rfl⟩
      exact ⟨[], (World.extend_nil _).symm, .exhausted⟩
  | succ attempts ih =>
      unfold SolvelaClient.retryLoop at hRun
      cases hDegraded : isDegraded X.unicode response with
      | none =>
          rw [hDegraded] at hRun
          rcases runs_pure.mp hRun with ⟨rfl, rfl⟩
          exact ⟨[], (World.extend_nil _).symm,
            .accepted hDegraded⟩
      | some reason =>
          have hBad : isDegraded X.unicode response ≠ none := by
            simp [hDegraded]
          rw [hDegraded] at hRun
          rcases runs_bind.mp hRun with
            ⟨reply, t, hShake, hRest⟩ | ⟨err, hShake, rfl⟩
          · rcases handshake_spec hShake with
              ⟨es, rfl, hAttempt⟩
            rcases reply with ⟨next, amount⟩
            cases amount with
            | none =>
                rcases ih hRest with ⟨rest, rfl, hRetries⟩
                exact ⟨_, World.extend_extend _ _ _,
                  .answered hBad hAttempt hRetries⟩
            | some amount =>
                rcases runs_ofOutcome_bind.mp hRest with
                  ⟨_, hWithin, hLoop⟩ |
                    ⟨err, hOver, rfl, rfl⟩
                · rcases ih hLoop with ⟨rest, rfl, hRetries⟩
                  exact ⟨_, World.extend_extend _ _ _,
                    .paid hBad hAttempt hWithin hRetries⟩
                · exact ⟨es, rfl,
                    .overspent hBad hAttempt hOver⟩
          · rcases handshake_spec hShake with
              ⟨es, rfl, hAttempt⟩
            exact ⟨es, rfl, .failed hBad hAttempt⟩

end Solvela

------------------------------------------------------------
-- Conversations
------------------------------------------------------------

namespace Solvela

open Effects

variable {X : Crates}

/- The exchanges of a chat call, and its outcome. -/
inductive Conversation
    (client : SolvelaClient X)
    (url : String)
    (req : ChatRequest) :
    List Exchange → Except ClientError ChatResponse → Prop where
  | failed
      {es : List Exchange}
      {err : ClientError}
      (hAttempt :
        Attempt client url [] req es (.error err)) :
      Conversation client url req es (.error err)
  | unchecked
      {es : List Exchange}
      {response : ChatResponse}
      {amount : Option UInt64}
      (hOff : client.config.enableQualityCheck = false)
      (hAttempt :
        Attempt client url [] req es
          (.ok (response, amount))) :
      Conversation client url req es (.ok response)
  | checked
      {es rest : List Exchange}
      {response : ChatResponse}
      {amount : Option UInt64}
      {r : Except ClientError ChatResponse}
      (hOn : client.config.enableQualityCheck = true)
      (hAttempt :
        Attempt client url [] req es
          (.ok (response, amount)))
      (hRetries :
        Retries client url req
          client.config.maxQualityRetries response
          (amount.getD 0) rest r) :
      Conversation client url req (es ++ rest) r

/- A chat call holds such a conversation. -/
theorem SolvelaClient.converse_spec
    {client : SolvelaClient X}
    {env : Env}
    {url : String}
    {req : ChatRequest}
    {world world' : World X}
    {r : Except ClientError ChatResponse}
    (hRun :
      Runs (client.converse env url req) world r world') :
    ∃ es, world' = world.extend es ∧
      Conversation client url req es r := by
  unfold SolvelaClient.converse at hRun
  rcases runs_bind.mp hRun with
    ⟨sent, t, hSend, hRest⟩ | ⟨err, hSend, rfl⟩
  · rcases runs_bind_pure.mp hSend with ⟨r₀, hShake, hSent⟩
    rcases handshake_spec hShake with ⟨es, rfl, hAttempt⟩
    rcases Effects.map_eq_ok_iff.mp hSent.symm with
      ⟨reply, rfl, rfl⟩
    cases hCheck : client.config.enableQualityCheck with
    | false =>
        rw [hCheck] at hRest
        rcases runs_pure.mp hRest with ⟨rfl, rfl⟩
        exact ⟨es, rfl, .unchecked hCheck hAttempt⟩
    | true =>
        rw [hCheck] at hRest
        rcases retryLoop_spec hRest with
          ⟨rest, rfl, hRetries⟩
        exact ⟨_, World.extend_extend _ _ _,
          .checked hCheck hAttempt hRetries⟩
  · rcases runs_bind_pure.mp hSend with ⟨r₀, hShake, hError⟩
    rcases handshake_spec hShake with ⟨es, rfl, hAttempt⟩
    cases r₀ with
    | ok reply => cases hError
    | error err' =>
        cases hError
        exact ⟨es, rfl, .failed hAttempt⟩

end Solvela

------------------------------------------------------------
-- Streams
------------------------------------------------------------

namespace Solvela

open Effects

variable {X : Crates}

/- What the probe before a stream was answered. -/
def streamProbeOutcome
    (X : Crates)
    (e : Exchange) :
    Except ClientError (Option PaymentRequired) :=
  replyOutcome ClientError.network
    (SolvelaClient.readStreamProbe X) e.reply

/- The stream that an exchange opened. -/
def streamOutcome
    (X : Crates)
    (e : Exchange) :
    Except ClientError
      (List (Except ClientError X.ChatChunk)) :=
  replyOutcome ClientError.network
    (SolvelaClient.readStream X) e.reply

/- The exchanges that open a stream, and the outcome. -/
inductive StreamAttempt
    (client : SolvelaClient X)
    (url : String)
    (req : ChatRequest) :
    List Exchange →
      Except ClientError
        (List (Except ClientError X.ChatChunk)) →
        Prop where
  | failed
      {probe : Exchange}
      {err : ClientError}
      (hProbe :
        Posts url [] { req with stream := false } probe)
      (hAnswer : streamProbeOutcome X probe = .error err) :
      StreamAttempt client url req [probe] (.error err)
  | opened
      {probe opening : Exchange}
      (hProbe :
        Posts url [] { req with stream := false } probe)
      (hAnswer : streamProbeOutcome X probe = .ok none)
      (hOpening :
        Posts url [] { req with stream := true } opening) :
      StreamAttempt client url req [probe, opening]
        (streamOutcome X opening)
  | refused
      {probe : Exchange}
      {required : PaymentRequired}
      {rpcs : List Exchange}
      {err : ClientError}
      (hProbe :
        Posts url [] { req with stream := false } probe)
      (hAnswer :
        streamProbeOutcome X probe = .ok (some required))
      (hRpcs : ∀ e ∈ rpcs, IsRpc e) :
      StreamAttempt client url req (probe :: rpcs)
        (.error err)
  | paid
      {probe payment : Exchange}
      {required : PaymentRequired}
      {rpcs : List Exchange}
      {amount : UInt64}
      {header : String}
      (hProbe :
        Posts url [] { req with stream := false } probe)
      (hAnswer :
        streamProbeOutcome X probe = .ok (some required))
      (hRpcs : ∀ e ∈ rpcs, IsRpc e)
      (hSigns : Signs client required amount header)
      (hPayment :
        Posts url [(paymentSignature, header)]
          { req with stream := true } payment) :
      StreamAttempt client url req
        (probe :: (rpcs ++ [payment]))
        (streamOutcome X payment)

/- A stream probe answered with terms was answered 402. -/
theorem termsOf_of_streamProbeOutcome
    {e : Exchange}
    {required : PaymentRequired}
    (hAnswer :
      streamProbeOutcome X e = .ok (some required)) :
    termsOf X e = some required := by
  unfold streamProbeOutcome replyOutcome at hAnswer
  cases hReply : e.reply with
  | error err =>
      rw [hReply] at hAnswer
      cases hAnswer
  | ok resp =>
      rw [hReply] at hAnswer
      simp only [SolvelaClient.readStreamProbe] at hAnswer
      by_cases hOk : resp.status = 200
      · rw [if_pos hOk] at hAnswer
        cases hAnswer
      · rw [if_neg hOk] at hAnswer
        by_cases hPay : resp.status = 402
        · rw [if_pos hPay] at hAnswer
          rcases map_eq_ok_iff.mp hAnswer with
            ⟨terms, hTerms, hSame⟩
          cases hSame
          exact termsOf_of_required hReply hPay hTerms
        · rw [if_neg hPay] at hAnswer
          cases hAnswer

/- Opening a stream is such an attempt. -/
theorem SolvelaClient.openStream_spec
    {client : SolvelaClient X}
    {env : Env}
    {url : String}
    {req : ChatRequest}
    {world world' : World X}
    {r : Except ClientError
      (List (Except ClientError X.ChatChunk))}
    (hRun :
      Runs (client.openStream env url req) world r world') :
    ∃ es, world' = world.extend es ∧
      StreamAttempt client url req es r := by
  unfold SolvelaClient.openStream at hRun
  rcases runs_bind.mp hRun with
    ⟨probed, t, hAsk, hRest⟩ | ⟨err, hAsk, rfl⟩
  · rcases posts_of_runs hAsk with
      ⟨probe, hProbe, rfl, hAnswer⟩
    cases probed with
    | none =>
        rcases posts_of_runs hRest with
          ⟨opening, hOpening, rfl, rfl⟩
        exact ⟨_, World.extend_extend _ _ _,
          .opened hProbe hAnswer.symm hOpening⟩
    | some required =>
        rcases runs_bind.mp hRest with
          ⟨header, u, hSign, hOpen⟩ | ⟨err, hSign, rfl⟩
        · rcases signPaymentFor402_spec hSign with
            ⟨rpcs, rfl, hRpcs, hSigned⟩
          rcases hSigned header rfl with ⟨amount, hSigns⟩
          rcases posts_of_runs hOpen with
            ⟨payment, hPayment, rfl, rfl⟩
          refine ⟨probe :: (rpcs ++ [payment]), ?_,
            .paid hProbe hAnswer.symm hRpcs hSigns hPayment⟩
          rw [World.extend_extend, World.extend_extend]
          rfl
        · rcases signPaymentFor402_spec hSign with
            ⟨rpcs, rfl, hRpcs, _⟩
          exact ⟨_, World.extend_extend _ _ _,
            .refused hProbe hAnswer.symm hRpcs⟩
  · rcases posts_of_runs hAsk with
      ⟨probe, hProbe, rfl, hAnswer⟩
    exact ⟨_, rfl, .failed hProbe hAnswer.symm⟩

end Solvela

------------------------------------------------------------
-- What Is Carried
------------------------------------------------------------

namespace Solvela

/-
  A request to the gateway, if it is one, carries the chat
  request `req`, but for its `stream` flag.
-/
def Carries
    (req : ChatRequest)
    (e : Exchange) : Prop :=
  e.peer = .gateway →
    ∃ stream,
      e.request.body = .chat { req with stream := stream }

theorem Posts.carries
    {url : String}
    {headers : List Header}
    {req : ChatRequest}
    {stream : Bool}
    {e : Exchange}
    (hPosts :
      Posts url headers { req with stream := stream } e) :
    Carries req e := by
  intro _
  rw [hPosts.request]
  exact ⟨stream, rfl⟩

theorem IsRpc.carries
    {e : Exchange}
    (hRpc : IsRpc e)
    (req : ChatRequest) :
    Carries req e := by
  intro hPeer
  rw [hRpc.1] at hPeer
  cases hPeer

variable {X : Crates}
variable {client : SolvelaClient X}
variable {url : String}
variable {req : ChatRequest}
variable {P : Exchange → Prop}

/-
  An attempt consists of posts of its request and of RPC
  exchanges.
-/
theorem Attempt.forall_mem
    {headers : List Header}
    {es : List Exchange}
    {r : Except ClientError (ChatResponse × Option UInt64)}
    (hAttempt : Attempt client url headers req es r)
    (hPosts : ∀ headers e, Posts url headers req e → P e)
    (hRpc : ∀ e, IsRpc e → P e) :
    ∀ e ∈ es, P e := by
  cases hAttempt with
  | answered hProbe _ =>
      exact List.forall_mem_singleton.mpr
        (hPosts _ _ hProbe)
  | failed hProbe _ =>
      exact List.forall_mem_singleton.mpr
        (hPosts _ _ hProbe)
  | refused hProbe _ hRpcs _ =>
      intro e hMem
      rcases List.mem_cons.mp hMem with rfl | hRest
      · exact hPosts _ _ hProbe
      · exact hRpc e (hRpcs e hRest)
  | paid hProbe _ hRpcs _ hPayment =>
      intro e hMem
      rcases List.mem_cons.mp hMem with rfl | hRest
      · exact hPosts _ _ hProbe
      · rcases List.mem_append.mp hRest with hMiddle | hLast
        · exact hRpc e (hRpcs e hMiddle)
        · rw [List.mem_singleton.mp hLast]
          exact hPosts _ _ hPayment

/- So does every retry. -/
theorem Retries.forall_mem
    {attempts : Nat}
    {response : ChatResponse}
    {total : UInt64}
    {es : List Exchange}
    {r : Except ClientError ChatResponse}
    (hRetries :
      Retries client url req attempts response total es r)
    (hPosts : ∀ headers e, Posts url headers req e → P e)
    (hRpc : ∀ e, IsRpc e → P e) :
    ∀ e ∈ es, P e := by
  induction hRetries with
  | exhausted =>
      intro e hNone
      cases hNone
  | accepted _ =>
      intro e hNone
      cases hNone
  | failed _ hAttempt =>
      exact hAttempt.forall_mem hPosts hRpc
  | answered _ hAttempt _ ih =>
      exact List.forall_mem_append.mpr
        ⟨hAttempt.forall_mem hPosts hRpc, ih⟩
  | overspent _ hAttempt _ =>
      exact hAttempt.forall_mem hPosts hRpc
  | paid _ hAttempt _ _ ih =>
      exact List.forall_mem_append.mpr
        ⟨hAttempt.forall_mem hPosts hRpc, ih⟩

/- And so does a conversation. -/
theorem Conversation.forall_mem
    {es : List Exchange}
    {r : Except ClientError ChatResponse}
    (hTalk : Conversation client url req es r)
    (hPosts : ∀ headers e, Posts url headers req e → P e)
    (hRpc : ∀ e, IsRpc e → P e) :
    ∀ e ∈ es, P e := by
  cases hTalk with
  | failed hAttempt => exact hAttempt.forall_mem hPosts hRpc
  | unchecked _ hAttempt =>
      exact hAttempt.forall_mem hPosts hRpc
  | checked _ hAttempt hRetries =>
      exact List.forall_mem_append.mpr
        ⟨hAttempt.forall_mem hPosts hRpc,
          hRetries.forall_mem hPosts hRpc⟩

/- A conversation carries one request throughout. -/
theorem Conversation.carries
    {es : List Exchange}
    {r : Except ClientError ChatResponse}
    (hTalk : Conversation client url req es r) :
    ∀ e ∈ es, Carries req e :=
  hTalk.forall_mem
    (fun _ _ hPosts => hPosts.carries)
    (fun _ hRpc => hRpc.carries req)

/- Opening a stream carries one request throughout. -/
theorem StreamAttempt.carries
    {es : List Exchange}
    {r : Except ClientError
      (List (Except ClientError X.ChatChunk))}
    (hOpen : StreamAttempt client url req es r) :
    ∀ e ∈ es, Carries req e := by
  cases hOpen with
  | failed hProbe _ =>
      exact List.forall_mem_singleton.mpr hProbe.carries
  | opened hProbe _ hOpening =>
      intro e hMem
      rcases List.mem_pair.mp hMem with rfl | rfl
      · exact hProbe.carries
      · exact hOpening.carries
  | refused hProbe _ hRpcs =>
      intro e hMem
      rcases List.mem_cons.mp hMem with rfl | hRest
      · exact hProbe.carries
      · exact (hRpcs e hRest).carries _
  | paid hProbe _ hRpcs _ hPayment =>
      intro e hMem
      rcases List.mem_cons.mp hMem with rfl | hRest
      · exact hProbe.carries
      · rcases List.mem_append.mp hRest with hRpc | hLast
        · exact (hRpcs e hRpc).carries _
        · rw [List.mem_singleton.mp hLast]
          exact hPayment.carries

end Solvela
