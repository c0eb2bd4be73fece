import Solvela.Client.Accounting
import Solvela.Client.Terms
import Solvela.Concurrent.Alone

/-
  What calls that share a client pay.

  However the calls are interleaved, and wherever the run is
  cut, each payment answers the 402 response that the same
  call got last, and the sum of all payments is bounded by
  the calls that were started.

  Main declarations:
    * `tagged`, `trace_of_accesses`
    * `honest_of_plays`
    * `interleaved_payments_follow_terms`
    * `Conversation.spent_le`, `Call.mostSpent`
    * `interleaved_spending_le`
-/

------------------------------------------------------------
-- The Record Of A Run
------------------------------------------------------------

namespace Solvela

open Dialogues Transitions

variable {X : Crates} {ι : Type}

/- The exchanges of a run, each with the call that had it. -/
def tagged
    (ls : List (ι × Accessed)) : List (ι × Exchange) :=
  ls.filterMap (fun l => (sentBy l.2).map (fun e => (l.1, e)))

theorem tagged_snd
    (ls : List (ι × Accessed)) :
    (tagged ls).map Prod.snd = sentIn (ls.map Prod.snd) := by
  unfold tagged sentIn
  rw [List.map_filterMap, List.filterMap_map]
  apply List.filterMap_congr
  intro l _
  cases hSent : sentBy l.2 <;> simp [hSent]

/- The part of one call is what its own turns left. -/
theorem tagged_own
    [DecidableEq ι]
    (i : ι)
    (ls : List (ι × Accessed)) :
    ownPart i (tagged ls) = sentIn (ownPart i ls) := by
  unfold tagged sentIn ownPart
  rw [List.filterMap_filterMap, List.filterMap_filterMap]
  apply List.filterMap_congr
  intro l _
  by_cases hOwn : l.1 = i
  · cases hSent : sentBy l.2 <;> simp [hOwn, hSent]
  · cases sentBy l.2 <;> simp [hOwn]

/- An access adds to the record what it sends. -/
theorem trace_of_access
    {world world' : World X}
    {e : Accessed}
    (hStep : Accesses world e world') :
    world'.trace = world.trace ++ sentIn [e] := by
  cases hStep with
  | loadBalance => exact (List.append_nil _).symm
  | storeBalance => exact (List.append_nil _).symm
  | findSession _ => exact (List.append_nil _).symm
  | openSession _ _ =>
      unfold World.openSession
      cases world.sessionStore with
      | none => exact (List.append_nil _).symm
      | some store => exact (List.append_nil _).symm
  | recordRequest => exact (List.append_nil _).symm
  | cacheGet _ =>
      unfold World.cacheGet
      cases world.cache with
      | none => exact (List.append_nil _).symm
      | some cache => exact (List.append_nil _).symm
  | cachePut _ _ =>
      unfold World.cachePut
      cases world.cache with
      | none => exact (List.append_nil _).symm
      | some cache => exact (List.append_nil _).symm
  | send => rfl

/- And a run adds what its accesses send. -/
theorem trace_of_accesses
    {world world' : World X}
    {es : List Accessed}
    (hRun : LabelledRun Accesses world es world') :
    world'.trace = world.trace ++ sentIn es := by
  induction es generalizing world with
  | nil =>
      rw [labelledRun_nil.mp hRun, sentIn_nil,
        List.append_nil]
  | cons e es ih =>
      rcases labelledRun_cons.mp hRun with
        ⟨next, hStep, hRest⟩
      have hSplit :
          sentIn (e :: es) = sentIn [e] ++ sentIn es :=
        sentIn_append [e] es
      rw [ih hRest, trace_of_access hStep, hSplit,
        List.append_assoc]

end Solvela

------------------------------------------------------------
-- Every Call Is Honest
------------------------------------------------------------

namespace Solvela

open Dialogues Transitions

variable {X : Crates}
variable {client : SolvelaClient X}

/- Some answer to every access. -/
def someAnswer : (a : SharedAccess) → a.Answer
| .loadBalance => 0
| .storeBalance _ => ()
| .findSession _ _ => none
| .openSession _ model =>
    { model := model, escalated := false }
| .recordRequest _ _ => ()
| .cacheGet _ => none
| .cachePut _ _ => ()
| .send _ => .error { message := "", isTimeout := false }

theorem Honest.of_append
    {first second : List Exchange}
    (hHonest : Honest client (first ++ second)) :
    Honest client first := by
  constructor
  · intro e hMem
    exact hHonest.toGateway e (List.mem_append_left _ hMem)
  · have hAll := hHonest.answered
    unfold gatewayExchanges at hAll
    rw [List.filter_append] at hAll
    exact hAll.of_append

/- What a proxied call sends is an attempt to forward. -/
theorem proxyAttempt_of_proxied
    {gatewayUrl : String}
    {request : CallerRequest}
    {es : List Accessed}
    {result : CallResult X}
    (hYields :
      Yields ((Call.proxied gatewayUrl request).dialogue client)
        es result) :
    ProxyAttempt { client := client, gatewayUrl := gatewayUrl }
      request (sentIn es) := by
  rcases yields_map.mp hYields with ⟨r, hTalk, _⟩
  rcases Concurrent.yields_talk.mp hTalk with
    ⟨turns, rfl, hTurns⟩
  rw [sentIn_talk]
  exact Concurrent.proxyAttempt_of_yields hTurns

/- A call that came to its end was honest. -/
theorem honest_of_yields
    {call : Call}
    {es : List Accessed}
    {result : CallResult X}
    (hYields : Yields (call.dialogue client) es result) :
    Honest client (sentIn es) := by
  cases call with
  | chat req =>
      rcases yields_map.mp hYields with ⟨r, hChat, _⟩
      rcases Concurrent.sentIn_chat hChat with
        hNone | ⟨sent, hTalk⟩
      · rw [hNone]
        exact honest_of_forall_unpaid client (by simp)
      · exact hTalk.honest
  | chatStream req =>
      rcases yields_map.mp hYields with ⟨r, hStream, _⟩
      rcases Concurrent.sentIn_chatStream hStream with
        ⟨sent, hAttempt⟩
      exact hAttempt.honest
  | proxied gatewayUrl request =>
      exact (proxyAttempt_of_proxied hYields).honest
  | monitored monitor ata rounds =>
      rcases yields_map.mp hYields with ⟨r, hRounds, _⟩
      apply honest_of_forall_unpaid
      intro e hMem
      exact (Concurrent.sentIn_monitorRounds hRounds e
        hMem).2

/- So was every call that is still under way, or dropped. -/
theorem honest_of_plays
    {call : Call}
    {es : List Accessed}
    {rest : Program (CallResult X)}
    (hPlays : Plays (call.dialogue client) es rest) :
    Honest client (sentIn es) := by
  rcases hPlays.completes someAnswer with
    ⟨later, result, hYields⟩
  have hHonest := honest_of_yields hYields
  rw [sentIn_append] at hHonest
  exact hHonest.of_append

end Solvela

------------------------------------------------------------
-- A Call That Pays
------------------------------------------------------------

namespace Solvela

open Dialogues Transitions

variable {X : Crates} {ι : Type}

theorem tagged_map
    (i : ι)
    (es : List Accessed) :
    tagged (es.map (fun e => (i, e))) =
      (sentIn es).map (fun e => (i, e)) := by
  unfold tagged sentIn
  rw [List.filterMap_map, List.map_filterMap]
  rfl

/- An acceptable demand is paid by a call of a pool. -/
theorem Demand.Acceptable.exists_paid_run
    [DecidableEq ι]
    {client : SolvelaClient X}
    {payTo : String}
    {amount : UInt64}
    {demand : Demand X payTo amount}
    (hAcceptable : demand.Acceptable client.config)
    (P : Payable X)
    (env : Env)
    (hReply : env.reply = demand.reply)
    (world : World X)
    (hConfigured : world.Configured client.config)
    (calls : ι → Call)
    (i : ι)
    (req : ChatRequest)
    (hCall : calls i = .chat req)
    (hMissed : client.cachedAnswer env req world = none) :
    ∃ ls p r past e later,
      LabelledRun (PoolStep Accesses)
          (startPool client world calls) ls p ∧
        p.tasks i = .done (.chat r) ∧
          tagged ls = past ++ (i, e) :: later ∧
            e.request.payments ≠ [] := by
  rcases hAcceptable.exists_paid_chat P env hReply req world
      hMissed with
    ⟨r, world', es, hRun, hTrace, e, hMem, hPaid⟩
  rcases Concurrent.chat_alone (Lags.refl world) hConfigured
      hRun with
    ⟨own, last, hYields, hAccesses, hLags⟩
  have hDialogue :
      Yields ((calls i).dialogue client) own (.chat r) := by
    rw [hCall]
    exact hYields.map _
  have hPool :=
    exists_run_of_plays (p := startPool client world calls)
      hDialogue hAccesses
  have hOwn : sentIn own = es := by
    have hSame := trace_of_accesses hAccesses
    rw [← hLags.trace, hTrace] at hSame
    exact (List.append_cancel_left hSame).symm
  have hIn : (i, e) ∈ tagged (own.map (fun e => (i, e))) := by
    rw [tagged_map, hOwn]
    exact List.mem_map_of_mem hMem
  rcases List.append_of_mem hIn with ⟨past, later, hSplit⟩
  exact ⟨_, _, r, past, e, later, hPool,
    Function.update_self _ _ _, hSplit, hPaid⟩

/- Two calls of the sample client, of which one pays. -/
theorem exists_sample_payment :
    ∃ ls p r past e later,
      LabelledRun (PoolStep Accesses)
          (startPool (sampleClient .default)
            (World.new .default 0)
            (fun _ : Bool => .chat sampleRequest)) ls p ∧
        p.tasks true = .done (.chat r) ∧
          tagged ls = past ++ (true, e) :: later ∧
            e.request.payments ≠ [] := by
  have hAcceptable :
      sampleDemand.Acceptable
        (sampleClient .default).config :=
    sampleDemand_acceptable rfl rfl
  exact hAcceptable.exists_paid_run sampleCrates_payable
    sampleEnv rfl (World.new .default 0)
    (World.configured_new .default 0)
    (fun _ : Bool => .chat sampleRequest) true sampleRequest
    rfl rfl

end Solvela

------------------------------------------------------------
-- Payments Follow Their Terms
------------------------------------------------------------

namespace Solvela

open Dialogues Transitions

variable {X : Crates} {ι : Type}

/-
  The last exchange of a call with the gateway, in a record
  of all calls.
-/
theorem exists_last_to_gateway
    [DecidableEq ι]
    {i : ι}
    {past : List (ι × Exchange)}
    {before : List Exchange}
    {probe : Exchange}
    (hLast :
      gatewayExchanges (ownPart i past) = before ++ [probe]) :
    ∃ first after, past = first ++ (i, probe) :: after ∧
      probe.peer = .gateway ∧
        ∀ l ∈ after, l.1 = i → l.2.peer = .rpc := by
  rcases List.filter_eq_append_iff.mp hLast with
    ⟨front, back, hOwn, _, hBack⟩
  rcases List.filter_eq_cons_iff.mp hBack with
    ⟨skipped, rest, rfl, _, hGateway, hNone⟩
  rw [← List.append_assoc] at hOwn
  rcases ownPart_split hOwn with
    ⟨first, after, rfl, _, rfl⟩
  refine ⟨first, after, rfl, of_decide_eq_true hGateway, ?_⟩
  rintro ⟨j, e⟩ hMem rfl
  have hOther :=
    List.filter_eq_nil_iff.mp hNone e (mem_ownPart_iff.mpr hMem)
  cases hPeer : e.peer with
  | rpc => rfl
  | gateway => exact absurd (decide_eq_true hPeer) hOther

/-
  In every interleaving and at every moment: the record is
  that of all calls together, and a request with a payment
  carries one, signed for the terms of the last response that
  the gateway gave to the same call, whatever it sent to the
  others since.
-/
theorem interleaved_payments_follow_terms
    [DecidableEq ι]
    (R : PaymentReader X)
    (client : SolvelaClient X)
    (world : World X)
    (calls : ι → Call)
    (ls : List (ι × Accessed))
    (p : Pool (World X) ι SharedAccess SharedAccess.Answer
      (CallResult X))
    (hRun :
      LabelledRun (PoolStep Accesses)
        (startPool client world calls) ls p) :
    p.shared.trace =
        world.trace ++ (tagged ls).map Prod.snd ∧
      ∀ past i e later,
        tagged ls = past ++ (i, e) :: later →
          e.request.payments = [] ∨
            ∃ before probe after required header accept amount,
              past = before ++ (i, probe) :: after ∧
                probe.peer = .gateway ∧
                  (∀ l ∈ after, l.1 = i → l.2.peer = .rpc) ∧
                    termsOf X probe = some required ∧
                      e.peer = .gateway ∧
                        e.request.payments = [header] ∧
                          SignedFor R client required accept
                            amount header := by
  constructor
  · rw [tagged_snd]
    exact trace_of_accesses (acts_of_run hRun)
  · intro past i e later hSplit
    have hTerms :
        PaysByTheTerms R client (sentIn (ownPart i ls)) :=
      (honest_of_plays (plays_of_run hRun i)).paysByTheTerms R
    rw [← tagged_own, hSplit, ownPart_append,
      ownPart_cons_self] at hTerms
    cases hPeer : e.peer with
    | rpc =>
        exact Or.inl (hTerms.toGateway e
          (List.mem_append_right _ List.mem_cons_self) hPeer)
    | gateway =>
        have hGateway :
            gatewayExchanges
                (ownPart i past ++ e :: ownPart i later) =
              gatewayExchanges (ownPart i past) ++
                e :: gatewayExchanges (ownPart i later) := by
          unfold gatewayExchanges
          rw [List.filter_append,
            List.filter_cons_of_pos (by simp [hPeer])]
        rcases hTerms.answers _ _ _ hGateway with
          hNone | ⟨before, probe, required, header, accept,
            amount, hPast, hProbe, hPaid, hSigned⟩
        · exact Or.inl hNone
        · rcases exists_last_to_gateway hPast with
            ⟨first, after, hCut, hToGateway, hRpc⟩
          exact Or.inr ⟨first, probe, after, required, header,
            accept, amount, hCut, hToGateway, hRpc, hProbe,
            rfl, hPaid, hSigned⟩

/- A payment among two calls follows the terms of its own. -/
theorem sample_payment_follows_terms :
    ∃ ls p past e later,
      LabelledRun (PoolStep Accesses)
          (startPool (sampleClient .default)
            (World.new .default 0)
            (fun _ : Bool => .chat sampleRequest)) ls p ∧
        tagged ls = past ++ (true, e) :: later ∧
          ∃ before probe after required header accept amount,
            past = before ++ (true, probe) :: after ∧
              termsOf sampleCrates probe = some required ∧
                SignedFor sampleReader
                  (sampleClient .default) required accept
                  amount header := by
  rcases exists_sample_payment with
    ⟨ls, p, _, past, e, later, hRun, _, hSplit, hPaid⟩
  have hTerms :=
    interleaved_payments_follow_terms sampleReader
      (sampleClient .default) (World.new .default 0)
      (fun _ : Bool => .chat sampleRequest) ls p hRun
  rcases hTerms.2 past true e later hSplit with
    hNone | ⟨before, probe, after, required, header, accept,
      amount, hPast, _, _, hProbe, _, _, hSigned⟩
  · exact absurd hNone hPaid
  · exact ⟨ls, p, past, e, later, hRun, hSplit, before, probe,
      after, required, header, accept, amount, hPast, hProbe,
      hSigned⟩

end Solvela

------------------------------------------------------------
-- What A Conversation Spends
------------------------------------------------------------

namespace Solvela

variable {X : Crates}
variable {R : PaymentReader X}
variable {client : SolvelaClient X}
variable {url : String}
variable {req : ChatRequest}
variable {cap : UInt64}

/-
  The total is checked after each payment, so the loop ends
  with the payment that takes it above the maximum.
-/
theorem Retries.spent_le
    {attempts : Nat}
    {response : ChatResponse}
    {total : UInt64}
    {es : List Exchange}
    {r : Except ClientError ChatResponse}
    (hRetries :
      Retries client url req attempts response total es r)
    (hCap : client.config.maxPaymentAmount = some cap)
    (hBelow : cap < maxU64)
    (hWithin : total ≤ cap) :
    total.toNat + R.spent es ≤ 2 * cap.toNat := by
  have hNone : R.spent [] = 0 := rfl
  induction hRetries with
  | exhausted =>
      have hLe := UInt64.le_iff_toNat_le.mp hWithin
      omega
  | accepted _ =>
      have hLe := UInt64.le_iff_toNat_le.mp hWithin
      omega
  | failed _ hAttempt =>
      have hLe := UInt64.le_iff_toNat_le.mp hWithin
      have hOnce := spent_le_of_attempt (R := R) hAttempt
        unpaid_retryReasonHeader hCap
      omega
  | answered _ hAttempt _ ih =>
      have hSpent : R.spent _ = 0 :=
        hAttempt.free_spec unpaid_retryReasonHeader
      have hRest := ih hWithin
      rw [PaymentReader.spent_append, hSpent]
      omega
  | overspent _ hAttempt _ =>
      have hLe := UInt64.le_iff_toNat_le.mp hWithin
      have hOnce := spent_le_of_attempt (R := R) hAttempt
        unpaid_retryReasonHeader hCap
      omega
  | @paid _ _ _ total amount es rest _ _ hAttempt hOk _ ih =>
      rcases hAttempt.paid_spec (R := R)
          unpaid_retryReasonHeader with
        ⟨_, _, _, _, _, _, hSpent⟩
      have hStill := (checkBudget_eq_ok_iff hCap).mp hOk
      have hExact := toNat_saturatingAdd_of_le hStill hBelow
      have hRest := ih hStill
      rw [PaymentReader.spent_append, hSpent]
      omega

/- A conversation spends at most the maximum twice. -/
theorem Conversation.spent_le
    {es : List Exchange}
    {r : Except ClientError ChatResponse}
    (hTalk : Conversation client url req es r)
    (hCap : client.config.maxPaymentAmount = some cap)
    (hBelow : cap < maxU64) :
    R.spent es ≤ 2 * cap.toNat := by
  cases hTalk with
  | failed hAttempt =>
      have hOnce := spent_le_of_attempt (R := R) hAttempt
        unpaid_nil hCap
      omega
  | unchecked _ hAttempt =>
      have hOnce := spent_le_of_attempt (R := R) hAttempt
        unpaid_nil hCap
      omega
  | @checked es rest response amount _ _ hAttempt hRetries =>
      have hSpent :
          R.spent es = (amount.getD 0).toNat := by
        cases amount with
        | none => exact hAttempt.free_spec unpaid_nil
        | some amount =>
            rcases hAttempt.paid_spec (R := R) unpaid_nil with
              ⟨_, _, _, _, _, _, hSpent⟩
            exact hSpent
      have hOnce := spent_le_of_attempt (R := R) hAttempt
        unpaid_nil hCap
      have hWithin : amount.getD 0 ≤ cap := by
        rw [hSpent] at hOnce
        exact UInt64.le_iff_toNat_le.mpr hOnce
      have hRest :=
        hRetries.spent_le (R := R) hCap hBelow hWithin
      rw [PaymentReader.spent_append, hSpent]
      exact hRest

/- Exchanges of which only the last one pays. -/
theorem spent_le_of_last
    {before : List Exchange}
    {payment : Exchange}
    {required : PaymentRequired}
    {amount : UInt64}
    {header : String}
    (hBefore : ∀ e ∈ before, e.request.payments = [])
    (hPaid : payment.request.payments = [header])
    (hSigns : Signs client required amount header)
    (hCap : client.config.maxPaymentAmount = some cap) :
    R.spent (before ++ [payment]) ≤ cap.toNat := by
  rw [PaymentReader.spent_append,
    PaymentReader.spent_of_unpaid hBefore,
    PaymentReader.spent_singleton hPaid,
    PaymentReader.amountOf_of_signs hSigns, Nat.zero_add]
  exact UInt64.le_iff_toNat_le.mp (hSigns.amount_le hCap)

/- Opening a stream spends at most the maximum. -/
theorem StreamAttempt.spent_le
    {es : List Exchange}
    {r : Except ClientError
      (List (Except ClientError X.ChatChunk))}
    (hAttempt : StreamAttempt client url req es r)
    (hCap : client.config.maxPaymentAmount = some cap) :
    R.spent es ≤ cap.toNat := by
  cases hAttempt with
  | failed hProbe _ =>
      rw [PaymentReader.spent_of_unpaid
        (payments_eq_nil_of_unpaid
          (hProbe.payments_eq_nil unpaid_nil) (by simp))]
      exact Nat.zero_le _
  | opened hProbe _ hOpening =>
      rw [PaymentReader.spent_of_unpaid]
      · exact Nat.zero_le _
      · intro e hMem
        rcases List.mem_pair.mp hMem with rfl | rfl
        · exact hProbe.payments_eq_nil unpaid_nil
        · exact hOpening.payments_eq_nil unpaid_nil
  | refused hProbe _ hRpcs =>
      rw [PaymentReader.spent_of_unpaid
        (payments_eq_nil_of_unpaid
          (hProbe.payments_eq_nil unpaid_nil) hRpcs)]
      exact Nat.zero_le _
  | paid hProbe _ hRpcs hSigns hPayment =>
      exact spent_le_of_last
        (payments_eq_nil_of_unpaid
          (hProbe.payments_eq_nil unpaid_nil) hRpcs)
        hPayment.payments_eq_singleton hSigns hCap

/- So does forwarding a request. -/
theorem ProxyAttempt.spent_le
    {state : ProxyState X}
    {request : CallerRequest}
    {es : List Exchange}
    (hAttempt : ProxyAttempt state request es)
    (hCap : state.client.config.maxPaymentAmount = some cap) :
    R.spent es ≤ cap.toNat := by
  cases hAttempt with
  | unpaid hProbe hRpcs =>
      rw [PaymentReader.spent_of_unpaid
        (payments_eq_nil_of_unpaid
          (by rw [hProbe.request]
              exact payments_forwardHeaders) hRpcs)]
      exact Nat.zero_le _
  | @paid probe payment _ rpcs _ header hProbe _ hRpcs hSigns
      hPayment =>
      have hBefore :
          ∀ e ∈ probe :: rpcs, e.request.payments = [] := by
        apply payments_eq_nil_of_unpaid _ hRpcs
        rw [hProbe.request]
        exact payments_forwardHeaders
      have hPaid : payment.request.payments = [header] := by
        rw [hPayment.request]
        exact payments_forwardHeaders.trans
          payments_paymentSignature
      exact spent_le_of_last hBefore hPaid hSigns hCap

end Solvela

------------------------------------------------------------
-- What A Run Spends
------------------------------------------------------------

namespace Solvela

open Dialogues Transitions

variable {X : Crates} {ι : Type}
variable {R : PaymentReader X}
variable {client : SolvelaClient X}
variable {cap : UInt64}

/-
  What a call can spend: a chat call whose answer may be
  rejected, twice the maximum; the monitor, nothing.
-/
def Call.mostSpent
    (config : ClientConfig)
    (cap : UInt64) : Call → Nat
| .chat _ =>
    if config.enableQualityCheck &&
        decide (0 < config.maxQualityRetries) then
      2 * cap.toNat
    else
      cap.toNat
| .chatStream _ => cap.toNat
| .proxied _ _ => cap.toNat
| .monitored _ _ _ => 0

/- A chat call spends at most what it can. -/
theorem spent_le_of_conversation
    {url : String}
    {req sent : ChatRequest}
    {es : List Exchange}
    {r : Except ClientError ChatResponse}
    (hTalk : Conversation client url sent es r)
    (hCap : client.config.maxPaymentAmount = some cap)
    (hBelow : cap < maxU64) :
    R.spent es ≤
      (Call.chat req).mostSpent client.config cap := by
  unfold Call.mostSpent
  by_cases hRetries :
      (client.config.enableQualityCheck &&
        decide (0 < client.config.maxQualityRetries)) = true
  · rw [if_pos hRetries]
    exact hTalk.spent_le hCap hBelow
  · rw [if_neg hRetries]
    apply spent_le_of_no_retries hTalk hCap
    cases hCheck : client.config.enableQualityCheck with
    | false => exact Or.inl rfl
    | true =>
        right
        simpa [hCheck] using hRetries

theorem spent_le_of_yields
    {call : Call}
    {es : List Accessed}
    {result : CallResult X}
    (hYields : Yields (call.dialogue client) es result)
    (hCap : client.config.maxPaymentAmount = some cap)
    (hBelow : cap < maxU64) :
    R.spent (sentIn es) ≤
      call.mostSpent client.config cap := by
  cases call with
  | chat req =>
      rcases yields_map.mp hYields with ⟨r, hChat, _⟩
      rcases Concurrent.sentIn_chat hChat with
        hNone | ⟨sent, hTalk⟩
      · rw [hNone]
        exact Nat.zero_le _
      · exact spent_le_of_conversation hTalk hCap hBelow
  | chatStream req =>
      rcases yields_map.mp hYields with ⟨r, hStream, _⟩
      rcases Concurrent.sentIn_chatStream hStream with
        ⟨sent, hAttempt⟩
      exact hAttempt.spent_le hCap
  | proxied gatewayUrl request =>
      exact (proxyAttempt_of_proxied hYields).spent_le hCap
  | monitored monitor ata rounds =>
      rcases yields_map.mp hYields with ⟨r, hRounds, _⟩
      rw [PaymentReader.spent_of_unpaid
        (fun e hMem => (Concurrent.sentIn_monitorRounds
          hRounds e hMem).2)]
      exact Nat.le_refl 0

/- A call that did not come to its end spent no more. -/
theorem spent_le_of_plays
    {call : Call}
    {es : List Accessed}
    {rest : Program (CallResult X)}
    (hPlays : Plays (call.dialogue client) es rest)
    (hCap : client.config.maxPaymentAmount = some cap)
    (hBelow : cap < maxU64) :
    R.spent (sentIn es) ≤
      call.mostSpent client.config cap := by
  rcases hPlays.completes someAnswer with
    ⟨later, result, hYields⟩
  have hAll := spent_le_of_yields (R := R) hYields hCap hBelow
  rw [sentIn_append, PaymentReader.spent_append] at hAll
  exact (Nat.le_add_right _ _).trans hAll

theorem spent_sentIn
    (es : List Accessed) :
    R.spent (sentIn es) =
      (es.map (fun e => R.spent (sentIn [e]))).sum := by
  induction es with
  | nil => rfl
  | cons e es ih =>
      have hSplit :
          sentIn (e :: es) = sentIn [e] ++ sentIn es :=
        sentIn_append [e] es
      rw [hSplit, PaymentReader.spent_append, ih,
        List.map_cons, List.sum_cons]

/- What is spent in all is the sum of what each call spends. -/
theorem spent_eq_sum_own
    [DecidableEq ι]
    [Fintype ι]
    (ls : List (ι × Accessed)) :
    R.spent (sentIn (ls.map Prod.snd)) =
      ∑ i, R.spent (sentIn (ownPart i ls)) := by
  have hSum :=
    sum_eq_sum_ownPart (fun e => R.spent (sentIn [e])) ls
  rw [spent_sentIn, List.map_map]
  calc
    (ls.map (fun l => R.spent (sentIn [l.2]))).sum
    _ = ∑ i, ((ownPart i ls).map
          (fun e => R.spent (sentIn [e]))).sum := hSum
    _ = ∑ i, R.spent (sentIn (ownPart i ls)) := by
      apply Finset.sum_congr rfl
      intro i _
      exact (spent_sentIn (ownPart i ls)).symm

/-
  Calls that share a client never spend more than the sum of
  what each could spend alone, at any moment of any
  interleaving, though they share no budget.
-/
theorem interleaved_spending_le
    [DecidableEq ι]
    [Fintype ι]
    (R : PaymentReader X)
    (client : SolvelaClient X)
    (cap : UInt64)
    (hCap : client.config.maxPaymentAmount = some cap)
    (hBelow : cap < maxU64)
    (world : World X)
    (calls : ι → Call)
    (ls : List (ι × Accessed))
    (p : Pool (World X) ι SharedAccess SharedAccess.Answer
      (CallResult X))
    (hRun :
      LabelledRun (PoolStep Accesses)
        (startPool client world calls) ls p) :
    ∃ es, p.shared.trace = world.trace ++ es ∧
      R.spent es ≤
        ∑ i, (calls i).mostSpent client.config cap := by
  refine ⟨_, trace_of_accesses (acts_of_run hRun), ?_⟩
  rw [spent_eq_sum_own]
  apply Finset.sum_le_sum
  intro i _
  exact spent_le_of_plays (plays_of_run hRun i) hCap hBelow

/- Two calls at the default maximum, of which one pays. -/
theorem sample_spending_le :
    ∃ ls p es,
      LabelledRun (PoolStep Accesses)
          (startPool (sampleClient .default)
            (World.new .default 0)
            (fun _ : Bool => .chat sampleRequest)) ls p ∧
        p.shared.trace = es ∧
          (∃ e ∈ es, e.request.payments ≠ []) ∧
            sampleReader.spent es ≤ 20000000 := by
  rcases exists_sample_payment with
    ⟨ls, p, _, past, e, later, hRun, _, hSplit, hPaid⟩
  rcases interleaved_spending_le sampleReader
      (sampleClient .default) 10000000 rfl (by decide)
      (World.new .default 0)
      (fun _ : Bool => .chat sampleRequest) ls p hRun with
    ⟨es, hTrace, hSpent⟩
  rw [show (World.new (X := sampleCrates) .default 0).trace =
    [] from rfl, List.nil_append] at hTrace
  refine ⟨ls, p, es, hRun, hTrace, ⟨e, ?_, hPaid⟩, hSpent⟩
  have hRecord := trace_of_accesses (acts_of_run hRun)
  rw [← tagged_snd, hSplit] at hRecord
  rw [← hTrace, hRecord]
  exact List.mem_append_right _ (List.mem_map.mpr
    ⟨(true, e), List.mem_append_right _ List.mem_cons_self,
      rfl⟩)

end Solvela
