import Solvela.Client.Charging
import Solvela.Proxy.Forwarding

/-
  How forwarded requests announce their bodies.

  The proxy forwards the length that the caller announced,
  whatever the method, but attaches the body for three
  methods only.  Of any other method it announces bytes that
  it does not send, unless the body is too large for it.

  Main declarations:
    * `Framed`, `CallerFramed`
    * `bodyRefusal_isSome_iff`
    * `ProxyAttempt.forwards`
    * `Forwards.framed_iff`
    * `forwarding_framed_iff`
-/

------------------------------------------------------------
-- Announced Lengths
------------------------------------------------------------

namespace Solvela

/- The bytes of a body that is attached as it is. -/
def Body.attached : Body → Option (List UInt8)
| .empty => some []
| .bytes content => some content
| .chat _ => none
| .json _ => none

/- A header that announces the length of the body. -/
def AnnouncesLength
    (name : String) : Prop :=
  lowercase name = "content-length"

/-
  Every announced length, read by `lengthOf`, is that of the
  attached body.
-/
def Framed
    (lengthOf : String → Option Nat)
    (request : HttpRequest) : Prop :=
  ∃ content, request.body.attached = some content ∧
    ∀ header ∈ request.headers, AnnouncesLength header.1 →
      lengthOf header.2 = some content.length

/- Every length that the caller announces is the right one. -/
def CallerFramed
    (X : Crates)
    (lengthOf : String → Option Nat)
    (request : CallerRequest) : Prop :=
  ∀ header ∈ request.headers, AnnouncesLength header.1 →
    ∃ text, X.headerValueToStr header.2 = some text ∧
      lengthOf text = some request.body.length

/- The methods whose body is attached. -/
def AttachesBody
    (request : CallerRequest) : Prop :=
  request.method = "POST" ∨ request.method = "PUT" ∨
    request.method = "PATCH"

/- Nothing is announced that is not sent. -/
def AnnouncesWhatItSends
    (request : CallerRequest) : Prop :=
  AttachesBody request ∨ request.body = [] ∨
    ∀ header ∈ request.headers, ¬ AnnouncesLength header.1

/- A length as its decimal digits say. -/
def decimalLength
    (text : String) : Option Nat :=
  (parseU64 text).toOption.map UInt64.toNat

/-
  A body whose length is announced rightly, if it is, is
  refused exactly when it is above the extractor's limit.
-/
theorem bodyRefusal_isSome_iff
    {X : Crates}
    {request : CallerRequest}
    (hCaller : CallerFramed X decimalLength request) :
    (bodyRefusal X request).isSome ↔
      extractorBodyLimit < request.body.length := by
  have hAnnounced :
      ∀ length, announcedLength X request = some length →
        length = request.body.length := by
    intro length hLength
    rcases Option.bind_eq_some_iff.mp hLength with
      ⟨header, hFound, hRest⟩
    rcases Option.bind_eq_some_iff.mp hRest with
      ⟨text, hText, hParsed⟩
    have hName : AnnouncesLength header.1 := by
      simpa [AnnouncesLength] using List.find?_some hFound
    rcases hCaller header (List.mem_of_find?_eq_some hFound)
        hName with
      ⟨text', hText', hRead⟩
    rw [hText] at hText'
    cases hText'
    rcases Option.bind_eq_some_iff.mp hParsed with
      ⟨value, hValue, hSame⟩
    unfold decimalLength at hRead
    rw [hValue] at hRead
    cases hSame
    exact Option.some.inj hRead
  have hLimits : extractorBodyLimit < maxBodySize := by decide
  unfold bodyRefusal
  cases hLength : announcedLength X request with
  | none =>
      by_cases hLong :
          extractorBodyLimit < request.body.length
      · simp [hLong, hLimits.le]
      · simp [hLong, hLimits.le]
  | some length =>
      rw [hAnnounced length hLength]
      by_cases hLong :
          extractorBodyLimit < request.body.length
      · by_cases hLonger : maxBodySize < request.body.length
        · simp [hLong, hLonger]
        · simp [hLong, hLonger]
      · have hNot : ¬ maxBodySize < request.body.length := by
          omega
        simp [hLong, hNot]

theorem not_announcesLength_paymentSignature :
    ¬ AnnouncesLength paymentSignature := by
  unfold AnnouncesLength
  rw [lowercase_paymentSignature]
  decide

end Solvela

------------------------------------------------------------
-- Forwarded Lengths
------------------------------------------------------------

namespace Solvela

variable {X : Crates}
variable {state : ProxyState X}
variable {request : CallerRequest}

/- The length of the body that is attached. -/
def sentLength
    (request : CallerRequest) : Nat :=
  if request.method = "POST" ∨ request.method = "PUT" ∨
      request.method = "PATCH" then
    request.body.length
  else
    0

/- A forwarded body is attached as it is. -/
theorem attached_forwarded
    (state : ProxyState X)
    (request : CallerRequest)
    (extra : List Header) :
    ∃ content,
      (state.forwarded request extra).body.attached =
          some content ∧
        content.length = sentLength request := by
  unfold ProxyState.forwarded sentLength
  by_cases hAttached :
      request.method = "POST" ∨ request.method = "PUT" ∨
        request.method = "PATCH"
  · rw [if_pos hAttached, if_pos hAttached]
    exact ⟨_, rfl, rfl⟩
  · rw [if_neg hAttached, if_neg hAttached]
    exact ⟨_, rfl, rfl⟩

/- A forwarded length that is right was announced right. -/
theorem Forwards.announces_of_framed
    {lengthOf : String → Option Nat}
    (hCaller : CallerFramed X lengthOf request)
    {extra : List Header}
    {e : Exchange}
    (hForwards : Forwards state request extra e)
    (hFramed : Framed lengthOf e.request) :
    AnnouncesWhatItSends request := by
  rcases attached_forwarded state request extra with
    ⟨content, hContent, hLength⟩
  rw [hForwards.request] at hFramed
  rcases hFramed with ⟨sent, hSent, hAnnounced⟩
  rw [hContent] at hSent
  cases hSent
  unfold AnnouncesWhatItSends
  by_contra hNot
  rw [not_or, not_or] at hNot
  rcases hNot with ⟨hDetached, hBody, hSome⟩
  push Not at hSome
  rcases hSome with ⟨given, hMem, hName⟩
  rcases hCaller given hMem hName with ⟨text, hText, hRead⟩
  have hForwarded :
      (given.1, text) ∈ forwardHeaders X request.headers := by
    apply mem_forwardHeaders_iff.mpr
    refine ⟨?_, given, hMem, rfl, hText⟩
    rw [show lowercase given.1 = "content-length" from hName]
    decide
  have hSame :=
    hAnnounced _ (List.mem_append_left _ hForwarded) hName
  have hNothing : sentLength request = 0 :=
    if_neg hDetached
  rw [hRead, hLength, hNothing, Option.some.injEq,
    List.length_eq_zero_iff] at hSame
  exact hBody hSame

/- A length that was announced right stays right. -/
theorem Forwards.framed_of_announces
    {lengthOf : String → Option Nat}
    (hCaller : CallerFramed X lengthOf request)
    {extra : List Header}
    (hExtra : ∀ header ∈ extra, header.1 = paymentSignature)
    {e : Exchange}
    (hForwards : Forwards state request extra e)
    (hSends : AnnouncesWhatItSends request) :
    Framed lengthOf e.request := by
  rcases attached_forwarded state request extra with
    ⟨content, hContent, hLength⟩
  rw [hForwards.request]
  refine ⟨content, hContent, ?_⟩
  intro header hMem hName
  rcases List.mem_append.mp hMem with hOwn | hAdded
  · rcases mem_forwardHeaders_iff.mp hOwn with
      ⟨_, given, hGiven, hSame, hText⟩
    rw [← hSame] at hName
    rcases hCaller given hGiven hName with
      ⟨text, hText', hRead⟩
    rw [hText] at hText'
    cases hText'
    rw [hRead, hLength]
    congr 1
    rcases hSends with hAttached | hEmpty | hNone
    · exact (if_pos hAttached).symm
    · unfold sentLength
      rw [hEmpty]
      simp
    · exact absurd hName (hNone given hGiven)
  · rw [hExtra header hAdded] at hName
    exact absurd hName not_announcesLength_paymentSignature

/-
  A forwarded request is framed if and only if the length
  that the caller announced is the length that is sent.
-/
theorem Forwards.framed_iff
    {lengthOf : String → Option Nat}
    (hCaller : CallerFramed X lengthOf request)
    {extra : List Header}
    (hExtra : ∀ header ∈ extra, header.1 = paymentSignature)
    {e : Exchange}
    (hForwards : Forwards state request extra e) :
    Framed lengthOf e.request ↔
      AnnouncesWhatItSends request :=
  ⟨hForwards.announces_of_framed hCaller,
    hForwards.framed_of_announces hCaller hExtra⟩

/- The first request is forwarded, and so are all others. -/
theorem ProxyAttempt.forwards
    {es : List Exchange}
    (hAttempt : ProxyAttempt state request es) :
    (∃ first ∈ gatewayExchanges es,
        Forwards state request [] first) ∧
      ∀ e ∈ gatewayExchanges es, ∃ extra,
        (∀ header ∈ extra, header.1 = paymentSignature) ∧
          Forwards state request extra e := by
  cases hAttempt with
  | @unpaid probe rpcs hProbe hRpcs =>
      rw [gatewayExchanges_of_unpaid hProbe.peer hRpcs]
      refine ⟨⟨probe, List.mem_cons_self, hProbe⟩, ?_⟩
      intro e hMem
      rw [List.mem_singleton.mp hMem]
      exact ⟨[], by simp, hProbe⟩
  | @paid probe payment _ rpcs _ header hProbe _ hRpcs _
      hPayment =>
      rw [gatewayExchanges_of_paid hProbe.peer hRpcs
        hPayment.peer]
      refine ⟨⟨probe, List.mem_cons_self, hProbe⟩, ?_⟩
      intro e hMem
      rcases List.mem_cons.mp hMem with hFirst | hSecond
      · rw [hFirst]
        exact ⟨[], by simp, hProbe⟩
      · rw [List.mem_singleton.mp hSecond]
        exact ⟨_, by simp, hPayment⟩

end Solvela

------------------------------------------------------------
-- When Requests Are Framed
------------------------------------------------------------

namespace Solvela

open Effects

variable {X : Crates}

/- A refused body ends the matter, any other is handled. -/
theorem ProxyState.runs_buildProxyRouter
    {state : ProxyState X}
    {env : Env}
    {request : CallerRequest}
    {world world' : World X}
    {r : Except Empty ProxyResponse}
    (hRun :
      Runs (state.buildProxyRouter env request) world r
        world') :
    ((bodyRefusal X request).isSome ∧ world' = world) ∨
      bodyRefusal X request = none ∧
        Runs (state.proxyHandler env request) world r
          world' := by
  unfold ProxyState.buildProxyRouter at hRun
  cases hRefusal : bodyRefusal X request with
  | some text =>
      rw [hRefusal] at hRun
      exact Or.inl ⟨rfl, (runs_pure.mp hRun).2⟩
  | none =>
      rw [hRefusal] at hRun
      exact Or.inr ⟨rfl, hRun⟩

/-
  For every request of a caller that announces its length
  rightly and however the peers reply: all that the proxy
  sends to the gateway is framed exactly when the body is
  refused, so that nothing is sent, or the method has its
  body attached, or the body is empty, or no length was
  announced.
-/
theorem forwarding_framed_iff
    (lengthOf : String → Option Nat)
    (state : ProxyState X)
    (env : Env)
    (request : CallerRequest)
    (hCaller : CallerFramed X lengthOf request)
    (world world' : World X)
    (r : Except Empty ProxyResponse)
    (hRun :
      Runs (state.buildProxyRouter env request) world r
        world')
    (es : List Exchange)
    (hSent : world'.trace = world.trace ++ es) :
    (∀ e ∈ gatewayExchanges es, Framed lengthOf e.request) ↔
      (bodyRefusal X request).isSome ∨
        AnnouncesWhatItSends request := by
  rcases ProxyState.runs_buildProxyRouter hRun with
    ⟨hRefused, rfl⟩ | ⟨hServed, hRun⟩
  · have hNone : es = [] :=
      List.append_right_eq_self.mp hSent.symm
    rw [hNone]
    constructor
    · intro _
      exact Or.inl hRefused
    · intro _ e hNo
      cases hNo
  · rcases ProxyState.proxyHandler_spec hRun with
      ⟨es', _, rfl, hAttempt, _, _⟩
    cases List.append_cancel_left hSent
    rcases hAttempt.forwards with
      ⟨⟨first, hFirst, hProbe⟩, hAll⟩
    rw [hServed]
    constructor
    · intro hFramed
      exact Or.inr ((hProbe.framed_iff hCaller
        (fun header hNo => absurd hNo (by simp))).mp
        (hFramed first hFirst))
    · rintro (hNo | hSends) e hMem
      · cases hNo
      · rcases hAll e hMem with ⟨extra, hExtra, hForwards⟩
        exact (hForwards.framed_iff hCaller hExtra).mpr hSends

/- A proxy with the sample client. -/
def sampleProxy : ProxyState sampleCrates where
  client := sampleClient ClientConfig.default
  gatewayUrl := "gateway"

/- A request with a body of two bytes and its length. -/
def requestWithBody
    (method : String) : CallerRequest where
  method := method
  pathAndQuery := none
  headers := [("content-length", Delimited.utf8Bytes "2")]
  body := Delimited.utf8Bytes "{}"

theorem requestWithBody_framed
    (method : String) :
    CallerFramed sampleCrates decimalLength
      (requestWithBody method) := by
  have hLength :
      decimalLength "2" =
        some (Delimited.utf8Bytes "{}").length := by
    decide
  intro header hMem _
  rw [List.mem_singleton.mp hMem]
  exact ⟨"2", by decide, hLength⟩

/- A body of two bytes is not refused. -/
theorem bodyRefusal_requestWithBody
    (method : String) :
    bodyRefusal sampleCrates (requestWithBody method) =
      none := by
  have hShort :
      ¬ (bodyRefusal sampleCrates
        (requestWithBody method)).isSome := by
    rw [bodyRefusal_isSome_iff (requestWithBody_framed method)]
    exact (by decide :
      ¬ extractorBodyLimit < (Delimited.utf8Bytes "{}").length)
  exact Option.not_isSome_iff_eq_none.mp hShort

/- So the handler gets it, and forwards it at least once. -/
theorem exists_served
    (state : ProxyState sampleCrates)
    (env : Env)
    (method : String)
    (world : World sampleCrates) :
    ∃ es response,
      Runs
          (state.buildProxyRouter env (requestWithBody method))
          world (.ok response) (world.extend es) ∧
        ∃ first ∈ gatewayExchanges es,
          Forwards state (requestWithBody method) [] first := by
  rcases exists_runs
      (state.proxyHandler env (requestWithBody method)) world
    with ⟨r, world', hRun⟩
  rcases ProxyState.proxyHandler_spec hRun with
    ⟨es, response, rfl, hAttempt, rfl, _⟩
  refine ⟨es, response, ?_, hAttempt.forwards.1⟩
  unfold ProxyState.buildProxyRouter
  rw [bodyRefusal_requestWithBody]
  exact hRun

/- A posted request is framed. -/
theorem forwarding_framed_post :
    ∃ es response,
      Runs
          (sampleProxy.buildProxyRouter sampleEnv
            (requestWithBody "POST"))
          (World.new ClientConfig.default 0) (.ok response)
          ((World.new ClientConfig.default 0).extend es) ∧
        gatewayExchanges es ≠ [] ∧
          ∀ e ∈ gatewayExchanges es,
            Framed decimalLength e.request := by
  have hFrom :
      ∀ (state : ProxyState sampleCrates)
        (world : World sampleCrates), ∃ es response,
        Runs
            (state.buildProxyRouter sampleEnv
              (requestWithBody "POST"))
            world (.ok response) (world.extend es) ∧
          gatewayExchanges es ≠ [] ∧
            ∀ e ∈ gatewayExchanges es,
              Framed decimalLength e.request := by
    intro state world
    rcases exists_served state sampleEnv "POST" world with
      ⟨es, response, hRun, first, hFirst, _⟩
    exact ⟨es, response, hRun, List.ne_nil_of_mem hFirst,
      (forwarding_framed_iff decimalLength state sampleEnv
        (requestWithBody "POST")
        (requestWithBody_framed "POST") world
        (world.extend es) _ hRun es rfl).mpr
        (Or.inr (Or.inl (Or.inl rfl)))⟩
  exact hFrom sampleProxy (World.new ClientConfig.default 0)

/- A deleting request announces two bytes and sends none. -/
theorem delete_not_framed :
    CallerFramed sampleCrates decimalLength
        (requestWithBody "DELETE") ∧
      ∃ es response,
        Runs
            (sampleProxy.buildProxyRouter sampleEnv
              (requestWithBody "DELETE"))
            (World.new ClientConfig.default 0) (.ok response)
            ((World.new ClientConfig.default 0).extend es) ∧
          ∃ e ∈ gatewayExchanges es,
            ¬ Framed decimalLength e.request := by
  have hMisleads :
      ¬ AnnouncesWhatItSends (requestWithBody "DELETE") := by
    unfold AnnouncesWhatItSends AttachesBody AnnouncesLength
    rintro (hAttached | hEmpty | hNone)
    · revert hAttached
      decide
    · revert hEmpty
      decide
    · exact hNone _ List.mem_cons_self (by decide)
  have hFrom :
      ∀ (state : ProxyState sampleCrates)
        (world : World sampleCrates), ∃ es response,
        Runs
            (state.buildProxyRouter sampleEnv
              (requestWithBody "DELETE"))
            world (.ok response) (world.extend es) ∧
          ∃ e ∈ gatewayExchanges es,
            ¬ Framed decimalLength e.request := by
    intro state world
    rcases exists_served state sampleEnv "DELETE" world with
      ⟨es, response, hRun, first, hFirst, hProbe⟩
    refine ⟨es, response, hRun, first, hFirst, ?_⟩
    rw [hProbe.framed_iff (requestWithBody_framed "DELETE")
      (fun header hNo => absurd hNo (by simp))]
    exact hMisleads
  exact ⟨requestWithBody_framed "DELETE",
    hFrom sampleProxy (World.new ClientConfig.default 0)⟩

end Solvela
