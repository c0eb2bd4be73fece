import Mathlib.Data.List.DropRight
import Solvela.Config

/-
  The builder of a configuration.

  A chain of calls sets some fields and leaves the others to
  the defaults.  What a chain builds is what its calls make
  of the default configuration, one after the other.

  Key definitions include:
    * `trimEndMatches`
    * `ClientBuilder`, `ClientBuilder.buildConfig`
    * `Setting`, `Setting.call`, `Setting.update`
    * `builder_updates_defaults`
-/

------------------------------------------------------------
-- Builders
------------------------------------------------------------

namespace Solvela

/- Remove all that is `c` at the end. -/
def trimEndMatches
    (c : Char)
    (text : String) : String :=
  String.ofList (text.toList.rdropWhile (fun d => d == c))

/- What was set so far. -/
structure ClientBuilder where
  gatewayUrl : Option String
  rpcUrl : Option String
  preferEscrow : Option Bool
  timeout : Option Nat
  expectedRecipient : Option String
  maxPaymentAmount : Option UInt64
  enableCache : Option Bool
  enableSessions : Option Bool
  sessionTtl : Option Nat
  enableQualityCheck : Option Bool
  maxQualityRetries : Option Nat
  freeFallbackModel : Option String

namespace ClientBuilder

/- Nothing is set. -/
def new : ClientBuilder where
  gatewayUrl := none
  rpcUrl := none
  preferEscrow := none
  timeout := none
  expectedRecipient := none
  maxPaymentAmount := none
  enableCache := none
  enableSessions := none
  sessionTtl := none
  enableQualityCheck := none
  maxQualityRetries := none
  freeFallbackModel := none

/- The gateway, without slashes at its end. -/
def setGatewayUrl
    (builder : ClientBuilder)
    (url : String) : ClientBuilder :=
  { builder with gatewayUrl := some (trimEndMatches '/' url) }

/- The endpoint of the chain. -/
def setRpcUrl
    (builder : ClientBuilder)
    (url : String) : ClientBuilder :=
  { builder with rpcUrl := some url }

/- Whether escrow is preferred. -/
def setPreferEscrow
    (builder : ClientBuilder)
    (prefer : Bool) : ClientBuilder :=
  { builder with preferEscrow := some prefer }

/- How long a request may take. -/
def setTimeout
    (builder : ClientBuilder)
    (timeout : Nat) : ClientBuilder :=
  { builder with timeout := some timeout }

/- The only recipient that may be paid. -/
def setExpectedRecipient
    (builder : ClientBuilder)
    (recipient : String) : ClientBuilder :=
  { builder with expectedRecipient := some recipient }

/- The most that a payment may be. -/
def setMaxPaymentAmount
    (builder : ClientBuilder)
    (max : UInt64) : ClientBuilder :=
  { builder with maxPaymentAmount := some max }

/- Whether answers are cached. -/
def setEnableCache
    (builder : ClientBuilder)
    (enable : Bool) : ClientBuilder :=
  { builder with enableCache := some enable }

/- Whether sessions are tracked. -/
def setEnableSessions
    (builder : ClientBuilder)
    (enable : Bool) : ClientBuilder :=
  { builder with enableSessions := some enable }

/- How long a session lives. -/
def setSessionTtl
    (builder : ClientBuilder)
    (ttl : Nat) : ClientBuilder :=
  { builder with sessionTtl := some ttl }

/- Whether degraded answers are retried. -/
def setEnableQualityCheck
    (builder : ClientBuilder)
    (enable : Bool) : ClientBuilder :=
  { builder with enableQualityCheck := some enable }

/- How often they are retried. -/
def setMaxQualityRetries
    (builder : ClientBuilder)
    (max : Nat) : ClientBuilder :=
  { builder with maxQualityRetries := some max }

/- The model for an empty wallet. -/
def setFreeFallbackModel
    (builder : ClientBuilder)
    (model : String) : ClientBuilder :=
  { builder with freeFallbackModel := some model }

/- Whatever was not set is as in the default. -/
def buildConfig
    (builder : ClientBuilder) : ClientConfig :=
  let defaults := ClientConfig.default
  { gatewayUrl :=
      builder.gatewayUrl.getD defaults.gatewayUrl
    rpcUrl := builder.rpcUrl.getD defaults.rpcUrl
    preferEscrow :=
      builder.preferEscrow.getD defaults.preferEscrow
    timeout := builder.timeout.getD defaults.timeout
    expectedRecipient :=
      builder.expectedRecipient.or defaults.expectedRecipient
    maxPaymentAmount :=
      builder.maxPaymentAmount.or defaults.maxPaymentAmount
    enableCache :=
      builder.enableCache.getD defaults.enableCache
    enableSessions :=
      builder.enableSessions.getD defaults.enableSessions
    sessionTtl := builder.sessionTtl.getD defaults.sessionTtl
    enableQualityCheck :=
      builder.enableQualityCheck.getD
        defaults.enableQualityCheck
    maxQualityRetries :=
      builder.maxQualityRetries.getD
        defaults.maxQualityRetries
    freeFallbackModel :=
      builder.freeFallbackModel.or
        defaults.freeFallbackModel }

end ClientBuilder

end Solvela

------------------------------------------------------------
-- Chains Of Calls
------------------------------------------------------------

namespace Solvela

/- One call on a builder. -/
inductive Setting where
  | gatewayUrl (url : String)
  | rpcUrl (url : String)
  | preferEscrow (prefer : Bool)
  | timeout (duration : Nat)
  | expectedRecipient (recipient : String)
  | maxPaymentAmount (max : UInt64)
  | enableCache (enable : Bool)
  | enableSessions (enable : Bool)
  | sessionTtl (ttl : Nat)
  | enableQualityCheck (enable : Bool)
  | maxQualityRetries (max : Nat)
  | freeFallbackModel (model : String)

namespace Setting

/- The setter of each setting. -/
def call
    (builder : ClientBuilder) : Setting → ClientBuilder
| .gatewayUrl url => builder.setGatewayUrl url
| .rpcUrl url => builder.setRpcUrl url
| .preferEscrow prefer => builder.setPreferEscrow prefer
| .timeout duration => builder.setTimeout duration
| .expectedRecipient recipient =>
    builder.setExpectedRecipient recipient
| .maxPaymentAmount max => builder.setMaxPaymentAmount max
| .enableCache enable => builder.setEnableCache enable
| .enableSessions enable => builder.setEnableSessions enable
| .sessionTtl ttl => builder.setSessionTtl ttl
| .enableQualityCheck enable =>
    builder.setEnableQualityCheck enable
| .maxQualityRetries max => builder.setMaxQualityRetries max
| .freeFallbackModel model =>
    builder.setFreeFallbackModel model

/- What the call is meant to do to a configuration. -/
def update
    (config : ClientConfig) : Setting → ClientConfig
| .gatewayUrl url =>
    { config with gatewayUrl := trimEndMatches '/' url }
| .rpcUrl url => { config with rpcUrl := url }
| .preferEscrow prefer =>
    { config with preferEscrow := prefer }
| .timeout duration => { config with timeout := duration }
| .expectedRecipient recipient =>
    { config with expectedRecipient := some recipient }
| .maxPaymentAmount max =>
    { config with maxPaymentAmount := some max }
| .enableCache enable => { config with enableCache := enable }
| .enableSessions enable =>
    { config with enableSessions := enable }
| .sessionTtl ttl => { config with sessionTtl := ttl }
| .enableQualityCheck enable =>
    { config with enableQualityCheck := enable }
| .maxQualityRetries max =>
    { config with maxQualityRetries := max }
| .freeFallbackModel model =>
    { config with freeFallbackModel := some model }

/- The amount that a call caps payments at. -/
def cap : Setting → Option UInt64
| .maxPaymentAmount max => some max
| _ => none

end Setting

/- The builder after some calls. -/
def ClientBuilder.after
    (builder : ClientBuilder)
    (calls : List Setting) : ClientBuilder :=
  calls.foldl Setting.call builder

/- The last cap that was set, or the default. -/
def capOf
    (calls : List Setting) : UInt64 :=
  (calls.reverse.findSome? Setting.cap).getD
    defaultMaxPaymentAmountAtomic

/- A call before building is an update after it. -/
theorem Setting.buildConfig_call
    (builder : ClientBuilder)
    (setting : Setting) :
    (setting.call builder).buildConfig =
      setting.update builder.buildConfig := by
  cases setting <;> rfl

theorem ClientBuilder.buildConfig_after
    (builder : ClientBuilder)
    (calls : List Setting) :
    (builder.after calls).buildConfig =
      calls.foldl Setting.update builder.buildConfig := by
  induction calls generalizing builder with
  | nil => rfl
  | cons setting calls ih =>
      have hNext := ih (setting.call builder)
      rw [Setting.buildConfig_call] at hNext
      exact hNext

/- The maximum is always set: no call takes it away. -/
theorem maxPaymentAmount_updates
    (calls : List Setting) :
    (calls.foldl Setting.update
        ClientConfig.default).maxPaymentAmount =
      some (capOf calls) := by
  induction calls using List.reverseRecOn with
  | nil => rfl
  | append_singleton calls setting ih =>
      rw [List.foldl_append]
      unfold capOf at ih ⊢
      rw [List.reverse_append]
      cases setting with
      | maxPaymentAmount max => rfl
      | _ => exact ih

/- What was trimmed does not end in a slash. -/
theorem trimEndMatches_last
    (c : Char)
    (text : String) :
    ∀ d, (trimEndMatches c text).toList.getLast? = some d →
      d ≠ c := by
  intro d hLast hSame
  unfold trimEndMatches at hLast
  rw [String.toList_ofList] at hLast
  have hNotNil :
      text.toList.rdropWhile (fun d => d == c) ≠ [] := by
    intro hNil
    rw [hNil] at hLast
    cases hLast
  rw [List.getLast?_eq_some_getLast hNotNil] at hLast
  have hNot := List.rdropWhile_last_not
    (fun d => d == c) text.toList hNotNil
  rw [Option.some.inj hLast, hSame] at hNot
  exact hNot (beq_self_eq_true c)

theorem gatewayUrl_updates
    (calls : List Setting) :
    ∀ d, (calls.foldl Setting.update
        ClientConfig.default).gatewayUrl.toList.getLast? =
          some d →
      d ≠ '/' := by
  induction calls using List.reverseRecOn with
  | nil =>
      intro d hLast
      cases hLast
      decide
  | append_singleton calls setting ih =>
      rw [List.foldl_append]
      cases setting with
      | gatewayUrl url => exact trimEndMatches_last '/' url
      | _ => exact ih

/-
  A chain of calls builds what its calls make of the defaults
  in turn.  Its gateway never ends in a slash, and payments
  stay capped: by the last maximum, or by the default one.
-/
theorem builder_updates_defaults
    (calls : List Setting) :
    let config := (ClientBuilder.new.after calls).buildConfig
    config = calls.foldl Setting.update ClientConfig.default ∧
      config.maxPaymentAmount = some (capOf calls) ∧
        ∀ d, config.gatewayUrl.toList.getLast? = some d →
          d ≠ '/' := by
  have hBuilt :
      (ClientBuilder.new.after calls).buildConfig =
        calls.foldl Setting.update ClientConfig.default :=
    ClientBuilder.buildConfig_after .new calls
  refine ⟨hBuilt, ?_, ?_⟩
  · rw [hBuilt]
    exact maxPaymentAmount_updates calls
  · rw [hBuilt]
    exact gatewayUrl_updates calls

end Solvela
