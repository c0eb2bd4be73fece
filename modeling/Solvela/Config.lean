/-
  The configuration of a client.

  The timeout only bounds how long a reply may take; a reply
  that does not come in time is a network error.

  Key definitions include:
    * `ClientConfig`
    * `ClientConfig.default`
-/

------------------------------------------------------------
-- Client Configuration
------------------------------------------------------------

namespace Solvela

/- The default cap on one payment: 10 USDC in atomic units. -/
def defaultMaxPaymentAmountAtomic : UInt64 := 10000000

/-
  The configuration of a client.  Times are in
  nanoseconds.
-/
structure ClientConfig where
  gatewayUrl : String
  rpcUrl : String
  preferEscrow : Bool
  timeout : Nat
  expectedRecipient : Option String
  maxPaymentAmount : Option UInt64
  enableCache : Bool
  enableSessions : Bool
  sessionTtl : Nat
  enableQualityCheck : Bool
  maxQualityRetries : Nat
  freeFallbackModel : Option String

namespace ClientConfig

/- Times are in nanoseconds: three minutes and half an hour. -/
def default : ClientConfig where
  gatewayUrl := "http://localhost:8402"
  rpcUrl := "https://api.mainnet-beta.solana.com"
  preferEscrow := false
  timeout := 180000000000
  expectedRecipient := none
  maxPaymentAmount := some defaultMaxPaymentAmountAtomic
  enableCache := false
  enableSessions := false
  sessionTtl := 1800000000000
  enableQualityCheck := false
  maxQualityRetries := 1
  freeFallbackModel := none

end ClientConfig

end Solvela
