import Solvela.Client.Model

/-
  The balance monitor, which polls the balance and shares it
  with the client.

  Amounts are exact rationals: where the source multiplies a
  balance by a million in floating point before it stores it,
  the product is taken exactly here.  The callback is
  represented by the list of the amounts it was called with.

  Key definitions include:
    * `BalanceMonitor`
    * `BalanceMonitor.fetchBalance`
    * `BalanceMonitor.poll`
-/

------------------------------------------------------------
-- Monitors
------------------------------------------------------------

namespace Solvela

/- Why a poll has no reading. -/
inductive BalanceError where
  | rpcRequest (message : String)
  | httpStatus (status : Nat)
  | parseResponse (message : String)
  deriving DecidableEq

/-
  What a monitor is set up with.  Whether a callback is
  given is all that is kept of it.
-/
structure BalanceMonitor where
  rpcUrl : String
  walletAddress : String
  pollInterval : Nat
  lowBalanceThreshold : ℚ
  onLowBalance : Bool

/- What the polling loop carries from one poll to the next. -/
structure MonitorState where
  wasLow : Bool
  calls : List ℚ
  deriving DecidableEq

namespace BalanceMonitor

open Effects

variable {X : Crates}

/- A monitor with the default interval and threshold. -/
def new
    (rpcUrl walletAddress : String) : BalanceMonitor where
  rpcUrl := rpcUrl
  walletAddress := walletAddress
  pollInterval := durationFromSecs 30
  lowBalanceThreshold := 1 / 10
  onLowBalance := false

/- The balance that the response of the endpoint carries. -/
def readBalance
    (X : Crates)
    (resp : HttpResponse) : Except BalanceError ℚ :=
  if resp.isSuccess then do
    let text ← resp.body.mapError (fun e =>
      BalanceError.parseResponse e.message)
    let json ← (X.valueFromStr text).mapError
      BalanceError.parseResponse
    pure (SolvelaClient.readUiAmount json)
  else
    .error (.httpStatus resp.status)

/- Ask the endpoint for the balance of the account. -/
def fetchBalance
    (monitor : BalanceMonitor)
    (env : Env)
    (ata : Pubkey) : Prog X BalanceError ℚ :=
  exchange env .rpc
    (SolvelaClient.balanceRequest X monitor.rpcUrl ata)
    (fun e => .rpcRequest e.message) (readBalance X)

/- The state before the first poll. -/
def started : MonitorState where
  wasLow := false
  calls := []

/-
  One round of the loop.  A failed poll changes nothing.  The
  callback is called when the balance becomes low.
-/
def poll
    (monitor : BalanceMonitor)
    (env : Env)
    (ata : Pubkey)
    (state : MonitorState) : Prog X Empty MonitorState := do
  let result ← attempt (monitor.fetchBalance env ata)
  match result with
  | .error _ => pure state
  | .ok uiAmount => do
      modify (fun world =>
        { world with
          balanceState := castU64 (uiAmount * 1000000) })
      let isLow :=
        decide (uiAmount < monitor.lowBalanceThreshold)
      pure
        { wasLow := isLow
          calls :=
            if isLow && !state.wasLow &&
                monitor.onLowBalance then
              state.calls ++ [uiAmount]
            else
              state.calls }

/- The account to poll, if the addresses are valid. -/
def monitoredAccount
    (X : Crates)
    (monitor : BalanceMonitor) : Except String Pubkey := do
  let owner ← X.pubkeyFromStr monitor.walletAddress
  let mint ← X.pubkeyFromStr X.usdcMint
  pure (associatedTokenAddress X owner mint)

end BalanceMonitor

end Solvela
