import Solvela.Cli.WalletHistory
import Solvela.Concurrent.Payments
import Solvela.Decimals

/-
  The start of the proxy, and what it then spends.

  The process loads the wallet, makes a client with what the
  arguments say, and binds its port, or ends.  Then it serves
  requests, any number of them at once.

  Main declarations:
    * `maxAtomic`, `ProxyArgs.config`
    * `startProxy`, `startProxy_eq_ok_iff`
    * `max_payment_is_exact`
    * `ProxyState.serving`, `PaysForOne`
    * `started_proxy_pays_as_told`
-/

------------------------------------------------------------
-- Arguments
------------------------------------------------------------

namespace Solvela

open Doubles

/- USDC in atomic units, of which there are a million. -/
def maxAtomic
    (maxUsdc : Float.Model) : UInt64 :=
  (roundAway (maxUsdc * Float.Model.ofNat 1000000)).toUInt64

example : maxAtomic (Float.Model.ofScientific 1 (-1)) =
    100000 := by
  decide

/- The arguments of the proxy. -/
structure ProxyArgs where
  wallet : WalletArgs
  gateway : String
  rpcUrl : String
  port : UInt16
  maxPayment : Option Float.Model
  expectedRecipient : Option String

namespace ProxyArgs

/- The configuration of its client. -/
def config
    (args : ProxyArgs) : ClientConfig :=
  { ClientConfig.default with
    gatewayUrl := trimEndMatches '/' args.gateway
    rpcUrl := args.rpcUrl
    maxPaymentAmount :=
      match args.maxPayment with
      | some maxUsdc => some (maxAtomic maxUsdc)
      | none => ClientConfig.default.maxPaymentAmount
    expectedRecipient :=
      match args.expectedRecipient with
      | some recipient => some recipient
      | none => ClientConfig.default.expectedRecipient }

/- The most that one payment may be. -/
def cap
    (args : ProxyArgs) : UInt64 :=
  match args.maxPayment with
  | some maxUsdc => maxAtomic maxUsdc
  | none => defaultMaxPaymentAmountAtomic

theorem config_cap
    (args : ProxyArgs) :
    args.config.maxPaymentAmount = some args.cap := by
  unfold config cap
  cases args.maxPayment <;> rfl

theorem config_recipient
    (args : ProxyArgs) :
    args.config.expectedRecipient =
      args.expectedRecipient := by
  unfold config
  cases args.expectedRecipient <;> rfl

end ProxyArgs

/-
  Whatever the notation, a maximum that is a whole number of
  atomic units is kept to the unit, though the float it is
  read as is hardly ever that number of USDC.
-/
theorem max_payment_is_exact
    (text : String)
    (d : Decimal)
    (hText : decimalFromStr text = some d)
    (k : Nat)
    (hWhole : d.value * 1000000 = k)
    (hSmall : k < 2 ^ 50) :
    ∃ maxUsdc, f64FromStr text = .ok maxUsdc ∧
      maxAtomic maxUsdc = UInt64.ofNat k := by
  refine ⟨d.nearest, f64FromStr_of_decimal hText, ?_⟩
  unfold Decimal.value at hWhole
  unfold maxAtomic Decimal.nearest
  cases hNegative : d.negative with
  | false =>
      rw [hNegative, if_neg Bool.false_ne_true, one_mul]
        at hWhole
      rw [if_neg Bool.false_ne_true]
      exact toUInt64_scaled (by decide) (by decide) hWhole
        hSmall
  | true =>
      -- Only zero is both negated and at least zero.
      rw [hNegative, if_pos rfl] at hWhole
      have hTen : (0 : ℚ) < 10 ^ d.exponent :=
        zpow_pos (by norm_num) _
      have hDigits : (0 : ℚ) ≤ d.digits := Nat.cast_nonneg _
      have hNone : (d.digits : ℚ) * 10 ^ d.exponent = 0 := by
        have hGe : (0 : ℚ) ≤ k := Nat.cast_nonneg k
        have hProduct :
            0 ≤ (d.digits : ℚ) * 10 ^ d.exponent :=
          mul_nonneg hDigits hTen.le
        linarith
      have hZero : d.digits = 0 := by
        rcases mul_eq_zero.mp hNone with hIs | hIs
        · exact_mod_cast hIs
        · exact absurd hIs hTen.ne'
      have hK : k = 0 := by
        rw [hNone, mul_zero, zero_mul] at hWhole
        exact_mod_cast hWhole.symm
      rw [if_pos rfl, hZero, hK, ofScientific_zero]
      rfl

/- A tenth is no float, and is a hundred thousand units. -/
theorem dime_is_exact :
    ∃ maxUsdc, f64FromStr "0.10" = .ok maxUsdc ∧
      maxAtomic maxUsdc = UInt64.ofNat 100000 :=
  max_payment_is_exact "0.10" ⟨false, 10, -2⟩ (by decide)
    100000 (by unfold Decimal.value; norm_num) (by decide)

end Solvela

------------------------------------------------------------
-- Starting
------------------------------------------------------------

namespace Solvela

open Files

/- What the process finds when it is started. -/
structure Launch extends Shell where
  bindError : (port : UInt16) → Option String

variable {X : Crates}

/- What is told of a wallet that cannot be loaded. -/
def walletHelp
    (args : WalletArgs)
    (e : String) : List String :=
  [s!"Error: {e}", "", "Provide a wallet via:",
    s!"  1. Set {args.walletEnv} env var with " ++
      "base58-encoded keypair",
    s!"  2. Create wallet file at {args.walletFile}"]

/-
  The state to serve requests with, or the lines printed
  before the process exits with 1.
-/
def startProxy
    (W : WalletCrates X)
    (launch : Launch)
    (args : ProxyArgs)
    (fs : FileSystem) : Except (List String) (ProxyState X) :=
  match Wallet.load W launch.host args.wallet fs with
  | .error e => .error (walletHelp args.wallet e)
  | .ok wallet =>
      let gatewayUrl := trimEndMatches '/' args.gateway
      match newClient launch.toShell wallet args.config with
      | .error _ => .error []
      | .ok client =>
          match launch.bindError args.port with
          | some _ => .error []
          | none =>
              .ok { client := client, gatewayUrl := gatewayUrl }

/- A proxy that starts has what its arguments say. -/
theorem startProxy_eq_ok_iff
    {W : WalletCrates X}
    {launch : Launch}
    {args : ProxyArgs}
    {fs : FileSystem}
    {state : ProxyState X} :
    startProxy W launch args fs = .ok state ↔
      launch.buildError args.config.timeout = none ∧
        launch.bindError args.port = none ∧
          ∃ wallet,
            Wallet.load W launch.host args.wallet fs =
                .ok wallet ∧
              state =
                { client :=
                    { wallet := wallet, config := args.config }
                  gatewayUrl :=
                    trimEndMatches '/' args.gateway } := by
  unfold startProxy newClient
  cases hLoaded :
      Wallet.load W launch.host args.wallet fs with
  | error e => simp
  | ok wallet =>
      cases hBuilt : launch.buildError args.config.timeout with
      | some e => simp
      | none =>
          cases hBound : launch.bindError args.port with
          | some e => simp
          | none => simp [eq_comm]

end Solvela

------------------------------------------------------------
-- Serving
------------------------------------------------------------

namespace Solvela

open Dialogues Transitions

variable {X : Crates} {ι : Type}
variable {R : PaymentReader X}
variable {args : ProxyArgs}
variable {state : ProxyState X}
variable {request : CallerRequest}

/-
  Some requests of callers, served at once: those that reach
  the handler.  One whose body is refused before it sends
  nothing.
-/
def ProxyState.serving
    (state : ProxyState X)
    (now : Nat)
    (requests : ι → CallerRequest) :
    Pool (World X) ι SharedAccess SharedAccess.Answer
      (CallResult X) :=
  startPool state.client (World.new state.client.config now)
    (fun i => .proxied state.gatewayUrl (requests i))

/-
  What was exchanged for one request is the beginning of an
  attempt to forward it.  There is at most one payment, which
  is within the maximum and goes where it should.
-/
structure PaysForOne
    (R : PaymentReader X)
    (args : ProxyArgs)
    (state : ProxyState X)
    (request : CallerRequest)
    (own : List Exchange) : Prop where
  attempt : ∃ later, ProxyAttempt state request (own ++ later)
  once : paymentCount own ≤ 1
  within : R.spent own ≤ args.cap.toNat
  signed : ∀ e ∈ own, ∀ header ∈ e.request.payments,
    ∃ required accept amount,
      SignedFor R state.client required accept amount
          header ∧
        amount ≤ args.cap ∧
          ∀ recipient,
            args.expectedRecipient = some recipient →
              accept.payTo = recipient

theorem ProxyAttempt.paymentCount_le_one
    {es : List Exchange}
    (hAttempt : ProxyAttempt state request es) :
    paymentCount es ≤ 1 := by
  cases hAttempt with
  | unpaid hProbe hRpcs =>
      rw [paymentCount_of_unpaid
        (payments_eq_nil_of_unpaid
          (by rw [hProbe.request]
              exact payments_forwardHeaders) hRpcs)]
      exact Nat.zero_le 1
  | @paid probe payment _ rpcs _ _ hProbe _ hRpcs _ _ =>
      have hBefore :
          paymentCount (probe :: rpcs) = 0 :=
        paymentCount_of_unpaid
          (payments_eq_nil_of_unpaid
            (by rw [hProbe.request]
                exact payments_forwardHeaders) hRpcs)
      have hAll :
          paymentCount (probe :: (rpcs ++ [payment])) =
            paymentCount (probe :: rpcs) +
              paymentCount [payment] :=
        paymentCount_append (probe :: rpcs) [payment]
      rw [hAll, hBefore, Nat.zero_add]
      exact List.countP_le_length

/- A request that is still being served has an attempt. -/
theorem exists_proxyAttempt_of_plays
    {es : List Accessed}
    {rest : Program (CallResult X)}
    (hPlays :
      Plays
        ((Call.proxied state.gatewayUrl request).dialogue
          state.client)
        es rest) :
    ∃ later,
      ProxyAttempt state request (sentIn es ++ later) := by
  rcases hPlays.completes someAnswer with
    ⟨later, result, hYields⟩
  have hAttempt := proxyAttempt_of_proxied hYields
  rw [sentIn_append] at hAttempt
  exact ⟨sentIn later, hAttempt⟩

/- The payments of an attempt are those of its beginning. -/
theorem paysForOne_of_attempt
    {own later : List Exchange}
    (hConfig : state.client.config = args.config)
    (hAttempt : ProxyAttempt state request (own ++ later)) :
    PaysForOne R args state request own := by
  have hCap :
      state.client.config.maxPaymentAmount = some args.cap := by
    rw [hConfig]
    exact args.config_cap
  refine ⟨⟨later, hAttempt⟩, ?_, ?_, ?_⟩
  · have hOnce := hAttempt.paymentCount_le_one
    rw [paymentCount_append] at hOnce
    exact (Nat.le_add_right _ _).trans hOnce
  · have hWithin := hAttempt.spent_le (R := R) hCap
    rw [PaymentReader.spent_append] at hWithin
    exact (Nat.le_add_right _ _).trans hWithin
  · intro e hMem header hPaid
    rcases hAttempt.honest.signs_of_mem
        (List.mem_append_left later hMem) hPaid with
      ⟨required, amount, hSigns⟩
    rcases hSigns.signedFor R with ⟨accept, hFor⟩
    refine ⟨required, accept, amount, hFor,
      hFor.capped _ hCap, ?_⟩
    intro recipient hExpected
    apply hFor.recipient
    rw [hConfig, args.config_recipient]
    exact hExpected

/-
  A proxy that was started serves any number of requests at
  once, in any order of turns.  What is paid for each of them
  is as its arguments say, and so is the sum of all.
-/
theorem started_proxy_pays_as_told
    [DecidableEq ι]
    [Fintype ι]
    (R : PaymentReader X)
    (W : WalletCrates X)
    (launch : Launch)
    (args : ProxyArgs)
    (fs : Files.FileSystem)
    (state : ProxyState X)
    (hStarted : startProxy W launch args fs = .ok state)
    (now : Nat)
    (requests : ι → CallerRequest)
    (ls : List (ι × Accessed))
    (p : Pool (World X) ι SharedAccess SharedAccess.Answer
      (CallResult X))
    (hRun :
      LabelledRun (PoolStep Accesses)
        (state.serving now requests) ls p) :
    p.shared.trace = (tagged ls).map Prod.snd ∧
      (∀ i, PaysForOne R args state (requests i)
        (ownPart i (tagged ls))) ∧
        R.spent p.shared.trace ≤
          Fintype.card ι * args.cap.toNat := by
  rcases startProxy_eq_ok_iff.mp hStarted with
    ⟨_, _, wallet, _, hState⟩
  have hConfig : state.client.config = args.config := by
    rw [hState]
  have hEach :
      ∀ i, PaysForOne R args state (requests i)
        (ownPart i (tagged ls)) := by
    intro i
    rcases exists_proxyAttempt_of_plays
        (plays_of_run hRun i) with
      ⟨later, hAttempt⟩
    rw [tagged_own]
    exact paysForOne_of_attempt hConfig hAttempt
  have hTrace :
      p.shared.trace = sentIn (ls.map Prod.snd) := by
    rw [trace_of_accesses (acts_of_run hRun)]
    exact List.nil_append _
  refine ⟨hTrace.trans (tagged_snd ls).symm, hEach, ?_⟩
  rw [hTrace, spent_eq_sum_own]
  calc
    ∑ i, R.spent (sentIn (ownPart i ls))
    _ ≤ ∑ _i : ι, args.cap.toNat := by
      apply Finset.sum_le_sum
      intro i _
      rw [← tagged_own]
      exact (hEach i).within
    _ = Fintype.card ι * args.cap.toNat := by
      rw [Finset.sum_const, Finset.card_univ, smul_eq_mul]

/- What is paid can be read back from it. -/
noncomputable def keyReader : PaymentReader keyCrates where
  transfers := fun transaction => Option.toList transaction
  keypairPubkey_eq := by
    intro bytes keypair hAccepted
    rcases keypairTryFrom_keyCrates.mp hAccepted with
      ⟨rfl, hLength, _⟩
    exact Sample.publicHalf_toList hLength
  transfers_signed := by
    intro transfer instruction keypair hash _ hChecked
    cases hChecked
    rfl
  readPayload := sampleReader.readPayload
  readTransaction := sampleReader.readTransaction
  readPayload_encode := sampleReader.readPayload_encode
  readTransaction_encode :=
    sampleReader.readTransaction_encode

/- A proxy whose wallet is in the environment. -/
def dimeLaunch : Launch :=
  { sampleShell with
    host :=
      { sampleHost with
        vars := fun _ =>
          some (zeroWallet.toKeypairB58 sampleWalletCrates) }
    bindError := fun _ => none }

/- At most a dime for each request. -/
def dimeArgs : ProxyArgs where
  wallet := .default
  gateway := "https://api.solvela.ai/"
  rpcUrl := "https://api.mainnet-beta.solana.com"
  port := 8402
  maxPayment := some (Decimal.nearest ⟨false, 10, -2⟩)
  expectedRecipient := none

theorem dimeLaunch_loads :
    (Wallet.load sampleWalletCrates dimeLaunch.host
      dimeArgs.wallet homeFiles).toOption.isSome = true := by
  decide +kernel

/- The wallet that this process loads. -/
def dimeWallet : Wallet keyCrates :=
  (Wallet.load sampleWalletCrates dimeLaunch.host
    dimeArgs.wallet homeFiles).toOption.get dimeLaunch_loads

/- The proxy that is started so. -/
def dimeState : ProxyState keyCrates where
  client :=
    { wallet := dimeWallet
      config := dimeArgs.config }
  gatewayUrl := trimEndMatches '/' dimeArgs.gateway

theorem startProxy_dime :
    startProxy sampleWalletCrates dimeLaunch dimeArgs
        homeFiles =
      .ok dimeState := by
  have hLoaded :
      ∀ loaded : Except String (Wallet keyCrates),
        ∀ h : loaded.toOption.isSome = true,
          loaded = .ok (loaded.toOption.get h) := by
    intro loaded h
    cases loaded with
    | ok wallet => rfl
    | error e => cases h
  exact startProxy_eq_ok_iff.mpr
    ⟨rfl, rfl, dimeWallet, hLoaded _ dimeLaunch_loads, rfl⟩

/- A gateway that asks for a dime, and answers when paid. -/
def dimeEnv : Env where
  reply := fun _ peer request =>
    match peer with
    | .rpc => .ok (responseOf 200 "hash")
    | .gateway =>
        if request.payments = [] then
          .ok (responseOf 402 "100000 payee")
        else
          .ok (responseOf 200 "answer")
  delay := fun _ => 1

/- A chat request, as a caller may post it. -/
def dimeRequest : CallerRequest where
  method := "POST"
  pathAndQuery := some "/v1/chat/completions"
  headers :=
    [("content-type",
      Delimited.utf8Bytes "application/json")]
  body := Delimited.utf8Bytes "{}"

/- Two requests at a dime each, of which one was served. -/
theorem dime_proxy_pays_as_told :
    startProxy sampleWalletCrates dimeLaunch dimeArgs
        homeFiles = .ok dimeState ∧
      ∃ ls p,
        LabelledRun (PoolStep Accesses)
            (dimeState.serving 0 (fun _ : Bool => dimeRequest))
            ls p ∧
          paymentCount p.shared.trace = 1 ∧
            PaysForOne keyReader dimeArgs dimeState
                dimeRequest (ownPart true (tagged ls)) ∧
              keyReader.spent p.shared.trace ≤ 200000 := by
  have hFrom :
      ∀ (state : ProxyState keyCrates)
        (world last : World keyCrates),
        world = World.new state.client.config 0 →
          last =
              Effects.final
                (state.proxyHandler dimeEnv dimeRequest)
                world →
            paymentCount last.trace = 1 →
              ∃ ls p,
                LabelledRun (PoolStep Accesses)
                    (state.serving 0
                      (fun _ : Bool => dimeRequest)) ls p ∧
                  paymentCount p.shared.trace = 1 := by
    rintro state world last rfl rfl hPaid
    have hSerial :
        SerialRun state.client
          (fun _ : Bool =>
            .proxied state.gatewayUrl dimeRequest)
          (World.new state.client.config 0)
          [(true, _)]
          (Effects.final
            (state.proxyHandler dimeEnv dimeRequest)
            (World.new state.client.config 0)) :=
      .cons (Lags.refl _)
        (.proxied (Effects.runs_outcome _ _)) .nil
    rcases hSerial.interleaves
        (q := state.serving 0 (fun _ : Bool => dimeRequest))
        (Lags.refl _)
        (World.configured_new state.client.config 0)
        (by simp) (fun _ _ => rfl) with
      ⟨ls, p, hRun, _, _, hLags⟩
    rw [hLags.trace] at hPaid
    exact ⟨ls, p, hRun, hPaid⟩
  rcases hFrom dimeState _ _ rfl rfl (by decide +kernel) with
    ⟨ls, p, hRun, hPaid⟩
  have hTold :=
    started_proxy_pays_as_told keyReader sampleWalletCrates
      dimeLaunch dimeArgs homeFiles dimeState startProxy_dime
      0 (fun _ : Bool => dimeRequest) ls p hRun
  have hCap : dimeArgs.cap = 100000 := by decide
  have hSum := hTold.2.2
  rw [hCap] at hSum
  exact ⟨startProxy_dime, ls, p, hRun, hPaid,
    hTold.2.1 true, hSum⟩

end Solvela
