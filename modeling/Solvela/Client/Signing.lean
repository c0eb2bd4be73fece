import Solvela.Client.Model

/-
  What signing a payment does.

  A signature is made for one entry of the terms: the first
  compatible one, which must pass the checks of recipient and
  amount.  The same entry is paid and reported back.

  Main declarations:
    * `selectTerms_eq_ok_iff`
    * `Buildable`, `Signable`
    * `Signs`, `SignedFor`, `Signs.signedFor`
    * `runs_signPaymentFor402WithAmount_ok`
    * `exists_runs_sign_iff`
    * `signPaymentFor402WithAmount_spec`
    * `Refuses`, `signPaymentFor402WithAmount_refuses`
-/

------------------------------------------------------------
-- Checked Terms
------------------------------------------------------------

namespace Solvela

open Effects

namespace SolvelaClient

variable {X : Crates}

theorem checkRecipient_eq_ok_iff
    {config : ClientConfig}
    {accept : PaymentAccept} :
    checkRecipient config accept = .ok () ↔
      ∀ expected, config.expectedRecipient = some expected →
        accept.payTo = expected := by
  unfold checkRecipient
  cases hConfig : config.expectedRecipient with
  | none => simp
  | some expected =>
      by_cases hEq : accept.payTo = expected
      · simp [hEq]
      · simp [hEq]

theorem checkAmount_eq_ok_iff
    {config : ClientConfig}
    {amount : UInt64} :
    checkAmount config amount = .ok () ↔
      ∀ max, config.maxPaymentAmount = some max →
        amount ≤ max := by
  unfold checkAmount
  cases hConfig : config.maxPaymentAmount with
  | none => simp
  | some max =>
      by_cases hMore : amount > max
      · have hNot : ¬ amount ≤ max :=
          UInt64.not_le.mpr hMore
        simp [hMore, hNot]
      · have hLe : amount ≤ max := UInt64.not_lt.mp hMore
        simp [hMore, hLe]

/- The terms are selected exactly when every check passes. -/
theorem selectTerms_eq_ok_iff
    {config : ClientConfig}
    {accepts : List PaymentAccept}
    {accept : PaymentAccept}
    {amount : UInt64} :
    selectTerms X config accepts = .ok (accept, amount) ↔
      pickScheme X accepts = some accept ∧
        checkRecipient config accept = .ok () ∧
          parseU64 accept.amount = .ok amount ∧
            checkAmount config amount = .ok () := by
  unfold selectTerms
  cases hPick : pickScheme X accepts with
  | none => simp
  | some picked =>
      constructor
      · intro hOk
        rcases bind_eq_ok_iff.mp hOk with
          ⟨_, hRecipient, hParse⟩
        rcases bind_eq_ok_iff.mp hParse with
          ⟨parsed, hParsed, hAmount⟩
        rcases bind_eq_ok_iff.mp hAmount with
          ⟨_, hCap, hPair⟩
        cases hPair
        exact ⟨rfl, hRecipient,
          mapError_eq_ok_iff.mp hParsed, hCap⟩
      · intro hChecks
        rcases hChecks with
          ⟨hSame, hRecipient, hParsed, hCap⟩
        cases hSame
        exact bind_eq_ok_iff.mpr ⟨(), hRecipient,
          bind_eq_ok_iff.mpr ⟨amount,
            mapError_eq_ok_iff.mpr hParsed,
            bind_eq_ok_iff.mpr ⟨(), hCap, rfl⟩⟩⟩

/- A picked entry is one of the list and is compatible. -/
theorem pickScheme_spec
    {accepts : List PaymentAccept}
    {accept : PaymentAccept}
    (hPick : pickScheme X accepts = some accept) :
    accept ∈ accepts ∧ accept.scheme = "exact" ∧
      accept.network = X.solanaNetwork ∧
        accept.asset = X.usdcMint := by
  unfold pickScheme at hPick
  have hCompatible := List.find?_some hPick
  exact ⟨List.mem_of_find?_eq_some hPick,
    of_decide_eq_true hCompatible⟩

end SolvelaClient

end Solvela

------------------------------------------------------------
-- Signed Transactions
------------------------------------------------------------

namespace Solvela

open Effects

variable {X : Crates}

/-
  `account` holds the tokens of a mint for `owner`: its
  address is derived from both, and from the token program,
  under the program of associated accounts.
-/
def IsTokenAccount
    (X : Crates)
    (owner mint account : Pubkey) : Prop :=
  ∃ program,
    X.pubkeyFromStr associatedTokenProgramId = .ok program ∧
      account =
        X.findProgramAddress
          [owner.bytes.toList, X.splTokenId.bytes.toList,
            mint.bytes.toList]
          program

theorem isTokenAccount_associatedTokenAddress
    (owner mint : Pubkey) :
    IsTokenAccount X owner mint
      (associatedTokenAddress X owner mint) := by
  refine ⟨_, ?_, rfl⟩
  exact toOption_eq_some_iff.mp
    (Option.some_get X.ataProgram_valid).symm

/-
  A transaction moves the amount of USDC from the token
  account of the wallet to that of `recipient`, on the
  wallet's authority, and does nothing else.
-/
def TransfersExactly
    (S : TransferSemantics X)
    (wallet : Wallet X)
    (recipient : String)
    (amount : UInt64)
    (transaction : X.Transaction) : Prop :=
  ∃ mint payTo source destination,
    X.pubkeyFromStr X.usdcMint = .ok mint ∧
      X.pubkeyFromStr recipient = .ok payTo ∧
        IsTokenAccount X wallet.pubkey mint source ∧
          IsTokenAccount X payTo mint destination ∧
            S.transfers transaction =
              [{ source := source
                 mint := mint
                 destination := destination
                 authority := wallet.pubkey
                 amount := amount
                 decimals := 6 }]

/- The key pair of a wallet was accepted for its bytes. -/
theorem Wallet.keypairTryFrom_keypair
    (wallet : Wallet X) :
    X.keypairTryFrom wallet.keypairBytes.toList =
      .ok wallet.keypair :=
  toOption_eq_some_iff.mp
    (Option.some_get wallet.valid).symm

/- So its public key is that of the wallet. -/
theorem TransferSemantics.keypairPubkey_keypair
    (S : TransferSemantics X)
    (wallet : Wallet X) :
    X.keypairPubkey wallet.keypair = wallet.pubkey := by
  have hBytes := S.keypairPubkey_eq wallet.keypairTryFrom_keypair
  rw [← Vector.toList_drop] at hBytes
  exact congrArg Pubkey.mk (Vector.toList_inj.mp hBytes)

/-
  What is signed around an instruction is read back as a
  transaction that performs it.
-/
theorem PaymentReader.exists_transfersExactly
    (R : PaymentReader X)
    {wallet : Wallet X}
    {recipient text : String}
    {amount : UInt64}
    {ix : X.Instruction}
    {blockhash : X.BlockHash}
    (hIx :
      transferInstruction wallet recipient amount = .ok ix)
    (hSigned :
      signTransaction wallet ix blockhash = .ok text) :
    ∃ transaction, R.readTransaction text = some transaction ∧
      TransfersExactly R.toTransferSemantics wallet recipient
        amount transaction := by
  unfold transferInstruction at hIx
  rcases bind_eq_ok_iff.mp hIx with ⟨mint, hMint, hRest⟩
  rcases bind_eq_ok_iff.mp hRest with ⟨payTo, hPayTo, hBuilt⟩
  unfold signTransaction at hSigned
  rcases bind_eq_ok_iff.mp hSigned with ⟨bytes, hBytes, hText⟩
  cases hText
  have hChecked :
      X.transferChecked X.splTokenId
          (associatedTokenAddress X wallet.pubkey mint) mint
          (associatedTokenAddress X payTo mint) wallet.pubkey
          [] amount usdcDecimals =
        .ok ix :=
    mapError_eq_ok_iff.mp hBuilt
  refine ⟨_, R.readTransaction_encode _ bytes
    (mapError_eq_ok_iff.mp hBytes), ?_⟩
  refine ⟨mint, payTo, _, _, mapError_eq_ok_iff.mp hMint,
    mapError_eq_ok_iff.mp hPayTo,
    isTokenAccount_associatedTokenAddress wallet.pubkey mint,
    isTokenAccount_associatedTokenAddress payTo mint, ?_⟩
  exact R.transfers_signed
    { source := associatedTokenAddress X wallet.pubkey mint
      mint := mint
      destination := associatedTokenAddress X payTo mint
      authority := wallet.pubkey
      amount := amount
      decimals := usdcDecimals }
    blockhash (R.keypairPubkey_keypair wallet) hChecked

/- Signing asks the RPC endpoint once, between pure steps. -/
theorem runs_signExactPayment
    {wallet : Wallet X}
    {env : Env}
    {rpcUrl recipient : String}
    {amount : UInt64}
    {world world' : World X}
    {r : Except SignerError String} :
    Runs (signExactPayment wallet env rpcUrl recipient amount)
        world r world' ↔
      (∃ e, transferInstruction wallet recipient amount =
          .error e ∧ r = .error e ∧ world' = world) ∨
        ∃ ix reply,
          transferInstruction wallet recipient amount =
              .ok ix ∧
            reply = env.reply world.trace .rpc
              (blockhashRequest rpcUrl) ∧
            r = (replyOutcome (fun e =>
                SignerError.rpcError e.message)
                (readBlockhash X) reply >>=
              signTransaction wallet ix) ∧
            world' = world.extend
              [{ peer := .rpc,
                 request := blockhashRequest rpcUrl,
                 reply := reply }] := by
  unfold signExactPayment getLatestBlockhash
  rw [runs_ofOutcome_bind]
  constructor
  · intro hRun
    rcases hRun with ⟨ix, hIx, hRest⟩ | hFailed
    · right
      rcases runs_bind.mp hRest with
        ⟨hash, t, hAsk, hSign⟩ | ⟨e, hAsk, rfl⟩
      · rcases runs_exchange.mp hAsk with
          ⟨reply, hReply, hHash, rfl⟩
        rcases runs_ofOutcome.mp hSign with ⟨rfl, rfl⟩
        refine ⟨ix, reply, hIx, hReply, ?_, rfl⟩
        rw [← hHash]
        rfl
      · rcases runs_exchange.mp hAsk with
          ⟨reply, hReply, hError, rfl⟩
        refine ⟨ix, reply, hIx, hReply, ?_, rfl⟩
        rw [← hError]
        rfl
    · left
      exact hFailed
  · intro hRun
    rcases hRun with
      hFailed | ⟨ix, reply, hIx, hReply, rfl, rfl⟩
    · exact Or.inr hFailed
    · left
      refine ⟨ix, hIx, ?_⟩
      rw [runs_bind]
      cases hOutcome :
          replyOutcome (fun e => SignerError.rpcError e.message)
            (readBlockhash X) reply with
      | ok hash =>
          exact Or.inl ⟨hash, _,
            runs_exchange.mpr
              ⟨reply, hReply, hOutcome.symm, rfl⟩,
            runs_ofOutcome.mpr ⟨rfl, rfl⟩⟩
      | error e =>
          exact Or.inr ⟨e,
            runs_exchange.mpr
              ⟨reply, hReply, hOutcome.symm, rfl⟩, rfl⟩

/- The third-party steps of building a payment succeed. -/
structure Buildable (X : Crates) : Prop where
  usdcMint_parses : ∃ mint, X.pubkeyFromStr X.usdcMint = .ok mint
  transferChecked_ok :
    ∀ source mint destination authority amount decimals,
      ∃ instruction,
        X.transferChecked X.splTokenId source mint
            destination authority [] amount decimals =
          .ok instruction
  bincodeSerialize_ok : ∀ transaction,
    ∃ bytes, X.bincodeSerialize transaction = .ok bytes

theorem Payable.buildable
    (P : Payable X) :
    Buildable X where
  usdcMint_parses := P.usdcMint_parses
  transferChecked_ok := P.transferChecked_ok
  bincodeSerialize_ok := P.bincodeSerialize_ok

/- A transfer to an address can be instructed. -/
theorem Buildable.transferInstruction
    (B : Buildable X)
    (wallet : Wallet X)
    {recipient : String}
    (hAddress : ∃ key, X.pubkeyFromStr recipient = .ok key)
    (amount : UInt64) :
    ∃ ix, transferInstruction wallet recipient amount =
      .ok ix := by
  rcases B.usdcMint_parses with ⟨mint, hMint⟩
  rcases hAddress with ⟨key, hKey⟩
  rcases B.transferChecked_ok
      (associatedTokenAddress X wallet.pubkey mint) mint
      (associatedTokenAddress X key mint) wallet.pubkey
      amount usdcDecimals with
    ⟨ix, hIx⟩
  refine ⟨ix, ?_⟩
  unfold Solvela.transferInstruction
  apply bind_eq_ok_iff.mpr
  refine ⟨mint, mapError_eq_ok_iff.mpr hMint, ?_⟩
  apply bind_eq_ok_iff.mpr
  exact ⟨key, mapError_eq_ok_iff.mpr hKey,
    mapError_eq_ok_iff.mpr hIx⟩

/- The transaction can be signed. -/
theorem Buildable.signTransaction
    (B : Buildable X)
    (wallet : Wallet X)
    (ix : X.Instruction)
    (blockhash : X.BlockHash) :
    ∃ text, signTransaction wallet ix blockhash =
      .ok text := by
  rcases B.bincodeSerialize_ok
      (X.transactionNew [wallet.keypair]
        (X.messageNew [ix] (some wallet.pubkey)) blockhash)
    with ⟨bytes, hBytes⟩
  refine ⟨X.base64Encode bytes, ?_⟩
  unfold Solvela.signTransaction
  exact bind_eq_ok_iff.mpr
    ⟨bytes, mapError_eq_ok_iff.mpr hBytes, rfl⟩

end Solvela

------------------------------------------------------------
-- Payment Headers
------------------------------------------------------------

namespace Solvela

open Effects

/- An exchange with the RPC endpoint, which never pays. -/
def IsRpc
    (e : Exchange) : Prop :=
  e.peer = .rpc ∧ e.request.payments = []

theorem gatewayExchanges_of_forall_isRpc
    {es : List Exchange}
    (hRpc : ∀ e ∈ es, IsRpc e) :
    gatewayExchanges es = [] := by
  unfold gatewayExchanges
  apply List.filter_eq_nil_iff.mpr
  intro e hMem hGateway
  have hPeer := of_decide_eq_true hGateway
  rw [(hRpc e hMem).1] at hPeer
  cases hPeer

/- A probe, RPC requests and a last request to the gateway. -/
theorem gatewayExchanges_of_paid
    {probe payment : Exchange}
    {rpcs : List Exchange}
    (hProbe : probe.peer = .gateway)
    (hRpcs : ∀ e ∈ rpcs, IsRpc e)
    (hPayment : payment.peer = .gateway) :
    gatewayExchanges (probe :: (rpcs ++ [payment])) =
      [probe, payment] := by
  have hNone := gatewayExchanges_of_forall_isRpc hRpcs
  unfold gatewayExchanges at hNone ⊢
  rw [List.filter_cons_of_pos (by simp [hProbe]),
    List.filter_append, hNone,
    List.filter_cons_of_pos (by simp [hPayment]),
    List.filter_nil, List.nil_append]

/- A probe and RPC requests. -/
theorem gatewayExchanges_of_unpaid
    {probe : Exchange}
    {rpcs : List Exchange}
    (hProbe : probe.peer = .gateway)
    (hRpcs : ∀ e ∈ rpcs, IsRpc e) :
    gatewayExchanges (probe :: rpcs) = [probe] := by
  have hNone := gatewayExchanges_of_forall_isRpc hRpcs
  unfold gatewayExchanges at hNone ⊢
  rw [List.filter_cons_of_pos (by simp [hProbe]), hNone]

variable {X : Crates}

/-
  `header` is what signing the terms `required` returns, for
  some block hash, together with `amount`.
-/
def Signs
    (client : SolvelaClient X)
    (required : PaymentRequired)
    (amount : UInt64)
    (header : String) : Prop :=
  ∃ accept ix blockhash text,
    SolvelaClient.selectTerms X client.config
        required.accepts = .ok (accept, amount) ∧
      transferInstruction client.wallet accept.payTo amount =
          .ok ix ∧
        signTransaction client.wallet ix blockhash =
            .ok text ∧
          header = encodePaymentHeader X
            (buildPaymentPayload X required.resource accept
              text)

/-
  `header` pays the terms of `required`: it is read as a
  payload for one compatible entry of the list, which passes
  the configured checks, and the transaction in the payload
  transfers that entry's amount to that entry's recipient.
-/
structure SignedFor
    (R : PaymentReader X)
    (client : SolvelaClient X)
    (required : PaymentRequired)
    (accept : PaymentAccept)
    (amount : UInt64)
    (header : String) : Prop where
  listed : accept ∈ required.accepts
  scheme : accept.scheme = "exact"
  network : accept.network = X.solanaNetwork
  asset : accept.asset = X.usdcMint
  recipient : ∀ expected,
    client.config.expectedRecipient = some expected →
      accept.payTo = expected
  priced : parseU64 accept.amount = .ok amount
  capped : ∀ max,
    client.config.maxPaymentAmount = some max → amount ≤ max
  encoded : ∃ payload proof transaction,
    R.readPayload header = some payload ∧
      payload.accepted = accept ∧
        payload.payload = .direct proof ∧
          R.readTransaction proof.transaction =
              some transaction ∧
            TransfersExactly R.toTransferSemantics
              client.wallet accept.payTo amount transaction

/- What was signed pays the terms. -/
theorem Signs.signedFor
    (R : PaymentReader X)
    {client : SolvelaClient X}
    {required : PaymentRequired}
    {amount : UInt64}
    {header : String}
    (hSigns : Signs client required amount header) :
    ∃ accept,
      SignedFor R client required accept amount header := by
  rcases hSigns with
    ⟨accept, ix, blockhash, text, hTerms, hIx, hText, rfl⟩
  rcases SolvelaClient.selectTerms_eq_ok_iff.mp hTerms with
    ⟨hPick, hRecipient, hParsed, hCap⟩
  rcases SolvelaClient.pickScheme_spec hPick with
    ⟨hListed, hScheme, hNetwork, hAsset⟩
  rcases R.exists_transfersExactly hIx hText with
    ⟨transaction, hRead, hTransfers⟩
  exact ⟨accept,
    { listed := hListed
      scheme := hScheme
      network := hNetwork
      asset := hAsset
      recipient :=
        SolvelaClient.checkRecipient_eq_ok_iff.mp hRecipient
      priced := hParsed
      capped := SolvelaClient.checkAmount_eq_ok_iff.mp hCap
      encoded := ⟨_, _, transaction, R.readPayload_encode _,
        rfl, rfl, hRead, hTransfers⟩ }⟩

/- The block hash an endpoint replies with after a trace. -/
def blockhashAfter
    (client : SolvelaClient X)
    (env : Env)
    (trace : List Exchange) : Except SignerError X.BlockHash :=
  replyOutcome (fun e => SignerError.rpcError e.message)
    (readBlockhash X)
    (env.reply trace .rpc
      (blockhashRequest client.config.rpcUrl))

/-
  A payment for `required` can be signed after a trace: the
  terms pass, the instruction can be built, the endpoint
  replies with a block hash, and the transaction serializes.
-/
def Signable
    (client : SolvelaClient X)
    (env : Env)
    (trace : List Exchange)
    (required : PaymentRequired) : Prop :=
  ∃ accept amount ix blockhash text,
    SolvelaClient.selectTerms X client.config
        required.accepts = .ok (accept, amount) ∧
      transferInstruction client.wallet accept.payTo amount =
          .ok ix ∧
        blockhashAfter client env trace = .ok blockhash ∧
          signTransaction client.wallet ix blockhash =
            .ok text

namespace SolvelaClient

/- What a signature is made of. -/
theorem runs_signPaymentFor402WithAmount_ok
    {client : SolvelaClient X}
    {env : Env}
    {required : PaymentRequired}
    {world world' : World X}
    {signed : String × UInt64} :
    Runs (client.signPaymentFor402WithAmount env required)
        world (.ok signed) world' ↔
      ∃ accept ix blockhash text,
        selectTerms X client.config required.accepts =
            .ok (accept, signed.2) ∧
          transferInstruction client.wallet accept.payTo
              signed.2 = .ok ix ∧
            blockhashAfter client env world.trace =
                .ok blockhash ∧
              signTransaction client.wallet ix blockhash =
                  .ok text ∧
                signed.1 = encodePaymentHeader X
                    (buildPaymentPayload X required.resource
                      accept text) ∧
                  world' = world.extend
                    [{ peer := .rpc
                       request :=
                         blockhashRequest client.config.rpcUrl
                       reply := env.reply world.trace .rpc
                         (blockhashRequest
                           client.config.rpcUrl) }] := by
  unfold signPaymentFor402WithAmount
  constructor
  · intro hRun
    rcases runs_ofOutcome_bind.mp hRun with
      ⟨⟨accept, amount⟩, hTerms, hSign⟩ | ⟨e, _, hNo, _⟩
    · rcases runs_bind_ok.mp hSign with
        ⟨text, t, hText, hEnd⟩
      have hExact := runs_adaptExcept_ok.mp hText
      rcases runs_pure.mp hEnd with ⟨hSigned, rfl⟩
      cases hSigned
      rcases runs_signExactPayment.mp hExact with
        ⟨e, _, hNo, _⟩ | ⟨ix, reply, hIx, rfl, hOk, hWorld⟩
      · cases hNo
      · rcases bind_eq_ok_iff.mp hOk.symm with
          ⟨blockhash, hHash, hDone⟩
        exact ⟨accept, ix, blockhash, text, hTerms, hIx,
          hHash, hDone, rfl, hWorld⟩
    · cases hNo
  · rintro ⟨accept, ix, blockhash, text, hTerms, hIx, hHash,
      hText, hHeader, hWorld⟩
    apply runs_ofOutcome_bind.mpr
    refine Or.inl ⟨_, hTerms, ?_⟩
    apply runs_bind_ok.mpr
    refine ⟨text, world', ?_, ?_⟩
    · apply runs_adaptExcept_ok.mpr
      apply runs_signExactPayment.mpr
      refine Or.inr ⟨ix, _, hIx, rfl, ?_, hWorld⟩
      exact (bind_eq_ok_iff.mpr ⟨blockhash, hHash, hText⟩).symm
    · apply runs_pure.mpr
      exact ⟨congrArg Except.ok (Prod.ext hHeader rfl), rfl⟩

/- A payment is signed exactly when it can be. -/
theorem exists_runs_sign_iff
    {client : SolvelaClient X}
    {env : Env}
    {required : PaymentRequired}
    (world : World X) :
    (∃ signed world',
      Runs (client.signPaymentFor402WithAmount env required)
        world (.ok signed) world') ↔
      Signable client env world.trace required := by
  constructor
  · rintro ⟨signed, world', hRun⟩
    rcases runs_signPaymentFor402WithAmount_ok.mp hRun with
      ⟨accept, ix, blockhash, text, hTerms, hIx, hHash,
        hText, _, _⟩
    exact ⟨accept, signed.2, ix, blockhash, text, hTerms, hIx,
      hHash, hText⟩
  · rintro ⟨accept, amount, ix, blockhash, text, hTerms, hIx,
      hHash, hText⟩
    exact ⟨(_, amount), _,
      runs_signPaymentFor402WithAmount_ok.mpr
        ⟨accept, ix, blockhash, text, hTerms, hIx, hHash,
          hText, rfl, rfl⟩⟩

/- Signing sends RPC requests only. -/
theorem signPaymentFor402WithAmount_spec
    {client : SolvelaClient X}
    {env : Env}
    {required : PaymentRequired}
    {world world' : World X}
    {r : Except ClientError (String × UInt64)}
    (hRun :
      Runs (client.signPaymentFor402WithAmount env required)
        world r world') :
    ∃ es, world' = world.extend es ∧ (∀ e ∈ es, IsRpc e) ∧
      ∀ signed, r = .ok signed →
        Signs client required signed.2 signed.1 := by
  unfold signPaymentFor402WithAmount at hRun
  rcases runs_ofOutcome_bind.mp hRun with
    ⟨terms, hTerms, hSign⟩ | ⟨e, _, rfl, rfl⟩
  · rcases terms with ⟨accept, amount⟩
    rcases runs_adaptExcept_bind.mp hSign with
      ⟨text, t, hText, hEnd⟩ | ⟨e, hFailed, rfl⟩
    · rcases runs_pure.mp hEnd with ⟨rfl, rfl⟩
      rcases runs_signExactPayment.mp hText with
        ⟨e, _, hNo, _⟩ | ⟨ix, reply, hIx, _, hOk, rfl⟩
      · cases hNo
      · rcases bind_eq_ok_iff.mp hOk.symm with
          ⟨blockhash, _, hSigned⟩
        refine ⟨_, rfl, ?_, ?_⟩
        · intro e he
          cases List.mem_singleton.mp he
          exact ⟨rfl, rfl⟩
        · intro signed hResult
          cases hResult
          exact ⟨accept, ix, blockhash, text, hTerms, hIx,
            hSigned, rfl⟩
    · have hNever :
          ∀ signed : String × UInt64,
            Except.error (ClientError.signing e) ≠
              .ok signed := by
        intro signed hNo
        cases hNo
      rcases runs_signExactPayment.mp hFailed with
        ⟨e', _, _, rfl⟩ | ⟨ix, reply, _, _, _, rfl⟩
      · exact ⟨[], (World.extend_nil _).symm, by simp,
          fun signed hNo => absurd hNo (hNever signed)⟩
      · refine ⟨_, rfl, ?_,
          fun signed hNo => absurd hNo (hNever signed)⟩
        intro x hx
        cases List.mem_singleton.mp hx
        exact ⟨rfl, rfl⟩
  · refine ⟨[], (World.extend_nil _).symm, by simp, ?_⟩
    intro signed hNo
    cases hNo

/- Why no payment is signed for the terms `required`. -/
def Refuses
    (client : SolvelaClient X)
    (required : PaymentRequired)
    (err : ClientError) : Prop :=
  selectTerms X client.config required.accepts = .error err ∨
    ∃ e, err = .signing e

/- Without a signature there is such a reason. -/
theorem signPaymentFor402WithAmount_refuses
    {client : SolvelaClient X}
    {env : Env}
    {required : PaymentRequired}
    {world world' : World X}
    {err : ClientError}
    (hRun :
      Runs (client.signPaymentFor402WithAmount env required)
        world (.error err) world') :
    Refuses client required err := by
  unfold signPaymentFor402WithAmount at hRun
  rcases runs_ofOutcome_bind.mp hRun with
    ⟨terms, _, hSign⟩ | ⟨e, hTerms, hSame, _⟩
  · rcases runs_adaptExcept_bind.mp hSign with
      ⟨text, t, _, hEnd⟩ | ⟨e, _, hSame⟩
    · cases (runs_pure.mp hEnd).1
    · cases hSame
      exact Or.inr ⟨e, rfl⟩
  · cases hSame
    exact Or.inl hTerms

/- The public variant returns the same header. -/
theorem signPaymentFor402_spec
    {client : SolvelaClient X}
    {env : Env}
    {required : PaymentRequired}
    {world world' : World X}
    {r : Except ClientError String}
    (hRun :
      Runs (client.signPaymentFor402 env required) world r
        world') :
    ∃ es, world' = world.extend es ∧ (∀ e ∈ es, IsRpc e) ∧
      ∀ header, r = .ok header →
        ∃ amount, Signs client required amount header := by
  unfold signPaymentFor402 at hRun
  rcases runs_bind.mp hRun with
    ⟨signed, t, hSign, hEnd⟩ | ⟨e, hSign, rfl⟩
  · rcases runs_pure.mp hEnd with ⟨rfl, rfl⟩
    rcases signPaymentFor402WithAmount_spec hSign with
      ⟨es, hWorld, hRpc, hSigned⟩
    refine ⟨es, hWorld, hRpc, ?_⟩
    intro header hHeader
    cases hHeader
    exact ⟨signed.2, hSigned signed rfl⟩
  · rcases signPaymentFor402WithAmount_spec hSign with
      ⟨es, hWorld, hRpc, _⟩
    refine ⟨es, hWorld, hRpc, ?_⟩
    intro header hNo
    cases hNo

end SolvelaClient

end Solvela
