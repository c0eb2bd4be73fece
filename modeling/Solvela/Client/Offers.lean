import Solvela.Client.Charging
import Solvela.Foundations.Choice

/-
  Which offer of a 402 body is paid.

  The client looks for the first entry that it can sign for,
  by scheme, network and asset, and then checks that entry
  only.  A list matters to the outcome through that entry.

  Main declarations:
    * `Compatible`, `AcceptableEntry`, `PaysEntry`
    * `firstThat_pickScheme`
    * `first_offer_decides`
    * `second_offer_ignored`
-/

------------------------------------------------------------
-- Compatible And Acceptable Entries
------------------------------------------------------------

namespace Solvela

open Choice

/- The client can sign for the entry. -/
def Compatible
    (X : Crates)
    (accept : PaymentAccept) : Prop :=
  accept.scheme = "exact" ∧
    accept.network = X.solanaNetwork ∧
      accept.asset = X.usdcMint

/- The entry passes every check of the configuration. -/
structure AcceptableEntry
    (X : Crates)
    (config : ClientConfig)
    (accept : PaymentAccept) : Prop where
  compatible : Compatible X accept
  priced : ∃ amount, parseU64 accept.amount = .ok amount ∧
    ∀ max, config.maxPaymentAmount = some max → amount ≤ max
  address : ∃ key, X.pubkeyFromStr accept.payTo = .ok key
  recipient : ∀ expected,
    config.expectedRecipient = some expected →
      accept.payTo = expected

variable {X : Crates}
variable {config : ClientConfig}
variable {accepts : List PaymentAccept}
variable {accept : PaymentAccept}

/- The first compatible entry is picked. -/
theorem firstThat_pickScheme
    (accepts : List PaymentAccept) :
    FirstThat (Compatible X) accepts
      (SolvelaClient.pickScheme X accepts) := by
  apply firstThat_find?
  intro a
  exact decide_eq_true_iff

/- Terms pass when the first compatible entry does. -/
theorem AcceptableEntry.selectTerms
    (hAcceptable : AcceptableEntry X config accept)
    (hFirst :
      FirstThat (Compatible X) accepts (some accept)) :
    ∃ amount,
      SolvelaClient.selectTerms X config accepts =
        .ok (accept, amount) := by
  rcases hAcceptable.priced with ⟨amount, hParsed, hCapped⟩
  refine ⟨amount, ?_⟩
  apply SolvelaClient.selectTerms_eq_ok_iff.mpr
  refine ⟨?_, ?_, hParsed, ?_⟩
  · exact (firstThat_pickScheme accepts).unique hFirst
  · exact SolvelaClient.checkRecipient_eq_ok_iff.mpr
      hAcceptable.recipient
  · exact SolvelaClient.checkAmount_eq_ok_iff.mpr hCapped

/- An error about one entry of the terms. -/
inductive EntryError : ClientError → Prop where
  | recipient
      (expected actual : String) :
      EntryError (.recipientMismatch expected actual)
  | amount
      (amount max : UInt64) :
      EntryError (.amountExceedsMax amount max)
  | unparsed
      (message : String) :
      EntryError (.parseError message)

/- An entry that was picked is refused with such an error. -/
theorem errorsIn_selectTerms
    (hPick : SolvelaClient.pickScheme X accepts = some accept) :
    Effects.ErrorsIn EntryError
      (SolvelaClient.selectTerms X config accepts) := by
  unfold SolvelaClient.selectTerms
  rw [hPick]
  apply Effects.ErrorsIn.bind
  · unfold SolvelaClient.checkRecipient
    cases config.expectedRecipient with
    | none => exact Effects.errorsIn_ok ()
    | some expected =>
        exact Effects.errorsIn_ite
          (Effects.errorsIn_error
            (.recipient expected accept.payTo))
          (Effects.errorsIn_ok ())
  · intro _
    apply Effects.ErrorsIn.bind
    · apply Effects.errorsIn_mapError
      intro e
      exact .unparsed _
    · intro amount
      apply Effects.ErrorsIn.bind
      · unfold SolvelaClient.checkAmount
        cases config.maxPaymentAmount with
        | none => exact Effects.errorsIn_ok ()
        | some max =>
            exact Effects.errorsIn_ite
              (Effects.errorsIn_error (.amount amount max))
              (Effects.errorsIn_ok ())
      · intro _
        exact Effects.errorsIn_ok (accept, amount)

/-
  Terms are refused for want of a compatible entry, or
  because the first one does not pass.
-/
theorem selectTerms_eq_error
    {err : ClientError}
    (hRefused :
      SolvelaClient.selectTerms X config accepts =
        .error err) :
    (err = .noCompatibleScheme ∧
        ∀ a ∈ accepts, ¬ Compatible X a) ∨
      EntryError err ∧
        ∃ a, FirstThat (Compatible X) accepts (some a) ∧
          ¬ AcceptableEntry X config a := by
  have hFirst := firstThat_pickScheme (X := X) accepts
  cases hPick : SolvelaClient.pickScheme X accepts with
  | none =>
      left
      rw [hPick] at hFirst
      unfold SolvelaClient.selectTerms at hRefused
      rw [hPick] at hRefused
      cases hRefused
      exact ⟨rfl, hFirst.not_of_none⟩
  | some a =>
      right
      rw [hPick] at hFirst
      refine ⟨errorsIn_selectTerms hPick err hRefused, a,
        hFirst, ?_⟩
      intro hAcceptable
      rcases hAcceptable.selectTerms hFirst with ⟨amount, hOk⟩
      rw [hRefused] at hOk
      cases hOk

end Solvela

------------------------------------------------------------
-- The First Offer Decides
------------------------------------------------------------

namespace Solvela

open Choice Effects

variable {X : Crates}

/- `header` is a signed payment of the entry `accept`. -/
def PaysEntry
    (client : SolvelaClient X)
    (required : PaymentRequired)
    (accept : PaymentAccept)
    (header : String) : Prop :=
  ∃ amount ix blockhash text,
    parseU64 accept.amount = .ok amount ∧
      transferInstruction client.wallet accept.payTo amount =
          .ok ix ∧
        signTransaction client.wallet ix blockhash =
            .ok text ∧
          header = encodePaymentHeader X
            (buildPaymentPayload X required.resource accept
              text)

/- The first compatible entry is paid if it is acceptable. -/
theorem AcceptableEntry.runs_sign
    {client : SolvelaClient X}
    {env : Env}
    {required : PaymentRequired}
    {world : World X}
    {accept : PaymentAccept}
    {blockhash : X.BlockHash}
    (hAcceptable : AcceptableEntry X client.config accept)
    (B : Buildable X)
    (hFirst :
      FirstThat (Compatible X) required.accepts (some accept))
    (hHash :
      blockhashAfter client env world.trace =
        .ok blockhash) :
    ∃ header world',
      Runs (client.signPaymentFor402 env required) world
          (.ok header) world' ∧
        PaysEntry client required accept header := by
  rcases hAcceptable.selectTerms hFirst with
    ⟨amount, hTerms⟩
  have hParsed :=
    (SolvelaClient.selectTerms_eq_ok_iff.mp hTerms).2.2.1
  rcases B.transferInstruction client.wallet
      hAcceptable.address amount with ⟨ix, hIx⟩
  rcases B.signTransaction client.wallet ix blockhash with
    ⟨text, hText⟩
  let header :=
    encodePaymentHeader X
      (buildPaymentPayload X required.resource accept text)
  have hSigned :
      ∃ world',
        Runs (client.signPaymentFor402WithAmount env required)
          world (.ok (header, amount)) world' :=
    ⟨_, SolvelaClient.runs_signPaymentFor402WithAmount_ok.mpr
      ⟨accept, ix, blockhash, text, hTerms, hIx, hHash, hText,
        rfl, rfl⟩⟩
  rcases hSigned with ⟨world', hSigned⟩
  refine ⟨header, world', ?_, amount, ix, blockhash, text,
    hParsed, hIx, hText, rfl⟩
  exact hSigned.bind (runs_pure.mpr ⟨rfl, rfl⟩)

/- A refusal names what is wrong with the entries. -/
theorem refusal_of_runs_sign
    {client : SolvelaClient X}
    {env : Env}
    {required : PaymentRequired}
    {world world' : World X}
    {err : ClientError}
    (hRun :
      Runs (client.signPaymentFor402 env required) world
        (.error err) world') :
    (err = .noCompatibleScheme →
      ∀ a ∈ required.accepts, ¬ Compatible X a) ∧
    (EntryError err →
      ∃ a,
        FirstThat (Compatible X) required.accepts (some a) ∧
          ¬ AcceptableEntry X client.config a) := by
  have hRefuses :
      SolvelaClient.Refuses client required err := by
    unfold SolvelaClient.signPaymentFor402 at hRun
    rcases runs_bind_pure.mp hRun with ⟨r₀, hSign, hError⟩
    cases r₀ with
    | ok signed => cases hError
    | error e =>
        cases hError
        exact
          SolvelaClient.signPaymentFor402WithAmount_refuses
            hSign
  rcases hRefuses with hTerms | ⟨e, rfl⟩
  · rcases selectTerms_eq_error hTerms with
      ⟨rfl, hNone⟩ | ⟨hEntry, hFirst⟩
    · refine ⟨fun _ => hNone, ?_⟩
      intro hEntry
      cases hEntry
    · refine ⟨?_, fun _ => hFirst⟩
      rintro rfl
      cases hEntry
  · constructor
    · intro hNo
      cases hNo
    · intro hEntry
      cases hEntry

/- Lists with the same first compatible entry sign alike. -/
theorem signPaymentFor402_congr
    (client : SolvelaClient X)
    (env : Env)
    {required required' : PaymentRequired}
    (hResource : required'.resource = required.resource)
    (hSame :
      ∀ r, FirstThat (Compatible X) required'.accepts r ↔
        FirstThat (Compatible X) required.accepts r) :
    client.signPaymentFor402 env required' =
      client.signPaymentFor402 env required := by
  have hPick :
      SolvelaClient.pickScheme X required'.accepts =
        SolvelaClient.pickScheme X required.accepts :=
    ((hSame _).mp (firstThat_pickScheme _)).unique
      (firstThat_pickScheme _)
  unfold SolvelaClient.signPaymentFor402
    SolvelaClient.signPaymentFor402WithAmount
    SolvelaClient.selectTerms
  rw [hPick, hResource]

/-
  The first compatible entry decides.  It is paid if it is
  acceptable and the endpoint replies with a block hash; the
  client refuses for want of compatible entries only if there
  are none, and with an error about an entry only if the
  first compatible one is not acceptable.  Nothing else of
  the list matters to the outcome.
-/
theorem first_offer_decides
    (B : Buildable X)
    (client : SolvelaClient X)
    (env : Env)
    (required : PaymentRequired)
    (world : World X) :
    (∀ accept,
      FirstThat (Compatible X) required.accepts
          (some accept) →
        AcceptableEntry X client.config accept →
          (∃ blockhash,
            blockhashAfter client env world.trace =
              .ok blockhash) →
            ∃ header world',
              Runs (client.signPaymentFor402 env required)
                  world (.ok header) world' ∧
                PaysEntry client required accept header) ∧
    (∀ err world',
      Runs (client.signPaymentFor402 env required) world
          (.error err) world' →
        (err = .noCompatibleScheme →
          ∀ a ∈ required.accepts, ¬ Compatible X a) ∧
        (EntryError err →
          ∃ a,
            FirstThat (Compatible X) required.accepts
                (some a) ∧
              ¬ AcceptableEntry X client.config a)) ∧
    (∀ required' : PaymentRequired,
      required'.resource = required.resource →
        (∀ r, FirstThat (Compatible X) required'.accepts r ↔
          FirstThat (Compatible X) required.accepts r) →
          ∀ r world',
            Runs (client.signPaymentFor402 env required')
                world r world' ↔
              Runs (client.signPaymentFor402 env required)
                world r world') := by
  refine ⟨?_, ?_, ?_⟩
  · rintro accept hFirst hAcceptable ⟨blockhash, hHash⟩
    exact hAcceptable.runs_sign B hFirst hHash
  · intro err world' hRun
    exact refusal_of_runs_sign hRun
  · intro required' hResource hSame r world'
    rw [signPaymentFor402_congr client env hResource hSame]

/- The endpoint of the sample gateway has a block hash. -/
theorem blockhashAfter_sample
    (config : ClientConfig)
    (trace : List Exchange) :
    blockhashAfter (sampleClient config) sampleEnv trace =
      .ok sampleDemand.hash :=
  sampleDemand.readBlockhash_document

/- The demanded entry, for a client that expects its payee. -/
def payeeConfig : ClientConfig :=
  { ClientConfig.default with
    expectedRecipient := some "payee" }

theorem sampleDemand_acceptableEntry :
    AcceptableEntry sampleCrates payeeConfig
      sampleDemand.accept where
  compatible := ⟨rfl, rfl, rfl⟩
  priced := by
    refine ⟨10000000, sampleDemand.priced, ?_⟩
    intro max hMax
    cases hMax
    exact UInt64.le_refl _
  address :=
    ⟨Sample.pubkeyOf "payee",
      pubkeyFromStr_sample (by decide)⟩
  recipient := by
    intro expected hExpected
    cases hExpected
    rfl

/- The demand with other entries. -/
def sampleOffers
    (accepts : List PaymentAccept) : PaymentRequired :=
  { sampleDemand.required with accepts := accepts }

/- The same offer by a scheme that the client lacks. -/
def escrowEntry : PaymentAccept :=
  { sampleDemand.accept with scheme := "escrow" }

/- The same offer for the smallest unit. -/
def cheaperEntry : PaymentAccept :=
  { sampleDemand.accept with amount := "1" }

theorem cheaperEntry_acceptable :
    AcceptableEntry sampleCrates payeeConfig cheaperEntry where
  compatible := ⟨rfl, rfl, rfl⟩
  priced := by
    refine ⟨1, by decide, ?_⟩
    intro max hMax
    cases hMax
    decide
  address := sampleDemand_acceptableEntry.address
  recipient := sampleDemand_acceptableEntry.recipient

/-
  The demand is paid when it comes after an entry that the
  client cannot sign for, and before a cheaper one.
-/
theorem first_offer_paid :
    AcceptableEntry sampleCrates payeeConfig cheaperEntry ∧
      ∃ header world',
        Runs
            ((sampleClient payeeConfig).signPaymentFor402
              sampleEnv
              (sampleOffers
                [escrowEntry, sampleDemand.accept,
                  cheaperEntry]))
            (World.new payeeConfig 0) (.ok header) world' ∧
          PaysEntry (sampleClient payeeConfig)
            (sampleOffers
              [escrowEntry, sampleDemand.accept,
                cheaperEntry])
            sampleDemand.accept header := by
  have hEscrow : ¬ Compatible sampleCrates escrowEntry := by
    rintro ⟨hScheme, _⟩
    revert hScheme
    decide
  have hFirst :
      FirstThat (Compatible sampleCrates)
        [escrowEntry, sampleDemand.accept, cheaperEntry]
        (some sampleDemand.accept) :=
    .there hEscrow
      (.here sampleDemand_acceptableEntry.compatible)
  exact ⟨cheaperEntry_acceptable,
    (first_offer_decides sampleCrates_payable.buildable
        (sampleClient payeeConfig) sampleEnv
        (sampleOffers
          [escrowEntry, sampleDemand.accept, cheaperEntry])
        (World.new payeeConfig 0)).1 sampleDemand.accept
      hFirst sampleDemand_acceptableEntry
      ⟨_, blockhashAfter_sample payeeConfig _⟩⟩

/- The same offer for another recipient. -/
def redirectedEntry : PaymentAccept :=
  { sampleDemand.accept with payTo := "thief" }

/-
  An acceptable entry is refused when a compatible one with
  another recipient is listed before it, and paid when that
  one is listed after it.
-/
theorem second_offer_ignored :
    AcceptableEntry sampleCrates payeeConfig
        sampleDemand.accept ∧
      (∃ blockhash,
        blockhashAfter (sampleClient payeeConfig) sampleEnv
            (World.new (X := sampleCrates) payeeConfig
              0).trace =
          .ok blockhash) ∧
      (∃ world',
        Runs
          ((sampleClient payeeConfig).signPaymentFor402
            sampleEnv
            (sampleOffers
              [redirectedEntry, sampleDemand.accept]))
          (World.new payeeConfig 0)
          (.error (.recipientMismatch "payee" "thief"))
          world') ∧
      ∃ header world',
        Runs
          ((sampleClient payeeConfig).signPaymentFor402
            sampleEnv
            (sampleOffers
              [sampleDemand.accept, redirectedEntry]))
          (World.new payeeConfig 0) (.ok header) world' := by
  have hTerms :
      SolvelaClient.selectTerms sampleCrates payeeConfig
          [redirectedEntry, sampleDemand.accept] =
        .error (.recipientMismatch "payee" "thief") := by
    rfl
  have hPaid :
      ∃ header world',
        Runs
            ((sampleClient payeeConfig).signPaymentFor402
              sampleEnv
              (sampleOffers
                [sampleDemand.accept, redirectedEntry]))
            (World.new payeeConfig 0) (.ok header) world' ∧
          PaysEntry (sampleClient payeeConfig)
            (sampleOffers
              [sampleDemand.accept, redirectedEntry])
            sampleDemand.accept header :=
    sampleDemand_acceptableEntry.runs_sign
      sampleCrates_payable.buildable
      (.here sampleDemand_acceptableEntry.compatible)
      (blockhashAfter_sample payeeConfig _)
  have hRefused :
      Runs
        ((sampleClient payeeConfig).signPaymentFor402
          sampleEnv
          (sampleOffers
            [redirectedEntry, sampleDemand.accept]))
        (World.new payeeConfig 0)
        (.error (.recipientMismatch "payee" "thief"))
        (World.new payeeConfig 0) := by
    apply runs_bind_pure.mpr
    refine ⟨.error (.recipientMismatch "payee" "thief"), ?_,
      rfl⟩
    exact runs_ofOutcome_bind.mpr
      (Or.inr ⟨_, hTerms, rfl, rfl⟩)
  rcases hPaid with ⟨header, world', hSigned, _⟩
  exact ⟨sampleDemand_acceptableEntry,
    ⟨_, blockhashAfter_sample payeeConfig _⟩,
    ⟨_, hRefused⟩, header, world', hSigned⟩

end Solvela
