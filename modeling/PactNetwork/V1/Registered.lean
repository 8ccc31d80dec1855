import PactNetwork.V1.Confinement

/-!
# Registered endpoints

What registration checked stays true of every endpoint of a run: it is kept
under its own printable slug, and its recipients are of known kinds.
-/

set_option autoImplicit false

namespace PactNetwork.V1

open Solana

def PrintableSlug (slug : Slug) : Prop :=
  ∀ byte ∈ slug.toList, byte = 0 ∨ 0x20 ≤ byte ∧ byte ≤ 0x7e

namespace Books

structure Labelled (books : Books) : Prop where
  config : ∀ config, books.structs .protocolConfig = some config →
    Fee.Known config.defaultFeeRecipientCount config.defaultFeeRecipients
  endpoint : ∀ slug endpoint, books.structs (.endpointConfig slug) = some endpoint →
    endpoint.slug = slug ∧ PrintableSlug slug ∧
      Fee.Known endpoint.feeRecipientCount endpoint.feeRecipients

section Labelled

variable {books : Books} (labelled : books.Labelled)

include labelled

theorem Labelled.putConfig {config : ProtocolConfig}
    (known : Fee.Known config.defaultFeeRecipientCount config.defaultFeeRecipients) :
    (books.put .protocolConfig config).Labelled := by
  constructor
  · intro stored found
    rw [put_self] at found
    cases found
    exact known
  · intro slug endpoint found
    rw [put_of_ne _ _ (by simp)] at found
    exact labelled.endpoint slug endpoint found

theorem Labelled.putEndpoint {slug : Slug} {endpoint : EndpointConfig}
    (label : endpoint.slug = slug) (printable : PrintableSlug slug)
    (known : Fee.Known endpoint.feeRecipientCount endpoint.feeRecipients) :
    (books.put (.endpointConfig slug) endpoint).Labelled := by
  constructor
  · intro stored found
    rw [put_of_ne _ _ (by simp)] at found
    exact labelled.config stored found
  · intro other stored found
    by_cases here : other = slug
    · subst here
      rw [put_self] at found
      cases found
      exact ⟨label, printable, known⟩
    · rw [put_of_ne _ _ (by simpa using here)] at found
      exact labelled.endpoint other stored found

theorem Labelled.putOther {pda : Pda} (value : pda.Struct) (notConfig : pda ≠ .protocolConfig)
    (notEndpoint : ∀ slug, pda ≠ .endpointConfig slug) : (books.put pda value).Labelled := by
  constructor
  · intro stored found
    rw [put_of_ne _ _ (Ne.symm notConfig)] at found
    exact labelled.config stored found
  · intro slug endpoint found
    rw [put_of_ne _ _ (Ne.symm (notEndpoint slug))] at found
    exact labelled.endpoint slug endpoint found

theorem Labelled.withTokens (tokens : TokenLedger) : (books.withTokens tokens).Labelled :=
  ⟨labelled.config, labelled.endpoint⟩

theorem Labelled.charge (slug : Slug) (amount : Nat) : (books.charge slug amount).Labelled :=
  ⟨labelled.config, labelled.endpoint⟩

end Labelled

end Books

/-! ## Instructions -/

section Handlers

variable {addresses : Addresses} {context : Context} {ledger result : Ledger}
  {accounts : List Address} {data : List UInt8} (fees : Slug → Nat)
  (shaped : Shaped addresses ledger)
  (labelled : (Chain.books addresses ⟨ledger, fees⟩).Labelled)

include shaped labelled

theorem labelled_of_endpoint_saved {account : Address} {state state' : EndpointConfig}
    (found : structAt EndpointConfig.layout ledger account = some state)
    (saved : save EndpointConfig.layout programId context ledger account state' = .ok result)
    (slug : state'.slug = state.slug)
    (known : Fee.Known state.feeRecipientCount state.feeRecipients →
      Fee.Known state'.feeRecipientCount state'.feeRecipients) :
    (Chain.books addresses ⟨result, fees⟩).Labelled := by
  obtain ⟨-, ⟨name, stored, books⟩ | books⟩ := endpoint_saved fees shaped found saved
  · obtain ⟨label, printable, before⟩ := labelled.endpoint name state stored
    rw [books]
    exact labelled.putEndpoint (slug.trans label) printable (known before)
  · rw [books]
    exact labelled

theorem RegisterEndpoint.labels (valid : (Chain.books addresses ⟨ledger, fees⟩).FeesValid)
    (accepted : RegisterEndpoint.process addresses context ledger accounts data = .ok result) :
    (Chain.books addresses ⟨result, fees⟩).Labelled := by
  obtain ⟨named, args, entries, count, config, treasury, configured, -, -, created, -, printable,
    known⟩ := process_created fees valid accepted
  obtain ⟨-, -, -, -, token, -, books⟩ := create_spec fees shaped created
  have pooled : ((Chain.books addresses ⟨ledger, fees⟩).put (.coveragePool args.slug)
      (pool addresses context.now args named.authority named.mint named.poolVault)).Labelled :=
    labelled.putOther _ (by simp) (by simp)
  have listed : (((Chain.books addresses ⟨ledger, fees⟩).put (.coveragePool args.slug)
      (pool addresses context.now args named.authority named.mint named.poolVault)).put
      (.endpointConfig args.slug)
      (endpoint addresses context.now args named.pool entries count)).Labelled :=
    pooled.putEndpoint rfl printable (known (labelled.config config configured))
  rw [books]
  exact listed.withTokens _

theorem SettleBatch.labels {receipts : List Receipt}
    (accepted : SettleBatch.process addresses context ledger accounts data =
      .ok (result, receipts)) :
    (Chain.books addresses ⟨result, chargeFees fees receipts⟩).Labelled := by
  obtain ⟨fixed, rest, bump, events, -, -, -, progress, loop, rfl, rfl⟩ := process_eq_ok accepted
  have whole := foldlM_invariant (fun progress : Progress => Shaped addresses progress.ledger ∧
    (Chain.books addresses ⟨progress.ledger, chargeFees fees progress.receipts⟩).Labelled) loop
    ⟨shaped, labelled⟩ ?_
  · exact whole.2
  · rintro earlier event later - ⟨sound, sofar⟩ stepped
    obtain ⟨named, receipt, pool, pool', endpoint, endpoint', status, actual, -, appended, -,
      effect⟩ := settleStep_spec stepped
    refine ⟨effect.shaped sound, ?_⟩
    rw [appended, chargeFees_append]
    rcases effect.books (chargeFees fees earlier.receipts) sound with
      failed | ⟨-, found, ⟨_, settled⟩, books⟩
    · rw [failed]
      exact sofar.putOther _ (by simp) (by simp)
    · obtain ⟨label, printable, known⟩ := sofar.endpoint _ endpoint found
      have same := settled.endpointTerms
      unfold EndpointConfig.SameTerms at same
      rw [books]
      refine Books.Labelled.charge (Books.Labelled.withTokens (Books.Labelled.putOther
        (Books.Labelled.putEndpoint ?_ ?_ printable ?_) _ (by simp) (by simp)) _) _ _
      · exact sofar.putOther _ (by simp) (by simp)
      · rw [same]
        exact label
      · rw [same]
        exact known

end Handlers

section Chain

variable {addresses : Addresses} {chain : Chain}

theorem processInstruction_labelled {instruction : Instruction} {ledger : Ledger}
    {receipts : List Receipt} (sound : Chain.Sound addresses chain)
    (labelled : (chain.books addresses).Labelled)
    (unsigned : ∀ pda, instruction.context.signer (addresses.of pda) = false)
    (processed : processInstruction addresses chain.ledger instruction = .ok (ledger, receipts)) :
    (Chain.books addresses ⟨ledger, chargeFees chain.fees receipts⟩).Labelled := by
  have shaped := sound.shaped
  obtain ⟨context, accounts, data⟩ := instruction
  cases data with
  | nil => cases processed
  | cons tag data =>
      rw [processInstruction, bind_eq_ok] at processed
      obtain ⟨discriminator, -, accepted⟩ := processed
      have plain : ∀ {outcome : Except ProgramError Ledger},
          outcome.map (·, ([] : List Receipt)) = .ok (ledger, receipts) →
            outcome = .ok ledger ∧ receipts = [] := by
        intro outcome mapped
        cases outcome with
        | error => cases mapped
        | ok => cases mapped; exact ⟨rfl, rfl⟩
      cases discriminator with
      | settleBatch => exact SettleBatch.labels chain.fees shaped labelled accepted
      | initializeSettlementAuthority =>
          obtain ⟨handled, rfl⟩ := plain accepted
          obtain ⟨-, -, authority, books⟩ :=
            InitializeSettlementAuthority.spec chain.fees shaped handled
          exact books ▸ labelled.putOther _ (by simp) (by simp)
      | registerEndpoint =>
          obtain ⟨handled, rfl⟩ := plain accepted
          exact RegisterEndpoint.labels chain.fees shaped labelled sound.books.fees handled
      | updateEndpointConfig =>
          obtain ⟨handled, rfl⟩ := plain accepted
          obtain ⟨account, state, args, found, saved⟩ := UpdateEndpointConfig.process_saved handled
          exact labelled_of_endpoint_saved chain.fees shaped labelled found saved rfl id
      | pauseEndpoint =>
          obtain ⟨handled, rfl⟩ := plain accepted
          obtain ⟨account, state, paused, found, saved⟩ := PauseEndpoint.process_saved handled
          exact labelled_of_endpoint_saved chain.fees shaped labelled found saved rfl id
      | topUpCoveragePool =>
          obtain ⟨handled, rfl⟩ := plain accepted
          obtain ⟨-, slug, pool, pool', payment, tokens, -, -, -, -, -, -, books⟩ :=
            TopUpCoveragePool.spec chain.fees shaped unsigned handled
          exact books ▸ (labelled.putOther _ (by simp) (by simp)).withTokens tokens
      | initializeProtocolConfig =>
          obtain ⟨handled, rfl⟩ := plain accepted
          obtain ⟨-, -, config, -, -, known, books⟩ :=
            InitializeProtocolConfig.spec chain.fees shaped handled
          exact books ▸ labelled.putConfig known
      | initializeTreasury =>
          obtain ⟨handled, rfl⟩ := plain accepted
          obtain ⟨-, -, treasury, token, -, books⟩ :=
            InitializeTreasury.spec chain.fees shaped handled
          exact books ▸ (labelled.putOther _ (by simp) (by simp)).withTokens _
      | updateFeeRecipients =>
          obtain ⟨handled, rfl⟩ := plain accepted
          obtain ⟨slug, state, entries, count, config, treasury, -, -, -, found, saved, known⟩ :=
            UpdateFeeRecipients.process_saved handled
          exact labelled_of_endpoint_saved chain.fees shaped labelled found saved rfl fun _ => known
      | pauseProtocol =>
          obtain ⟨handled, rfl⟩ := plain accepted
          obtain ⟨-, config, paused, found, books⟩ := PauseProtocol.spec chain.fees shaped handled
          exact books ▸ labelled.putConfig (labelled.config config found)

theorem Chain.Next.labelled {before after : Chain} (sound : Sound addresses before)
    (labelled : (before.books addresses).Labelled) (next : Next addresses before after) :
    (after.books addresses).Labelled := by
  cases next with
  | instruction instruction unsigned =>
      unfold execute
      split
      case h_1 ledger receipts processed =>
        exact processInstruction_labelled sound labelled unsigned processed
      case h_2 => exact labelled
  | @outside ledger outside =>
      have same : structOf addresses ledger = structOf addresses before.ledger := by
        funext pda
        obtain ⟨owner, data⟩ := outside.derived pda
        simp only [structOf, structAt, owner, data]
      constructor
      · intro config found
        rw [Chain.books, same] at found
        exact labelled.config config found
      · intro slug endpoint found
        rw [Chain.books, same] at found
        exact labelled.endpoint slug endpoint found

theorem Chain.Reached.labelled (reached : Reached addresses chain) :
    (chain.books addresses).Labelled := by
  refine (Reachable.invariant (fun chain => Sound addresses chain ∧
    (chain.books addresses).Labelled) reached ?_ ?_).2
  · intro first genesis
    have vacant : ∀ pda, structOf addresses first.ledger pda = none := fun pda =>
      structOf_eq_none_of_owner (by
        rw [(genesis.vacant pda).1]
        exact Ne.symm SettleBatch.programId_ne_systemProgram)
    refine ⟨genesis.sound, ⟨fun config found => ?_, fun slug endpoint found => ?_⟩⟩
    · cases (vacant _).symm.trans found
    · cases (vacant _).symm.trans found
  · rintro before after ⟨sound, labelled⟩ next
    exact ⟨next.sound sound, next.labelled sound labelled⟩

end Chain

end PactNetwork.V1
