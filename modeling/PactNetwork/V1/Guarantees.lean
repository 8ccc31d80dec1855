import PactNetwork.V1.ProgramBooks

/-!
# What the V1 program guarantees

Solvency of every pool, validity of every endpoint's fee recipients, and
records that tell what happened, in every chain that can come about.
-/

set_option autoImplicit false

namespace PactNetwork.V1

open Solana

/-! ## A run to evaluate -/

namespace Demo

open SettleBatch.Demo (addresses named settler agentAta vault treasuryVault slug token slot)

def blankToken : Account := ⟨1000, tokenProgram, List.replicate 165 0⟩

def mint : Account := ⟨1000, tokenProgram, List.replicate 45 0 ++ [1] ++ List.replicate 36 0⟩

def accounts : List (Address × Account) :=
  [(settler, ⟨1000000, systemProgram, []⟩), (usdcMainnet, mint), (vault, blankToken),
   (treasuryVault, blankToken),
   (agentAta, SettleBatch.Demo.tokenAccount (token settler 5000 5000))]

def genesis : Chain where
  ledger address := (accounts.lookup address).getD Account.absent
  fees _ := 0

theorem head_derived (pda : Pda) :
    (addresses.of pda).toList.head? ∈ [some 29, some 24, some (20 : UInt8), some 8, some 15] := by
  have head : (addresses.of pda).toList.head? = some (UInt8.ofNat pda.seeds.flatten.length) := rfl
  rw [head]
  cases pda <;> simp [Pda.seeds, ascii]

theorem derived_ne {key : Address}
    (other : key.toList.head? ∉ [some 29, some 24, some (20 : UInt8), some 8, some 15])
    (pda : Pda) : addresses.of pda ≠ key := by
  rintro rfl
  exact other (head_derived pda)

theorem genesis_vacant (pda : Pda) : genesis.ledger (addresses.of pda) = Account.absent := by
  have missing : accounts.lookup (addresses.of pda) = none := by
    rw [List.lookup_eq_none_iff]
    intro entry member
    simp only [accounts, List.mem_cons, List.not_mem_nil, or_false] at member
    rcases member with rfl | rfl | rfl | rfl | rfl <;>
      exact bne_iff_ne.mpr (derived_ne (by decide) pda)
  show (accounts.lookup (addresses.of pda)).getD Account.absent = Account.absent
  rw [missing]
  rfl

theorem genesis_begins : Chain.Genesis addresses genesis where
  vacant pda := by
    rw [genesis_vacant]
    exact ⟨rfl, rfl⟩
  unpaid _ := rfl

def instruction (accounts : List Address) (data : List UInt8) : Instruction :=
  ⟨SettleBatch.Demo.context, accounts, data⟩

def args : RegisterEndpoint.Args where
  slug := slug
  flatPremiumLamports := 1000
  percentBps := 0
  slaLatencyMs := 500
  imputedCostLamports := 1000
  exposureCapPerHourLamports := 2000
  feeRecipientsPresent := 0
  feeRecipientCount := 0

def configure : Instruction :=
  instruction [settler, addresses.of .protocolConfig, usdcMainnet, systemProgram]
    ([12, 0, 0, 0, 1] ++ FeeRecipient.layout.encode
      { SettleBatch.Demo.recipient with destination := named 32 0 })

def setup : List Instruction :=
  [instruction [settler, addresses.of .protocolConfig, addresses.of .treasury, treasuryVault,
      usdcMainnet, systemProgram, tokenProgram] [13],
   instruction [settler, addresses.of .protocolConfig, addresses.of .settlementAuthority,
      systemProgram] (1 :: settler.toList),
   instruction [settler, addresses.of .protocolConfig, addresses.of .treasury,
      addresses.of (.endpointConfig slug), addresses.of (.coveragePool slug), vault, usdcMainnet,
      systemProgram, tokenProgram] (2 :: RegisterEndpoint.Args.layout.encode args),
   instruction [settler, addresses.of (.coveragePool slug), agentAta, vault, tokenProgram]
      (9 :: slug.toList ++ Layout.u64.encode 500)]

def batchAccounts : List Address :=
  SettleBatch.Demo.fixed.toList ++ (slot 1 1000 1200).accounts.toList

def batchData : List UInt8 := SettleBatch.encodeEvents [(slot 1 1000 1200).event]

def run (instructions : List Instruction) (chain : Chain) : Chain :=
  instructions.foldl (Chain.execute addresses) chain

def configured : Chain := run [configure] genesis

def funded : Chain := run setup configured

def settled : Chain := run [instruction batchAccounts (10 :: batchData)] funded

theorem unsigned (accounts : List Address) (data : List UInt8) (pda : Pda) :
    (instruction accounts data).context.signer (addresses.of pda) = false :=
  decide_eq_false (derived_ne (by decide) pda)

theorem configured_reached : Chain.Reached addresses configured :=
  Reachable.trans (.start genesis_begins) (Chain.run_execute genesis [configure] fun _ member => by
    cases List.mem_singleton.mp member
    exact unsigned _ _)

theorem funded_later : Relation.ReflTransGen (Chain.Next addresses) configured funded :=
  Chain.run_execute configured setup fun next member => by
    simp only [setup, List.mem_cons, List.not_mem_nil, or_false] at member
    rcases member with rfl | rfl | rfl | rfl <;> exact unsigned _ _

theorem funded_reached : Chain.Reached addresses funded :=
  Reachable.trans configured_reached funded_later

theorem settled_reached : Chain.Reached addresses settled :=
  Reachable.trans funded_reached (Chain.run_execute funded _ fun _ member => by
    cases List.mem_singleton.mp member
    exact unsigned _ _)

end Demo

/-! ## Solvency -/

section Solvency

variable {addresses : Addresses} {chain : Chain}

/-- Every pool's vault covers its balance, and its ledger accounts for every
token that came in. -/
theorem pool_solvent (reached : Chain.Reached addresses chain) (slug : Slug) {pool : CoveragePool}
    (stored : structAt CoveragePool.layout chain.ledger (addresses.of (.coveragePool slug)) =
      some pool) :
    (∃ vault, tokenAt chain.ledger pool.usdcVault = some vault ∧
      pool.currentBalance.toNat ≤ vault.amount.toNat) ∧
    pool.currentBalance.toNat + pool.totalRefunds.toNat + chain.fees slug =
      pool.totalDeposits.toNat + pool.totalPremiums.toNat := by
  obtain ⟨shaped, solvent, -, -⟩ := reached.sound
  have found : structOf addresses chain.ledger (.coveragePool slug) = some pool :=
    shaped.structOf_of_found stored
  obtain ⟨vault, held, -, covered⟩ := solvent.held slug pool found
  exact ⟨⟨vault, held, covered⟩, solvent.balanced slug pool found⟩

/-- After a top-up of 500, a premium of 1000 and a refund of 1200 the pool holds
200 and has paid 100 in fees. -/
theorem pool_solvent_demo : ∃ pool : CoveragePool, pool.currentBalance = 200 ∧
    (∃ vault, tokenAt Demo.settled.ledger pool.usdcVault = some vault ∧
      200 ≤ vault.amount.toNat) ∧
    200 + pool.totalRefunds.toNat + Demo.settled.fees SettleBatch.Demo.slug =
      pool.totalDeposits.toNat + pool.totalPremiums.toNat := by
  have stored : (structAt CoveragePool.layout Demo.settled.ledger
      (SettleBatch.Demo.addresses.of (.coveragePool SettleBatch.Demo.slug))).map
        CoveragePool.currentBalance = some 200 := by decide +kernel
  obtain ⟨pool, found, balance⟩ := Option.map_eq_some_iff.mp stored
  obtain ⟨⟨vault, held, covered⟩, balanced⟩ :=
    pool_solvent Demo.settled_reached SettleBatch.Demo.slug found
  rw [balance] at covered balanced
  exact ⟨pool, balance, ⟨vault, held, covered⟩, balanced⟩

end Solvency

/-! ## Fee recipients -/

section Fees

variable {addresses : Addresses} {earlier chain : Chain}

theorem Chain.Reached.termsKept (reached : Reached addresses earlier)
    (later : Relation.ReflTransGen (Next addresses) earlier chain) :
    Reached addresses chain ∧
      Books.TermsKept (earlier.books addresses) (chain.books addresses) := by
  induction later with
  | refl => exact ⟨reached, .refl _⟩
  | tail _ next ih =>
      obtain ⟨middle, kept⟩ := ih
      have advances := next.advances middle.sound
      exact ⟨.next middle next, kept.trans (Books.termsKept_of_steps advances.steps)⟩

/-- The fan-out of a premium among recipients that share at most the whole pays
at most the premium, and never more than a pool that was just credited with it
holds. -/
theorem fanOut_covered {context : Context} {event : SettlementEvent} {accounts : EventAccounts}
    {recipients : List FeeRecipient} {ledger result : Ledger} {total : UInt64}
    {paid : List (Address × UInt64)} {pool credited : CoveragePool}
    (whole : (recipients.map fun recipient => recipient.bps.toNat).sum ≤ 10000)
    (finished : SettleBatch.payFees addresses context event accounts recipients ledger 0 [] =
      .ok (result, total, paid))
    (credit : SettleBatch.creditPremium pool event.premiumLamports = .ok credited) :
    total.toNat ≤ event.premiumLamports.toNat ∧
      ∃ debited, SettleBatch.debitPool credited total = .ok debited := by
  obtain ⟨-, sum⟩ := SettleBatch.payFees_total finished
  have bound : (amounts (SettleBatch.feeShares event.premiumLamports recipients)).sum ≤
      event.premiumLamports.toNat := SettleBatch.sum_feeShares_le whole
  have within : total.toNat ≤ event.premiumLamports.toNat := by
    rw [sum, UInt64.toNat_zero, Nat.zero_add]
    exact bound
  obtain ⟨-, ledger'⟩ := SettleBatch.creditPremium_spec credit
  have balance := congrArg Settlement.Pool.balance ledger'
  refine ⟨within, SettleBatch.debitPool_isOk ?_⟩
  rw [balance]
  exact within.trans (Nat.le_add_left _ _)

/-- Every endpoint's stored recipients are valid under the fee cap, which has
been the same since the protocol was configured, so the fan-out of any premium
is covered by it. -/
theorem fee_recipients_valid (reached : Chain.Reached addresses earlier)
    (later : Relation.ReflTransGen (Chain.Next addresses) earlier chain) (slug : Slug)
    {endpoint : EndpointConfig}
    (stored : structAt EndpointConfig.layout chain.ledger (addresses.of (.endpointConfig slug)) =
      some endpoint) :
    ∃ config treasury,
      structAt ProtocolConfig.layout chain.ledger (addresses.of .protocolConfig) = some config ∧
      structAt Treasury.layout chain.ledger (addresses.of .treasury) = some treasury ∧
      Fee.ValidRecipients endpoint.recipients config.maxTotalFeeBps.toNat treasury.usdcVault ∧
      config.maxTotalFeeBps.toNat ≤ 10000 ∧
      (∀ before, structAt ProtocolConfig.layout earlier.ledger (addresses.of .protocolConfig) =
        some before → before.maxTotalFeeBps = config.maxTotalFeeBps) ∧
      ∀ context event accounts ledger result total paid pool credited,
        SettleBatch.payFees addresses context event accounts endpoint.recipients ledger 0 [] =
          .ok (result, total, paid) →
        SettleBatch.creditPremium pool event.premiumLamports = .ok credited →
        total.toNat ≤ event.premiumLamports.toNat ∧
          ∃ debited, SettleBatch.debitPool credited total = .ok debited := by
  obtain ⟨last, kept⟩ := reached.termsKept later
  obtain ⟨shaped, -, valid, -⟩ := last.sound
  obtain ⟨config, treasury, configured, opened, recipients⟩ :=
    valid.endpoint slug endpoint (shaped.structOf_of_found stored)
  have cap : config.maxTotalFeeBps.toNat ≤ 10000 := (valid.config config configured).1
  refine ⟨config, treasury, (structOf_eq_some.mp configured).2, (structOf_eq_some.mp opened).2,
    recipients, cap, fun before found => ?_, ?_⟩
  · obtain ⟨config', configured', same⟩ :=
      kept.config before (reached.sound.shaped.structOf_of_found found)
    cases configured.symm.trans configured'
    exact same.symm
  · intro context event accounts ledger result total paid pool credited finished credit
    exact fanOut_covered (recipients.sum_le.trans cap) finished credit

/-- The endpoint registered from the template pays the treasury's vault. -/
theorem fee_recipients_valid_demo : ∃ endpoint : EndpointConfig, endpoint.feeRecipientCount = 1 ∧
    ∃ treasury, structAt Treasury.layout Demo.funded.ledger
        (SettleBatch.Demo.addresses.of .treasury) = some treasury ∧
      Fee.ValidRecipients endpoint.recipients 3000 treasury.usdcVault := by
  have stored : (structAt EndpointConfig.layout Demo.funded.ledger
      (SettleBatch.Demo.addresses.of (.endpointConfig SettleBatch.Demo.slug))).map
        EndpointConfig.feeRecipientCount = some 1 := by decide +kernel
  have cap : (structAt ProtocolConfig.layout Demo.configured.ledger
      (SettleBatch.Demo.addresses.of .protocolConfig)).map ProtocolConfig.maxTotalFeeBps =
        some 3000 := by decide +kernel
  obtain ⟨endpoint, found, count⟩ := Option.map_eq_some_iff.mp stored
  obtain ⟨before, first, initial⟩ := Option.map_eq_some_iff.mp cap
  obtain ⟨config, treasury, -, opened, valid, -, same, -⟩ := fee_recipients_valid
    Demo.configured_reached Demo.funded_later SettleBatch.Demo.slug found
  rw [← same before first, initial] at valid
  exact ⟨endpoint, count, treasury, opened, valid⟩

end Fees

/-! ## Records -/

section Records

/-- No tokens, no pool counters and no endpoint money counters changed. -/
structure NothingMoved (pool pool' : CoveragePool) (endpoint endpoint' : EndpointConfig)
    (tokens tokens' : TokenLedger) : Prop where
  tokens : tokens' = tokens
  pool : pool'.ledger = pool.ledger
  premiums : endpoint'.totalPremiums = endpoint.totalPremiums
  refunds : endpoint'.totalRefunds = endpoint.totalRefunds
  periodRefunds : endpoint'.currentPeriodRefunds = endpoint.currentPeriodRefunds

/-- The tokens an event moved: the premium from the agent to the vault, then
fees and the refund from the vault. -/
def TokensMoved (fixed : FixedAccounts) (event : SettlementEvent) (accounts : EventAccounts)
    (fees : List (Address × UInt64)) (actual : UInt64) (tokens tokens' : TokenLedger) : Prop :=
  ∃ credited spread,
    TokenLedger.Pays tokens
      ⟨accounts.agentAta, accounts.poolVault, fixed.settlementAuth, event.premiumLamports⟩
      credited ∧
    TokenLedger.PaysAll credited (fees.map fun payout =>
      ⟨accounts.poolVault, payout.1, accounts.coveragePool, payout.2⟩) spread ∧
    ((actual = 0 ∧ tokens' = spread) ∨ TokenLedger.Pays spread
      ⟨accounts.poolVault, accounts.agentAta, accounts.coveragePool, actual⟩ tokens')

/-- What a record says about its event is what the event did. -/
structure Truthful (now : Int64) (fixed : FixedAccounts) (event : SettlementEvent)
    (accounts : EventAccounts) (fees : List (Address × UInt64)) (pool pool' : CoveragePool)
    (endpoint endpoint' : EndpointConfig) (tokens tokens' : TokenLedger) (record : CallRecord) :
    Prop where
  requested : record.callId = event.callId ∧ record.endpointSlug = event.endpointSlug ∧
    record.premiumLamports = event.premiumLamports ∧ record.refundLamports = event.refundLamports
  failed : record.settlementStatus = SettlementStatus.delegateFailed.toU8 ↔
    NothingMoved pool pool' endpoint endpoint' tokens tokens'
  premium : record.settlementStatus ≠ SettlementStatus.delegateFailed.toU8 →
    accounts.agentAta ≠ accounts.poolVault ∧
      TokensMoved fixed event accounts fees record.actualRefundLamports tokens tokens'
  bounded : record.actualRefundLamports.toNat ≤ record.refundLamports.toNat
  settled : record.settlementStatus = SettlementStatus.settled.toU8 →
    record.actualRefundLamports = record.refundLamports
  clamped : record.settlementStatus = SettlementStatus.exposureCapClamped.toU8 →
    let window := endpoint.counters.roll now.toInt
    record.actualRefundLamports.toNat < record.refundLamports.toNat ∧
      record.actualRefundLamports.toNat = window.cap - window.periodRefunds
  depleted : record.settlementStatus = SettlementStatus.poolDepleted.toU8 →
    record.actualRefundLamports = 0 ∧
      (pool.ledger.collect (event.call fees)).balance <
        (endpoint.counters.roll now.toInt).payable event.refundLamports.toNat

theorem status_of_record {event : SettlementEvent} {bump : UInt8} {status shown : SettlementStatus}
    {actual : UInt64} (same : (event.record bump status actual).settlementStatus = shown.toU8) :
    status = shown := SettlementStatus.toU8_injective same

variable {addresses : Addresses} {context : Context} {fixed : FixedAccounts}
  {event : SettlementEvent} {accounts : EventAccounts} {pool pool' : CoveragePool}
  {endpoint endpoint' : EndpointConfig} {before after : Ledger} {status : SettlementStatus}
  {actual : UInt64} {receipt : Receipt}

theorem SettleBatch.Settled.moved {now : Int64} {tokens tokens' : TokenLedger}
    {fees : List (Address × UInt64)} {outcome : Settlement.Outcome}
    (settled : SettleBatch.Settled now fixed event accounts endpoint.recipients pool pool' endpoint
      endpoint' tokens tokens' status actual fees outcome)
    (positive : 0 < event.premiumLamports.toNat) :
    ¬NothingMoved pool pool' endpoint endpoint' tokens tokens' := by
  intro nothing
  have premiums := congrArg Settlement.Pool.premiums nothing.pool
  obtain ⟨paid, -⟩ := Settlement.settle_pool pool.ledger endpoint.counters now.toInt
    (event.call fees)
  rw [settled.poolLedger, settled.outcome_eq, paid] at premiums
  have more : pool.ledger.premiums + event.premiumLamports.toNat = pool.ledger.premiums := premiums
  omega

theorem SettleBatch.Effect.truthful (effect : SettleBatch.Effect addresses context fixed event accounts pool
      pool' endpoint endpoint' before after status actual receipt)
    (positive : 0 < event.premiumLamports.toNat)
    (apart : fixed.settlementAuth ≠ accounts.coveragePool) {vault : TokenAccount}
    (held : tokenAt before accounts.poolVault = some vault)
    (exclusive : vault.Exclusive accounts.coveragePool) :
    Truthful context.now fixed event accounts receipt.fees pool pool' endpoint endpoint'
      (tokenAt before) (tokenAt after) receipt.record := by
  rw [effect.written]
  rcases effect.outcome with
    ⟨-, rfl, rfl, -, rfl, rfl, tokens, -⟩ | ⟨-, -, -, outcome, settled⟩
  · refine ⟨⟨rfl, rfl, rfl, rfl⟩, ⟨fun _ => ⟨tokens, rfl, rfl, rfl, rfl⟩, fun _ => rfl⟩,
      fun other => (other rfl).elim, Nat.zero_le _, ?_, ?_, ?_⟩
    all_goals
      intro other
      cases status_of_record other
  · have facts := Settlement.settle_status pool.ledger endpoint.counters context.now.toInt
      (event.call receipt.fees)
    simp only [← settled.outcome_eq, ← settled.status, ← settled.refund] at facts
    obtain ⟨bounded, collected, whole, clamped, depleted⟩ := facts
    have charged : status ≠ .delegateFailed := by
      rintro rfl
      exact collected rfl
    refine ⟨⟨rfl, rfl, rfl, rfl⟩, ⟨fun failed => (charged (status_of_record failed)).elim,
      fun nothing => (settled.moved positive nothing).elim⟩, fun _ => ⟨?_, settled.tokens⟩,
      bounded, ?_, ?_, ?_⟩
    · obtain ⟨_, _, premium, -⟩ := settled.tokens
      exact premium.source_ne held exclusive apart
    · intro same
      cases status_of_record same
      exact UInt64.toNat_inj.mp (whole rfl)
    · intro same
      cases status_of_record same
      exact clamped rfl
    · intro same
      cases status_of_record same
      obtain ⟨none_, short⟩ := depleted rfl
      exact ⟨UInt64.toNat_inj.mp none_, short⟩

/-- Every event of an accepted batch leaves a record that stays and is truthful
about the turn of the loop that wrote it. -/
def RecordsTruthful (addresses : Addresses) (context : Context) (before : Ledger)
    (list : List Address) (data : List UInt8) (after : Ledger) : Prop :=
  ∃ fixed rest bump events, SettleBatch.takeFixed list = .ok (fixed, rest) ∧
    SettleBatch.checkFixed addresses context before fixed = .ok bump ∧
    SettleBatch.parseEvents data = .ok events ∧
    ∀ index (inside : index < events.length), ∃ earlier later : SettleBatch.Progress,
      (events.take index).foldlM (SettleBatch.settleStep addresses context fixed bump)
        ⟨before, rest, []⟩ = .ok earlier ∧
      SettleBatch.settleStep addresses context fixed bump earlier events[index] = .ok later ∧
      ∃ accounts receipt pool pool' endpoint endpoint',
        SettleBatch.takeEvent events[index].feeCountHint earlier.rest =
          .ok (accounts, later.rest) ∧
        later.receipts = earlier.receipts ++ [receipt] ∧
        structAt CoveragePool.layout earlier.ledger accounts.coveragePool = some pool ∧
        structAt CoveragePool.layout later.ledger accounts.coveragePool = some pool' ∧
        structAt EndpointConfig.layout earlier.ledger accounts.endpointConfig = some endpoint ∧
        structAt EndpointConfig.layout later.ledger accounts.endpointConfig = some endpoint' ∧
        structAt CallRecord.layout after (addresses.of (.callRecord events[index].callId)) =
          some receipt.record ∧
        Truthful context.now fixed events[index] accounts receipt.fees pool pool' endpoint
          endpoint' (tokenAt earlier.ledger) (tokenAt later.ledger) receipt.record

theorem Chain.Reached.recordsTruthful {chain : Chain} {list : List Address} {data : List UInt8}
    {receipts : List Receipt} (reached : Reached addresses chain)
    (accepted : SettleBatch.process addresses context chain.ledger list data =
      .ok (after, receipts)) :
    RecordsTruthful addresses context chain.ledger list data after := by
  obtain ⟨fixed, rest, bump, events, taken, checked, parsed, progress, loop, rfl, rfl⟩ :=
    SettleBatch.process_eq_ok accepted
  refine ⟨fixed, rest, bump, events, taken, checked, parsed, fun index inside => ?_⟩
  obtain ⟨earlier, later, front, stepped, back⟩ := foldlM_split loop index inside
  have authority := (SettleBatch.checkFixed_spec checked).2.1.1
  have sound := reached.sound
  have sofar := SettleBatch.loop_advances chain.fees authority sound.shaped front
  obtain ⟨accounts, receipt, pool, pool', endpoint, endpoint', status, actual, slots, appended,
    positive, effect⟩ := SettleBatch.settleStep_spec stepped
  have bound := effect.bound
  have books := Books.sound_of_steps sofar.steps sound.books
  have poolFound := bound.poolFound
  rw [bound.coveragePool] at poolFound
  obtain ⟨vault, held, exclusive, -⟩ :=
    books.solvent.held _ pool (sofar.shaped.structOf_of_found poolFound)
  rw [bound.vault] at held
  rw [← bound.coveragePool] at exclusive
  have apart : fixed.settlementAuth ≠ accounts.coveragePool := by
    rw [authority, bound.coveragePool]
    simp
  have stays := SettleBatch.loop_advances chain.fees authority (effect.shaped sofar.shaped) back
  have final := Books.recordKept_of_steps stays.steps effect.recordWritten.2
  rw [← effect.written] at final
  exact ⟨earlier, later, front, stepped, accounts, receipt, pool, pool', endpoint, endpoint', slots,
    appended, bound.poolFound, effect.poolAfter, bound.endpointFound, effect.endpointAfter,
    (structOf_eq_some.mp final).2, effect.truthful positive apart held exclusive⟩

def recordedRefunds (addresses : Addresses) (ledger : Ledger) (slug : Slug) : Nat :=
  ∑ id : CallId, Books.recordedRefund slug
    (structAt CallRecord.layout ledger (addresses.of (.callRecord id)))

/-- Records are truthful batch by batch, and over a whole run they account for
every refund. -/
theorem call_records_sound {chain : Chain} (reached : Chain.Reached addresses chain) :
    (∀ context list data after receipts,
      SettleBatch.process addresses context chain.ledger list data = .ok (after, receipts) →
        RecordsTruthful addresses context chain.ledger list data after) ∧
    ∀ slug pool endpoint,
      structAt CoveragePool.layout chain.ledger (addresses.of (.coveragePool slug)) = some pool →
      structAt EndpointConfig.layout chain.ledger (addresses.of (.endpointConfig slug)) =
        some endpoint →
      recordedRefunds addresses chain.ledger slug = pool.totalRefunds.toNat ∧
        recordedRefunds addresses chain.ledger slug = endpoint.totalRefunds.toNat := by
  refine ⟨fun context list data after receipts accepted => reached.recordsTruthful accepted,
    fun slug pool endpoint poolFound endpointFound => ?_⟩
  obtain ⟨shaped, -, -, recorded⟩ := reached.sound
  have same : recordedRefunds addresses chain.ledger slug =
      (chain.books addresses).refunds slug :=
    Finset.sum_congr rfl fun id _ => congrArg _ (shaped.structOf_eq (.callRecord id)).symm
  rw [same]
  exact ⟨(recorded.pool slug pool (shaped.structOf_of_found poolFound)).symm,
    (recorded.endpoint slug endpoint (shaped.structOf_of_found endpointFound)).symm⟩

/-- A call settled with its refund of 1200 in full. -/
theorem call_records_sound_demo :
    (∃ after receipts, SettleBatch.process SettleBatch.Demo.addresses SettleBatch.Demo.context
        Demo.funded.ledger Demo.batchAccounts Demo.batchData = .ok (after, receipts) ∧
      RecordsTruthful SettleBatch.Demo.addresses SettleBatch.Demo.context Demo.funded.ledger
        Demo.batchAccounts Demo.batchData after) ∧
    recordedRefunds SettleBatch.Demo.addresses Demo.settled.ledger SettleBatch.Demo.slug =
      1200 := by
  have accepted : accepts (SettleBatch.process SettleBatch.Demo.addresses
      SettleBatch.Demo.context Demo.funded.ledger Demo.batchAccounts Demo.batchData) := by
    decide +kernel
  have stored : (structAt CoveragePool.layout Demo.settled.ledger
        (SettleBatch.Demo.addresses.of (.coveragePool SettleBatch.Demo.slug))).map
          CoveragePool.totalRefunds = some 1200 ∧
      (structAt EndpointConfig.layout Demo.settled.ledger
        (SettleBatch.Demo.addresses.of (.endpointConfig SettleBatch.Demo.slug))).isSome := by
    decide +kernel
  obtain ⟨⟨after, receipts⟩, batch⟩ := accepted
  obtain ⟨pool, poolFound, total⟩ := Option.map_eq_some_iff.mp stored.1
  obtain ⟨endpoint, endpointFound⟩ := Option.isSome_iff_exists.mp stored.2
  refine ⟨⟨after, receipts, batch, (call_records_sound Demo.funded_reached).1 _ _ _ _ _ batch⟩, ?_⟩
  have sum := ((call_records_sound Demo.settled_reached).2 SettleBatch.Demo.slug pool endpoint
    poolFound endpointFound).1
  rw [sum, total]
  rfl

end Records

end PactNetwork.V1
