import Mathlib.Algebra.BigOperators.Group.Finset.Piecewise
import Mathlib.Data.Fintype.Vector
import PactNetwork.V1.Books

/-!
# Invariants of the books

Solvency, valid fee recipients, and records that account for every refund.
Each is preserved by every step, so each holds of every run.
-/

set_option autoImplicit false

namespace PactNetwork.V1

open Solana

/-! ## The tokens of a settled event -/

namespace SettleBatch

section Settled

variable {now : Int64} {fixed : FixedAccounts} {event : SettlementEvent}
  {accounts : EventAccounts} {recipients : List FeeRecipient} {pool pool' : CoveragePool}
  {endpoint endpoint' : EndpointConfig} {tokens tokens' : TokenLedger}
  {status : SettlementStatus} {actual : UInt64} {fees : List (Address × UInt64)}
  {outcome : Settlement.Outcome} {token : TokenAccount} {address owner : Address}

theorem sum_vaultPayments (fees : List (Address × UInt64)) (vault authority owner : Address) :
    ((fees.map fun payout => (⟨vault, payout.1, authority, payout.2⟩ : Payment)).map
      fun payment => if payment.authority = owner then payment.amount.toNat else 0).sum =
        if authority = owner then (amounts fees).sum else 0 := by
  rw [List.map_map]
  split
  case isTrue own => simp only [Function.comp_def, own, ↓reduceIte, amounts]
  case isFalse foreign => simp [Function.comp_def, foreign]

theorem Settled.others (settled : Settled now fixed event accounts recipients pool pool' endpoint
      endpoint' tokens tokens' status actual fees outcome)
    (found : tokens address = some token) (exclusive : token.Exclusive owner)
    (notAuthority : fixed.settlementAuth ≠ owner) (notPool : accounts.coveragePool ≠ owner) :
    ∃ token', tokens' address = some token' ∧ token'.Exclusive owner ∧
      token.amount.toNat ≤ token'.amount.toNat := by
  obtain ⟨credited, spread, premium, fanOut, refund⟩ := settled.tokens
  obtain ⟨first, found', exclusive', gained⟩ := premium.exclusive found exclusive
  obtain ⟨second, found'', exclusive'', gained'⟩ := fanOut.exclusive found' exclusive'
  rw [if_neg notAuthority] at gained
  rw [sum_vaultPayments, if_neg notPool] at gained'
  rcases refund with ⟨-, rfl⟩ | paid
  · exact ⟨second, found'', exclusive'', by omega⟩
  · obtain ⟨last, found3, exclusive3, gained3⟩ := paid.exclusive found'' exclusive''
    rw [if_neg notPool] at gained3
    exact ⟨last, found3, exclusive3, by omega⟩

theorem Settled.vault (settled : Settled now fixed event accounts recipients pool pool' endpoint
      endpoint' tokens tokens' status actual fees outcome)
    (found : tokens accounts.poolVault = some token)
    (exclusive : token.Exclusive accounts.coveragePool)
    (notAuthority : fixed.settlementAuth ≠ accounts.coveragePool) :
    ∃ token', tokens' accounts.poolVault = some token' ∧
      token'.Exclusive accounts.coveragePool ∧
      token.amount.toNat + event.premiumLamports.toNat ≤
        token'.amount.toNat + ((amounts fees).sum + actual.toNat) := by
  obtain ⟨credited, spread, premium, fanOut, refund⟩ := settled.tokens
  obtain ⟨first, found', exclusive', gained⟩ :=
    premium.credited found exclusive notAuthority rfl
  obtain ⟨second, found'', exclusive'', gained'⟩ := fanOut.exclusive found' exclusive'
  rw [sum_vaultPayments, if_pos rfl] at gained'
  simp only at gained
  rcases refund with ⟨-, rfl⟩ | paid
  · exact ⟨second, found'', exclusive'', by omega⟩
  · obtain ⟨last, found3, exclusive3, gained3⟩ := paid.exclusive found'' exclusive''
    simp only [↓reduceIte] at gained3
    exact ⟨last, found3, exclusive3, by omega⟩

end Settled

end SettleBatch

namespace Books

variable {addresses : Addresses} {books books' : Books}

/-! ## Solvency -/

/-- A step that changes one pool keeps solvency if it keeps that pool's books
and takes nothing from the other vaults. -/
theorem Solvent.change (solvent : Solvent addresses books) (slug : Slug) (pool' : CoveragePool)
    (found : books'.structs (.coveragePool slug) = some pool')
    (own : ∃ token, books'.tokens pool'.usdcVault = some token ∧
      token.Exclusive (addresses.of (.coveragePool slug)) ∧
      pool'.ledger.balance ≤ token.amount.toNat)
    (balanced : pool'.ledger.Balanced (books'.fees slug))
    (pools : ∀ other, other ≠ slug →
      books'.structs (.coveragePool other) = books.structs (.coveragePool other) ∧
        books'.fees other = books.fees other)
    (kept : ∀ address token other, other ≠ slug → books.tokens address = some token →
      token.Exclusive (addresses.of (.coveragePool other)) →
        ∃ token', books'.tokens address = some token' ∧
          token'.Exclusive (addresses.of (.coveragePool other)) ∧
          token.amount.toNat ≤ token'.amount.toNat) :
    Solvent addresses books' where
  held other pool stored := by
    by_cases same : other = slug
    · subst same
      cases found.symm.trans stored
      exact own
    · rw [(pools other same).1] at stored
      obtain ⟨token, vault, exclusive, covered⟩ := solvent.held other pool stored
      obtain ⟨token', stays, exclusive', grows⟩ := kept _ token other same vault exclusive
      exact ⟨token', stays, exclusive', covered.trans grows⟩
  balanced other pool stored := by
    by_cases same : other = slug
    · subst same
      cases found.symm.trans stored
      exact balanced
    · rw [(pools other same).1] at stored
      rw [(pools other same).2]
      exact solvent.balanced other pool stored
  unregistered other absent := by
    by_cases same : other = slug
    · subst same
      rw [found] at absent
      cases absent
    · rw [(pools other same).1] at absent
      rw [(pools other same).2]
      exact solvent.unregistered other absent

theorem kept_of_opened {tokens : TokenLedger} {vault address : Address}
    {token opened : TokenAccount} {owner : Address} (fresh : tokens vault = none)
    (found : tokens address = some token) (exclusive : token.Exclusive owner) :
    ∃ token', Function.update tokens vault (some opened) address = some token' ∧
      token'.Exclusive owner ∧ token.amount.toNat ≤ token'.amount.toNat := by
  have different : address ≠ vault := by
    rintro rfl
    rw [fresh] at found
    cases found
  exact ⟨token, by rw [Function.update_of_ne different, found], exclusive, Nat.le_refl _⟩

theorem Step.solvent (solvent : Solvent addresses books) (step : Step addresses books books') :
    Solvent addresses books' := by
  have untouched : ∀ address token pda, books.tokens address = some token →
      token.Exclusive (addresses.of pda) → ∃ token', books.tokens address = some token' ∧
        token'.Exclusive (addresses.of pda) ∧ token.amount.toNat ≤ token'.amount.toNat :=
    fun _ token _ found exclusive => ⟨token, found, exclusive, Nat.le_refl _⟩
  cases step with
  | configure config => exact solvent.of_pools (fun _ => by simp) rfl untouched
  | pause paused => exact solvent.of_pools (fun _ => by simp) rfl untouched
  | openTreasury treasury token absent fresh =>
      exact solvent.of_pools (fun _ => by simp) rfl
        fun _ _ _ found exclusive => kept_of_opened fresh found exclusive
  | authorize authority => exact solvent.of_pools (fun _ => by simp) rfl untouched
  | @register slug pool endpoint token config treasury absent _ fresh exclusive empty =>
      refine solvent.change slug pool (by simp)
        ⟨token, Function.update_self _ _ _, exclusive, ?_⟩ ?_ ?_ ?_
      · rw [empty]
        exact Nat.zero_le _
      · have unpaid : books.fees slug = 0 := solvent.unregistered slug absent
        rw [empty]
        show 0 + 0 + books.fees slug = 0 + 0
        rw [unpaid]
      · intro other different
        exact ⟨by simp [different], rfl⟩
      · intro _ _ _ _ found exclusive
        exact kept_of_opened fresh found exclusive
  | adjust found => exact solvent.of_pools (fun _ => by simp) rfl untouched
  | @topUp slug pool pool' payment tokens found paid target outsider terms ledger =>
      obtain ⟨token, vault, exclusive, covered⟩ := solvent.held slug pool found
      obtain ⟨token', stays, exclusive', grows⟩ :=
        paid.credited vault exclusive (outsider _) target
      have balanced := solvent.balanced slug pool found
      refine solvent.change slug pool' (by simp) ⟨token', ?_, exclusive', ?_⟩ ?_ ?_ ?_
      · rw [terms.usdcVault]
        exact stays
      · rw [ledger]
        simp only
        omega
      · show pool'.ledger.Balanced (books.fees slug)
        rw [ledger]
        simp only [Settlement.Pool.Balanced] at balanced ⊢
        omega
      · intro other different
        exact ⟨by simp [different], rfl⟩
      · intro address token other _ stored exclusive
        obtain ⟨token', stays, exclusive', grows⟩ := paid.exclusive stored exclusive
        rw [if_neg (outsider _)] at grows
        exact ⟨token', stays, exclusive', grows⟩
  | @settle now fixed event accounts pool pool' endpoint endpoint' tokens status actual fees
      outcome bump found endpointFound vault poolAccount authority fresh settled =>
      obtain ⟨token, stored, exclusive, covered⟩ := solvent.held _ pool found
      have distinct : fixed.settlementAuth ≠ accounts.coveragePool := by
        rw [authority, poolAccount]
        simp
      rw [vault] at stored
      rw [← poolAccount] at exclusive
      obtain ⟨token', stays, exclusive', grows⟩ := settled.vault stored exclusive distinct
      have moved := Settlement.settle_balance pool.ledger endpoint.counters now.toInt
        (event.call fees) settled.covered
      have fees_eq : (event.call fees).fees.sum = (amounts fees).sum := rfl
      rw [← settled.outcome_eq, fees_eq] at moved
      have refund := settled.refund
      have poolLedger := settled.poolLedger
      refine solvent.change event.endpointSlug pool' (by simp) ⟨token', ?_, ?_, ?_⟩ ?_ ?_ ?_
      · rw [settled.poolTerms.usdcVault, vault]
        exact stays
      · rw [← poolAccount]
        exact exclusive'
      · rw [poolLedger]
        simp only [SettlementEvent.call] at moved
        omega
      · simp only [charge_fees_self, withTokens_fees, put_fees, poolLedger, settled.outcome_eq]
        exact Settlement.settle_balanced (solvent.balanced _ pool found) settled.covered
      · intro other different
        exact ⟨by simp [different], by simp [different]⟩
      · intro address token other different stored exclusive
        refine settled.others stored exclusive ?_ ?_
        · rw [authority]
          simp
        · rw [poolAccount]
          simpa using Ne.symm different
  | fail event => exact solvent.of_pools (fun _ => by simp) rfl untouched
  | outside tokens kept => exact solvent.of_pools (fun _ => rfl) rfl kept

/-! ## Fee recipients -/

/-- The fee cap and the treasury vault are set once. -/
structure TermsKept (books books' : Books) : Prop where
  config : ∀ config, books.structs .protocolConfig = some config →
    ∃ config', books'.structs .protocolConfig = some config' ∧
      config'.maxTotalFeeBps = config.maxTotalFeeBps
  treasury : ∀ treasury, books.structs .treasury = some treasury →
    books'.structs .treasury = some treasury

theorem TermsKept.refl (books : Books) : TermsKept books books :=
  ⟨fun config found => ⟨config, found, rfl⟩, fun _ found => found⟩

theorem TermsKept.trans {first second third : Books} (left : TermsKept first second)
    (right : TermsKept second third) : TermsKept first third where
  config config found := by
    obtain ⟨middle, stored, same⟩ := left.config config found
    obtain ⟨last, stored', same'⟩ := right.config middle stored
    exact ⟨last, stored', same'.trans same⟩
  treasury _ found := right.treasury _ (left.treasury _ found)

theorem Step.termsKept (step : Step addresses books books') : TermsKept books books' := by
  cases step with
  | configure config absent =>
      exact ⟨fun _ found => (by rw [absent] at found; cases found), fun _ found => by simpa⟩
  | @pause config paused stored =>
      refine ⟨fun config' found => ?_, fun _ found => by simpa⟩
      cases stored.symm.trans found
      exact ⟨_, put_self _ _ _, rfl⟩
  | openTreasury treasury token absent =>
      exact ⟨fun config found => ⟨config, by simpa, rfl⟩,
        fun _ found => (by rw [absent] at found; cases found)⟩
  | authorize | register | adjust | topUp | settle | fail =>
      exact ⟨fun config found => ⟨config, by simpa, rfl⟩, fun _ found => by simpa⟩
  | outside => exact ⟨fun config found => ⟨config, found, rfl⟩, fun _ found => found⟩

/-- Every endpoint's recipients are valid under the protocol's fee cap. -/
structure FeesValid (books : Books) : Prop where
  config : ∀ config, books.structs .protocolConfig = some config →
    config.maxTotalFeeBps.toNat ≤ 10000 ∧ Fee.WithinBounds
      (config.defaultFeeRecipients.toList.take config.defaultFeeRecipientCount.toNat)
      config.maxTotalFeeBps.toNat
  endpoint : ∀ slug endpoint, books.structs (.endpointConfig slug) = some endpoint →
    ∃ config treasury, books.structs .protocolConfig = some config ∧
      books.structs .treasury = some treasury ∧
      Fee.ValidRecipients endpoint.recipients config.maxTotalFeeBps.toNat treasury.usdcVault

theorem FeesValid.of_endpoints (valid : FeesValid books) (kept : TermsKept books books')
    (config : books'.structs .protocolConfig = books.structs .protocolConfig)
    (endpoints : ∀ slug endpoint, books'.structs (.endpointConfig slug) = some endpoint →
      (∃ earlier, books.structs (.endpointConfig slug) = some earlier ∧
        endpoint.recipients = earlier.recipients) ∨
      ∃ config treasury, books.structs .protocolConfig = some config ∧
        books.structs .treasury = some treasury ∧
        Fee.ValidRecipients endpoint.recipients config.maxTotalFeeBps.toNat treasury.usdcVault) :
    FeesValid books' where
  config stored found := valid.config stored (by rwa [config] at found)
  endpoint slug endpoint found := by
    have checked : ∃ config treasury, books.structs .protocolConfig = some config ∧
        books.structs .treasury = some treasury ∧
        Fee.ValidRecipients endpoint.recipients config.maxTotalFeeBps.toNat
          treasury.usdcVault := by
      rcases endpoints slug endpoint found with ⟨earlier, stored, same⟩ | checked
      · rw [same]
        exact valid.endpoint slug earlier stored
      · exact checked
    obtain ⟨stored, treasury, configured, opened, recipients⟩ := checked
    exact ⟨stored, treasury, config.trans configured, kept.treasury _ opened, recipients⟩

theorem Step.feesValid (valid : FeesValid books) (step : Step addresses books books') :
    FeesValid books' := by
  have kept := step.termsKept
  cases step with
  | configure config absent cap template =>
      refine ⟨fun stored found => ?_, fun slug endpoint found => ?_⟩
      · rw [put_self] at found
        cases found
        exact ⟨cap, template⟩
      · rw [put_of_ne _ _ (by simp)] at found
        obtain ⟨_, _, configured, -⟩ := valid.endpoint slug endpoint found
        rw [absent] at configured
        cases configured
  | @pause config paused stored =>
      refine ⟨fun config' found => ?_, fun slug endpoint found => ?_⟩
      · rw [put_self] at found
        cases found
        exact valid.config config stored
      · rw [put_of_ne _ _ (by simp)] at found
        obtain ⟨config', treasury, configured, opened, recipients⟩ :=
          valid.endpoint slug endpoint found
        cases stored.symm.trans configured
        exact ⟨_, treasury, put_self _ _ _, kept.treasury _ opened, recipients⟩
  | openTreasury | authorize | fail =>
      exact valid.of_endpoints kept (by simp) fun slug endpoint found =>
        .inl ⟨endpoint, by simpa using found, rfl⟩
  | @register slug pool endpoint token config treasury _ _ _ _ _ _ configured opened checked =>
      refine valid.of_endpoints kept (by simp) fun other stored found => ?_
      by_cases same : other = slug
      · subst same
        rw [withTokens_structs, put_self] at found
        cases found
        exact .inr ⟨config, treasury, configured, opened, checked⟩
      · exact .inl ⟨stored, by simpa [same] using found, rfl⟩
  | @adjust slug endpoint endpoint' stored refunds checked =>
      refine valid.of_endpoints kept (by simp) fun other current found => ?_
      by_cases same : other = slug
      · subst same
        rw [put_self] at found
        cases found
        rcases checked with same | checked
        · exact .inl ⟨endpoint, stored, same⟩
        · exact .inr checked
      · exact .inl ⟨current, by simpa [same] using found, rfl⟩
  | topUp =>
      exact valid.of_endpoints kept (by simp) fun slug endpoint found =>
        .inl ⟨endpoint, by simpa using found, rfl⟩
  | @settle now fixed event accounts pool pool' endpoint endpoint' tokens status actual fees
      outcome bump _ stored _ _ _ _ settled =>
      refine valid.of_endpoints kept (by simp) fun other current found => ?_
      by_cases same : other = event.endpointSlug
      · subst same
        simp only [charge_structs, withTokens_structs, ne_eq, reduceCtorEq,
            not_false_eq_true, put_of_ne, put_self, Option.some.injEq] at found
        subst found
        exact .inl ⟨endpoint, stored, settled.endpointTerms.recipients⟩
      · exact .inl ⟨current, by simpa [same] using found, rfl⟩
  | outside => exact valid.of_endpoints kept rfl fun _ endpoint found => .inl ⟨endpoint, found, rfl⟩

/-! ## Refunds -/

def recordedRefund (slug : Slug) : Option CallRecord → Nat
  | some record => if record.endpointSlug = slug then record.actualRefundLamports.toNat else 0
  | none => 0

def refunds (books : Books) (slug : Slug) : Nat :=
  ∑ id : CallId, recordedRefund slug (books.structs (.callRecord id))

theorem refunds_congr {slug : Slug}
    (same : ∀ id, books'.structs (.callRecord id) = books.structs (.callRecord id)) :
    books'.refunds slug = books.refunds slug := by
  simp only [refunds, same]

theorem refunds_put {slug : Slug} {id : CallId} {record : CallRecord}
    (fresh : books.structs (.callRecord id) = none) :
    (books.put (.callRecord id) record).refunds slug =
      books.refunds slug + recordedRefund slug (some record) := by
  have updated : (fun other => recordedRefund slug
      ((books.put (.callRecord id) record).structs (.callRecord other))) =
        Function.update (fun other => recordedRefund slug (books.structs (.callRecord other))) id
          (recordedRefund slug (some record)) := by
    funext other
    by_cases same : other = id
    · subst same
      simp
    · rw [Function.update_of_ne same, put_of_ne _ _ (by simpa using same)]
  have before : recordedRefund slug (books.structs (.callRecord id)) = 0 := by rw [fresh]; rfl
  rw [refunds, updated, Finset.sum_update_of_mem (Finset.mem_univ id), refunds,
    Finset.sum_eq_add_sum_sdiff_singleton_of_mem (Finset.mem_univ id), before]
  omega

/-- The records account for what pools and endpoints say they refunded. -/
structure RefundsRecorded (books : Books) : Prop where
  pool : ∀ slug pool, books.structs (.coveragePool slug) = some pool →
    pool.totalRefunds.toNat = books.refunds slug
  endpoint : ∀ slug endpoint, books.structs (.endpointConfig slug) = some endpoint →
    endpoint.totalRefunds.toNat = books.refunds slug
  unregistered : ∀ slug, books.structs (.coveragePool slug) = none → books.refunds slug = 0

theorem RefundsRecorded.of_totals (recorded : RefundsRecorded books)
    (same : ∀ slug, books'.refunds slug = books.refunds slug)
    (pools : ∀ slug pool, books'.structs (.coveragePool slug) = some pool →
      (∃ earlier, books.structs (.coveragePool slug) = some earlier ∧
        pool.totalRefunds = earlier.totalRefunds) ∨
      (books.structs (.coveragePool slug) = none ∧ pool.totalRefunds = 0))
    (endpoints : ∀ slug endpoint, books'.structs (.endpointConfig slug) = some endpoint →
      (∃ earlier, books.structs (.endpointConfig slug) = some earlier ∧
        endpoint.totalRefunds = earlier.totalRefunds) ∨
      (books.structs (.coveragePool slug) = none ∧ endpoint.totalRefunds = 0))
    (registered : ∀ slug, books'.structs (.coveragePool slug) = none →
      books.structs (.coveragePool slug) = none) : RefundsRecorded books' where
  pool slug pool found := by
    rw [same]
    rcases pools slug pool found with ⟨earlier, stored, total⟩ | ⟨absent, total⟩
    · rw [total, recorded.pool slug earlier stored]
    · rw [total, recorded.unregistered slug absent]
      rfl
  endpoint slug endpoint found := by
    rw [same]
    rcases endpoints slug endpoint found with ⟨earlier, stored, total⟩ | ⟨absent, total⟩
    · rw [total, recorded.endpoint slug earlier stored]
    · rw [total, recorded.unregistered slug absent]
      rfl
  unregistered slug absent := by
    rw [same]
    exact recorded.unregistered slug (registered slug absent)

theorem Step.refundsRecorded (recorded : RefundsRecorded books)
    (step : Step addresses books books') : RefundsRecorded books' := by
  cases step with
  | configure | pause | openTreasury | authorize =>
      exact recorded.of_totals (fun _ => refunds_congr fun _ => by simp)
        (fun slug pool found => .inl ⟨pool, by simpa using found, rfl⟩)
        (fun slug endpoint found => .inl ⟨endpoint, by simpa using found, rfl⟩)
        (fun slug absent => by simpa using absent)
  | outside tokens kept =>
      exact recorded.of_totals (fun _ => rfl) (fun _ pool found => .inl ⟨pool, found, rfl⟩)
        (fun _ endpoint found => .inl ⟨endpoint, found, rfl⟩) (fun _ absent => absent)
  | @register slug pool endpoint token config treasury absent _ _ _ empty unpaid =>
      have none_ : pool.totalRefunds = 0 :=
        UInt64.toNat_inj.mp (congrArg Settlement.Pool.refunds empty)
      refine recorded.of_totals (fun _ => refunds_congr fun _ => by simp) ?_ ?_ ?_
      · intro other stored found
        by_cases same : other = slug
        · subst same
          simp only [withTokens_structs, ne_eq, reduceCtorEq, not_false_eq_true, put_of_ne,
            put_self, Option.some.injEq] at found
          subst found
          exact .inr ⟨absent, none_⟩
        · exact .inl ⟨stored, by simpa [same] using found, rfl⟩
      · intro other stored found
        by_cases same : other = slug
        · subst same
          simp only [withTokens_structs, put_self, Option.some.injEq] at found
          subst found
          exact .inr ⟨absent, unpaid⟩
        · exact .inl ⟨stored, by simpa [same] using found, rfl⟩
      · intro other missing
        by_cases same : other = slug
        · subst same
          exact absent
        · simpa [same] using missing
  | @adjust slug endpoint endpoint' stored unchanged =>
      refine recorded.of_totals (fun _ => refunds_congr fun _ => by simp)
        (fun other pool found => .inl ⟨pool, by simpa using found, rfl⟩) ?_
        (fun _ absent => by simpa using absent)
      intro other current found
      by_cases same : other = slug
      · subst same
        rw [put_self] at found
        cases found
        exact .inl ⟨endpoint, stored, unchanged⟩
      · exact .inl ⟨current, by simpa [same] using found, rfl⟩
  | @topUp slug pool pool' payment tokens found paid target outsider terms ledger =>
      have unchanged : pool'.totalRefunds = pool.totalRefunds :=
        UInt64.toNat_inj.mp (congrArg Settlement.Pool.refunds ledger)
      refine recorded.of_totals (fun _ => refunds_congr fun _ => by simp) ?_
        (fun other endpoint stored => .inl ⟨endpoint, by simpa using stored, rfl⟩) ?_
      · intro other current stored
        by_cases same : other = slug
        · subst same
          simp only [withTokens_structs, put_self, Option.some.injEq] at stored
          subst stored
          exact .inl ⟨pool, found, unchanged⟩
        · exact .inl ⟨current, by simpa [same] using stored, rfl⟩
      · intro other absent
        by_cases same : other = slug
        · subst same
          simp at absent
        · simpa [same] using absent
  | @settle now fixed event accounts pool pool' endpoint endpoint' tokens status actual fees
      outcome bump poolFound endpointFound _ _ _ fresh settled =>
      have added : ∀ slug, refunds ((((((books.put (.coveragePool event.endpointSlug) pool').put
            (.endpointConfig event.endpointSlug) endpoint').put
            (.callRecord event.callId) (event.record bump status actual)).withTokens
            tokens).charge event.endpointSlug (amounts fees).sum)) slug =
          books.refunds slug + if event.endpointSlug = slug then actual.toNat else 0 := by
        intro slug
        have earlier : refunds ((books.put (.coveragePool event.endpointSlug) pool').put
            (.endpointConfig event.endpointSlug) endpoint') slug = books.refunds slug :=
          refunds_congr fun _ => by simp
        rw [← earlier]
        exact refunds_put (by simpa using fresh)
      have paid := settled.refund
      have poolRefunds : pool'.totalRefunds.toNat = pool.totalRefunds.toNat + actual.toNat := by
        have total := congrArg Settlement.Pool.refunds settled.poolLedger
        obtain ⟨split, -⟩ := Settlement.settle_pool pool.ledger endpoint.counters now.toInt
          (event.call fees)
        rw [← settled.outcome_eq] at split
        rw [split, ← paid] at total
        exact total
      have endpointRefunds :
          endpoint'.totalRefunds.toNat = endpoint.totalRefunds.toNat + actual.toNat := by
        have total := congrArg Settlement.Endpoint.refunds settled.counters
        have split := Settlement.settle_endpoint_refunds pool.ledger endpoint.counters now.toInt
          (event.call fees)
        rw [← settled.outcome_eq, ← paid] at split
        exact total.trans split
      refine ⟨fun slug current found => ?_, fun slug current found => ?_, fun slug absent => ?_⟩
      · rw [added]
        by_cases same : slug = event.endpointSlug
        · subst same
          simp only [charge_structs, withTokens_structs, ne_eq, reduceCtorEq,
            not_false_eq_true, put_of_ne, put_self, Option.some.injEq] at found
          subst found
          rw [poolRefunds, recorded.pool _ pool poolFound, if_pos rfl]
        · rw [if_neg (Ne.symm same), Nat.add_zero]
          exact recorded.pool slug current (by simpa [same] using found)
      · rw [added]
        by_cases same : slug = event.endpointSlug
        · subst same
          simp only [charge_structs, withTokens_structs, ne_eq, reduceCtorEq,
            not_false_eq_true, put_of_ne, put_self, Option.some.injEq] at found
          subst found
          rw [endpointRefunds, recorded.endpoint _ endpoint endpointFound, if_pos rfl]
        · rw [if_neg (Ne.symm same), Nat.add_zero]
          exact recorded.endpoint slug current (by simpa [same] using found)
      · rw [added]
        by_cases same : slug = event.endpointSlug
        · subst same
          simp at absent
        · rw [if_neg (Ne.symm same), Nat.add_zero]
          exact recorded.unregistered slug (by simpa [same] using absent)
  | fail event bump fresh =>
      refine recorded.of_totals (fun slug => ?_)
        (fun slug pool found => .inl ⟨pool, by simpa using found, rfl⟩)
        (fun slug endpoint found => .inl ⟨endpoint, by simpa using found, rfl⟩)
        (fun slug absent => by simpa using absent)
      rw [refunds_put fresh]
      simp [recordedRefund, SettlementEvent.record]

theorem Step.recordKept {id : CallId} {record : CallRecord} (step : Step addresses books books')
    (stored : books.structs (.callRecord id) = some record) :
    books'.structs (.callRecord id) = some record := by
  cases step with
  | configure | pause | openTreasury | authorize | register | adjust | topUp => simpa
  | @settle now fixed event accounts pool pool' endpoint endpoint' tokens status actual fees
      outcome bump _ _ _ _ _ fresh =>
      have different : id ≠ event.callId := by
        rintro rfl
        rw [fresh] at stored
        cases stored
      simpa [different]
  | fail event bump fresh =>
      have different : id ≠ event.callId := by
        rintro rfl
        rw [fresh] at stored
        cases stored
      simpa [different]
  | outside => exact stored

/-! ## Runs -/

structure Sound (addresses : Addresses) (books : Books) : Prop where
  solvent : Solvent addresses books
  fees : FeesValid books
  refunds : RefundsRecorded books

theorem Blank.sound (blank : Blank books) : Sound addresses books := by
  obtain ⟨vacant, unpaid⟩ := blank
  have none_ : ∀ {pda} {value : pda.Struct}, books.structs pda ≠ some value := by
    intro pda value found
    rw [vacant] at found
    cases found
  refine ⟨⟨fun _ _ found => (none_ found).elim, fun _ _ found => (none_ found).elim,
      fun slug _ => unpaid slug⟩,
    ⟨fun _ found => (none_ found).elim, fun _ _ found => (none_ found).elim⟩,
    ⟨fun _ _ found => (none_ found).elim, fun _ _ found => (none_ found).elim, fun slug _ => ?_⟩⟩
  exact Finset.sum_eq_zero fun id _ => by rw [vacant]; rfl

theorem Step.sound (sound : Sound addresses books) (step : Step addresses books books') :
    Sound addresses books' :=
  ⟨step.solvent sound.solvent, step.feesValid sound.fees, step.refundsRecorded sound.refunds⟩

theorem sound_of_steps (steps : Relation.ReflTransGen (Step addresses) books books')
    (sound : Sound addresses books) : Sound addresses books' := by
  induction steps with
  | refl => exact sound
  | tail _ step ih => exact step.sound ih

theorem recordKept_of_steps (steps : Relation.ReflTransGen (Step addresses) books books')
    {id : CallId} {record : CallRecord}
    (stored : books.structs (.callRecord id) = some record) :
    books'.structs (.callRecord id) = some record := by
  induction steps with
  | refl => exact stored
  | tail _ step ih => exact step.recordKept ih

theorem termsKept_of_steps (steps : Relation.ReflTransGen (Step addresses) books books') :
    TermsKept books books' := by
  induction steps with
  | refl => exact .refl books
  | tail _ step ih => exact ih.trans step.termsKept

end Books

end PactNetwork.V1
