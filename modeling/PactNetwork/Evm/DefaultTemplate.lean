import Mathlib.Data.List.Nodup
import PactNetwork.Evm.Solvency

/-!
# The default template on EVM

The constructor checks the template before the treasury's destination is
known, a registration checks it afterwards. Well-formed lists say what both
entry loops accept.
-/

set_option autoImplicit false

namespace PactNetwork.Evm

/-- What the entry loop asks of a list of recipients. -/
structure WellFormed (entries : List FeeRecipient) : Prop where
  kind : ∀ entry ∈ entries, entry.kind ≤ 2
  bps : ∀ entry ∈ entries, entry.bps ≤ ProtocolInvariants.absoluteFeeBpsCap
  single : entries.Pairwise fun first second => ¬(first.kind = 0 ∧ second.kind = 0)
  distinct : (entries.map FeeRecipient.destination).Nodup

namespace WellFormed

variable {earlier entries : List FeeRecipient} {entry : FeeRecipient}

theorem nil : WellFormed [] := ⟨nofun, nofun, .nil, .nil⟩

theorem of_append (formed : WellFormed (earlier ++ entries)) : WellFormed earlier where
  kind other member := formed.kind other (List.mem_append_left _ member)
  bps other member := formed.bps other (List.mem_append_left _ member)
  single := (List.pairwise_append.mp formed.single).1
  distinct := by
    have distinct := formed.distinct
    rw [List.map_append] at distinct
    exact distinct.of_append_left

theorem concat_iff (formed : WellFormed earlier) :
    WellFormed (earlier ++ [entry]) ↔
      ¬entry.kind > 2 ∧ ¬entry.bps > ProtocolInvariants.absoluteFeeBpsCap ∧
      ¬(entry.kind = 0 ∧ earlier.any (·.kind == 0) = true) ∧
      ¬∃ visited ∈ earlier, visited.destination = entry.destination := by
  simp only [gt_iff_lt, UInt8.not_lt, UInt16.not_lt, List.any_eq_true, beq_iff_eq]
  constructor
  · intro longer
    have last : entry ∈ earlier ++ [entry] := List.mem_append_right _ (List.mem_singleton_self _)
    have distinct := longer.distinct
    rw [List.map_append] at distinct
    refine ⟨longer.kind _ last, longer.bps _ last, ?_, ?_⟩
    · rintro ⟨treasury, other, member, otherTreasury⟩
      exact (List.pairwise_append.mp longer.single).2.2 other member entry
        (List.mem_singleton_self _) ⟨otherTreasury, treasury⟩
    · rintro ⟨visited, member, equal⟩
      exact List.disjoint_of_nodup_append distinct (List.mem_map_of_mem member)
        (equal ▸ List.mem_singleton_self _)
  · rintro ⟨kind, bps, single, distinct⟩
    refine ⟨?_, ?_, ?_, ?_⟩
    · intro other member
      rcases List.mem_append.mp member with member | last
      · exact formed.kind other member
      · rw [List.mem_singleton.mp last]
        exact kind
    · intro other member
      rcases List.mem_append.mp member with member | last
      · exact formed.bps other member
      · rw [List.mem_singleton.mp last]
        exact bps
    · refine List.pairwise_append.mpr ⟨formed.single, List.pairwise_singleton _ _, ?_⟩
      intro other member last same both
      rw [List.mem_singleton.mp same] at both
      exact single ⟨both.2, other, member, both.1⟩
    · rw [List.map_append, List.map_singleton]
      refine formed.distinct.append (List.nodup_singleton _) ?_
      intro destination member last
      obtain ⟨visited, known, equal⟩ := List.mem_map.mp member
      exact distinct ⟨visited, known, equal.trans (List.mem_singleton.mp last)⟩

end WellFormed

namespace FeeValidation

theorem checkEntries_eq_ok {earlier entries : List FeeRecipient} {sumBps total : Nat}
    (formed : WellFormed earlier) :
    checkEntries earlier (earlier.any (·.kind == 0)) sumBps entries = .ok total ↔
      WellFormed (earlier ++ entries) ∧ total = sumBps + (entries.map (·.bps.toNat)).sum := by
  induction entries generalizing earlier sumBps with
  | nil =>
      rw [List.append_nil, checkEntries, Except.ok.injEq]
      exact ⟨fun same => ⟨formed, same.symm⟩, fun both => both.2.symm⟩
  | cons entry rest ih =>
      have seen : (earlier.any (·.kind == 0) || entry.kind == 0) =
          (earlier ++ [entry]).any (·.kind == 0) := by
        simp [List.any_append]
      simp only [checkEntries, bind_eq_ok, failIf_eq_ok, exists_const]
      rw [List.append_cons earlier entry rest, seen, List.map_cons, List.sum_cons,
        ← Nat.add_assoc]
      constructor
      · rintro ⟨kind, bps, single, distinct, accepted⟩
        exact (ih ((formed.concat_iff).mpr ⟨kind, bps, single, distinct⟩)).mp accepted
      · rintro ⟨longer, sum⟩
        have next := longer.of_append
        obtain ⟨kind, bps, single, distinct⟩ := (formed.concat_iff).mp next
        exact ⟨kind, bps, single, distinct, (ih next).mpr ⟨longer, sum⟩⟩

/-! ## Substitution -/

section Substitution

variable {treasuryVault : Address} {entry : FeeRecipient} {entries : List FeeRecipient}

@[simp] theorem substituteTreasury_kind :
    (substituteTreasury treasuryVault entry).kind = entry.kind := by
  unfold substituteTreasury
  split <;> rfl

@[simp] theorem substituteTreasury_bps :
    (substituteTreasury treasuryVault entry).bps = entry.bps := by
  unfold substituteTreasury
  split <;> rfl

@[simp] theorem substituteTreasury_idem :
    substituteTreasury treasuryVault (substituteTreasury treasuryVault entry) =
      substituteTreasury treasuryVault entry := by
  by_cases treasury : entry.kind = 0
  · simp [substituteTreasury, treasury]
  · simp [substituteTreasury, treasury]

theorem map_substituteTreasury_idem :
    (entries.map (substituteTreasury treasuryVault)).map (substituteTreasury treasuryVault) =
      entries.map (substituteTreasury treasuryVault) := by
  simp

theorem substitute_idem {recipients : FeeRecipients} {count : Nat} :
    substitute treasuryVault count (substitute treasuryVault count recipients) =
      substitute treasuryVault count recipients := by
  refine Subtype.ext ?_
  show ((substitute treasuryVault count recipients).toList.take count).map
      (substituteTreasury treasuryVault) ++
    (substitute treasuryVault count recipients).toList.drop count = _
  rw [take_substitute, map_substituteTreasury_idem, ← take_substitute]
  exact List.take_append_drop _ _

@[simp] theorem checkTreasury_substitute :
    checkTreasury (entries.map (substituteTreasury treasuryVault)) = checkTreasury entries := by
  have scan : scanTreasury (entries.map (substituteTreasury treasuryVault)) =
      scanTreasury entries := by
    simp [scanTreasury, List.foldl_map]
  unfold checkTreasury
  rw [scan]

theorem scanTreasury_count : (scanTreasury entries).1 = entries.countP (·.kind == 0) := by
  have general (found : Nat × UInt16) :
      (entries.foldl (fun (found : Nat × UInt16) entry =>
        if entry.kind = 0 then (found.1 + 1, entry.bps) else found) found).1 =
      found.1 + entries.countP (·.kind == 0) := by
    induction entries generalizing found with
    | nil => rfl
    | cons entry rest ih =>
        rw [List.foldl_cons, ih, List.countP_cons]
        by_cases treasury : entry.kind = 0
        · simp [treasury]
          omega
        · simp [treasury]
  simpa [scanTreasury] using general (0, 0)

theorem exists_treasury {result : Unit} (checked : checkTreasury entries = .ok result) :
    ∃ entry ∈ entries, entry.kind = 0 := by
  simp only [checkTreasury, bind_eq_ok, failIf_eq_ok, exists_const, scanTreasury_count] at checked
  obtain ⟨entry, member, treasury⟩ :=
    List.countP_pos_iff.mp (Nat.pos_of_ne_zero checked.1)
  exact ⟨entry, member, beq_iff_eq.mp treasury⟩

theorem nodup_substitute_iff (formed : WellFormed entries)
    (treasury : ∃ entry ∈ entries, entry.kind = 0) :
    ((entries.map (substituteTreasury treasuryVault)).map FeeRecipient.destination).Nodup ↔
      ∀ entry ∈ entries, entry.kind ≠ 0 → entry.destination ≠ treasuryVault := by
  rw [List.map_map]
  constructor
  · intro distinct entry member affiliate atVault
    obtain ⟨other, otherMember, isTreasury⟩ := treasury
    have clash : (substituteTreasury treasuryVault entry).destination =
        (substituteTreasury treasuryVault other).destination := by
      simp [substituteTreasury, affiliate, isTreasury, atVault]
    rw [List.inj_on_of_nodup_map distinct member otherMember clash] at affiliate
    exact affiliate isTreasury
  · intro apart
    have both := List.Pairwise.and formed.single (List.pairwise_map.mp formed.distinct)
    refine List.pairwise_map.mpr (both.imp_of_mem ?_)
    rintro first second firstMember secondMember ⟨single, distinct⟩ clash
    have firstApart := apart first firstMember
    have secondApart := apart second secondMember
    by_cases firstKind : first.kind = 0
    · by_cases secondKind : second.kind = 0
      · exact single ⟨firstKind, secondKind⟩
      · simp only [Function.comp_apply, substituteTreasury, if_pos firstKind,
          if_neg secondKind] at clash
        exact secondApart secondKind clash.symm
    · by_cases secondKind : second.kind = 0
      · simp only [Function.comp_apply, substituteTreasury, if_neg firstKind,
          if_pos secondKind] at clash
        exact firstApart firstKind clash
      · simp only [Function.comp_apply, substituteTreasury, if_neg firstKind,
          if_neg secondKind] at clash
        exact distinct clash

theorem wellFormed_substitute (formed : WellFormed entries)
    (distinct : ((entries.map (substituteTreasury treasuryVault)).map
      FeeRecipient.destination).Nodup) :
    WellFormed (entries.map (substituteTreasury treasuryVault)) where
  kind := by
    simpa using formed.kind
  bps := by
    simpa using formed.bps
  single := by
    simpa [List.pairwise_map] using formed.single
  distinct := distinct

end Substitution

/-! ## The two validators -/

section Validators

variable {recipients stored : FeeRecipients} {count : UInt8} {maxTotalFeeBps : UInt16}
  {treasuryVault : Address} {sumBps : Nat}

/-- The entries in use are well formed, and their shares stay within the caps. -/
structure Priced (entries : List FeeRecipient) (maxTotalFeeBps : UInt16) (sumBps : Nat) :
    Prop where
  formed : WellFormed entries
  sum : sumBps = (entries.map (·.bps.toNat)).sum
  absolute : sumBps ≤ ProtocolInvariants.absoluteFeeBpsCap.toNat
  operator : sumBps ≤ maxTotalFeeBps.toNat

theorem priced_iff {entries : List FeeRecipient} :
    Priced entries maxTotalFeeBps sumBps ↔
      checkEntries [] false 0 entries = .ok sumBps ∧
      ¬sumBps > ProtocolInvariants.absoluteFeeBpsCap.toNat ∧
      ¬sumBps > maxTotalFeeBps.toNat := by
  have loop := @checkEntries_eq_ok [] entries 0 sumBps .nil
  rw [List.any_nil, List.nil_append, Nat.zero_add] at loop
  rw [loop, Nat.not_lt, Nat.not_lt]
  constructor
  · rintro ⟨formed, sum, absolute, operator⟩
    exact ⟨⟨formed, sum⟩, absolute, operator⟩
  · rintro ⟨⟨formed, sum⟩, absolute, operator⟩
    exact ⟨formed, sum, absolute, operator⟩

theorem validate_eq_ok :
    validate recipients count maxTotalFeeBps treasuryVault = .ok (stored, sumBps) ↔
      ¬count > ProtocolInvariants.maxFeeRecipients ∧
      Priced (recipients.toList.take count.toNat) maxTotalFeeBps sumBps ∧
      checkTreasury (recipients.toList.take count.toNat) = .ok () ∧
      (((recipients.toList.take count.toNat).map (substituteTreasury treasuryVault)).map
        FeeRecipient.destination).Nodup ∧
      (¬∃ entry ∈ recipients.toList.take count.toNat,
        entry.kind ≠ 0 ∧ entry.destination = zeroAddress) ∧
      stored = substitute treasuryVault count.toNat recipients := by
  simp only [validate, bind_eq_ok, failIf_eq_ok, exists_const, Except.ok.injEq, Prod.mk.injEq,
    take_substitute, zero_affiliate_iff, checkTreasury_substitute, priced_iff, not_not]
  constructor
  · rintro ⟨small, sum, checked, absolute, operator, _, treasury, distinct, nonzero, rfl, rfl⟩
    exact ⟨small, ⟨checked, absolute, operator⟩, treasury, distinct, nonzero, rfl⟩
  · rintro ⟨small, ⟨checked, absolute, operator⟩, treasury, distinct, nonzero, rfl⟩
    exact ⟨small, sumBps, checked, absolute, operator, (), treasury, distinct, nonzero, rfl, rfl⟩

theorem template_eq_ok (nonempty : count > 0) {result : Unit} :
    validateDefaultTemplate recipients count maxTotalFeeBps = .ok result ↔
      ¬count > ProtocolInvariants.maxFeeRecipients ∧
      ¬maxTotalFeeBps > ProtocolInvariants.absoluteFeeBpsCap ∧
      (∃ sumBps, Priced (recipients.toList.take count.toNat) maxTotalFeeBps sumBps) ∧
      checkTreasury (recipients.toList.take count.toNat) = .ok () := by
  simp only [validateDefaultTemplate, bind_eq_ok, failIf_eq_ok, exists_const, priced_iff,
    if_pos nonempty]
  constructor
  · rintro ⟨small, cap, sumBps, checked, absolute, operator, treasury⟩
    exact ⟨small, cap, ⟨sumBps, checked, absolute, operator⟩, treasury⟩
  · rintro ⟨small, cap, ⟨sumBps, checked, absolute, operator⟩, treasury⟩
    exact ⟨small, cap, sumBps, checked, absolute, operator, treasury⟩

theorem validate_idem
    (accepted : validate recipients count maxTotalFeeBps treasuryVault = .ok (stored, sumBps)) :
    validate stored count maxTotalFeeBps treasuryVault = .ok (stored, sumBps) := by
  obtain ⟨small, priced, treasury, distinct, nonzero, rfl⟩ := validate_eq_ok.mp accepted
  rw [validate_eq_ok, substitute_idem, take_substitute, map_substituteTreasury_idem,
    checkTreasury_substitute, zero_affiliate_iff]
  refine ⟨small, ?_, treasury, distinct, nonzero, rfl⟩
  refine ⟨wellFormed_substitute priced.formed distinct, ?_, priced.absolute, priced.operator⟩
  simpa [Function.comp_def] using priced.sum

/-- A template the constructor accepts passes as soon as no affiliate is at the
vault or at the zero address. -/
theorem accepts_template_iff (nonempty : count > 0)
    (checked : validateDefaultTemplate recipients count maxTotalFeeBps = .ok ()) :
    accepts (validate recipients count maxTotalFeeBps treasuryVault) ↔
      ∀ entry ∈ recipients.toList.take count.toNat, entry.kind ≠ 0 →
        entry.destination ≠ treasuryVault ∧ entry.destination ≠ zeroAddress := by
  obtain ⟨small, -, ⟨sumBps, priced⟩, treasury⟩ := (template_eq_ok nonempty).mp checked
  have apart := @nodup_substitute_iff treasuryVault _ priced.formed (exists_treasury treasury)
  constructor
  · rintro ⟨⟨stored, total⟩, accepted⟩ entry member affiliate
    obtain ⟨-, -, -, distinct, nonzero, -⟩ := validate_eq_ok.mp accepted
    exact ⟨apart.mp distinct entry member affiliate,
      fun zero => nonzero ⟨entry, member, affiliate, zero⟩⟩
  · intro clear
    refine ⟨(_, sumBps), validate_eq_ok.mpr ⟨small, priced, treasury, ?_, ?_, rfl⟩⟩
    · exact apart.mpr fun entry member affiliate => (clear entry member affiliate).1
    · rintro ⟨entry, member, affiliate, zero⟩
      exact (clear entry member affiliate).2 zero

end Validators

end FeeValidation

/-! ## Registrations in a run -/

namespace PactRegistry

def immutables (registry : PactRegistry) : Address × Address × UInt16 × FeeRecipients × UInt8 :=
  (registry.authority, registry.treasuryVault, registry.maxTotalFeeBps,
    registry.defaultFeeRecipients, registry.defaultCount)

@[simp] theorem immutables_setEndpoint (registry : PactRegistry) (slug : Slug)
    (config : EndpointConfig) :
    (registry.setEndpoint slug config).immutables = registry.immutables := rfl

def Checked (registry : PactRegistry) : Prop :=
  FeeValidation.validateDefaultTemplate registry.defaultFeeRecipients registry.defaultCount
    registry.maxTotalFeeBps = .ok ()

theorem Checked.of_immutables {before after : PactRegistry} (checked : before.Checked)
    (same : after.immutables = before.immutables) : after.Checked := by
  simp only [immutables, Prod.mk.injEq] at same
  obtain ⟨-, -, cap, template, count⟩ := same
  rw [Checked, cap, template, count]
  exact checked

theorem checked_of_construct {authority treasuryVault : Address} {maxTotalFeeBps : UInt16}
    {defaultRecipients : FeeRecipients} {defaultCount : UInt8} {settlerRole : Address → Bool}
    {registry : PactRegistry}
    (constructed : construct authority treasuryVault maxTotalFeeBps defaultRecipients
      defaultCount settlerRole = .ok registry) : registry.Checked := by
  simp only [construct, bind_eq_ok, Except.ok.injEq] at constructed
  obtain ⟨_, checked, rfl⟩ := constructed
  exact checked

end PactRegistry

section Runs

variable {τ : Type} {usdc : Erc20 τ} {deployment : Deployment}

theorem settleEvent_immutables {before after : World τ} {timestamp : UInt64}
    {event : SettlementEvent} {receipt : Receipt}
    (settled : PactSettler.settleEvent usdc deployment before timestamp event =
      .ok (after, receipt)) : after.registry.immutables = before.registry.immutables := by
  obtain ⟨-, ⟨-, rfl, -⟩ | ⟨token, outcome, -, effect⟩⟩ := PactSettler.settleEvent_spec settled
  · rfl
  · obtain ⟨stored, saved, -⟩ := effect.registry
    rw [saved, PactRegistry.immutables_setEndpoint]

theorem execute_immutables {before after : World τ} {sender : Address} {timestamp : UInt64}
    {call : Call} {receipts : List Receipt}
    (executed : execute usdc deployment before sender timestamp call = .ok (after, receipts)) :
    after.registry.immutables = before.registry.immutables := by
  cases call with
  | settleBatch events =>
      simp only [execute, PactSettler.settleBatch, bind_eq_ok] at executed
      obtain ⟨-, -, -, -, -, -, loop⟩ := executed
      refine foldlM_invariant (fun state : World τ × List Receipt =>
        state.1.registry.immutables = before.registry.immutables) loop rfl ?_
      intro earlier event later _ same stepped
      simp only [PactSettler.settleStep, bind_eq_ok, Prod.exists, Except.ok.injEq] at stepped
      obtain ⟨world, receipt, settled, rfl⟩ := stepped
      exact (settleEvent_immutables settled).trans same
  | registerEndpoint =>
      obtain ⟨registry, called, same⟩ := (map_eq_ok _ _ _).mp executed
      cases same
      simp only [PactRegistry.registerEndpoint, bind_eq_ok, Prod.exists, Except.ok.injEq] at called
      obtain ⟨-, -, -, -, -, -, -, -, -, -, -, -, rfl⟩ := called
      rfl
  | updateEndpointConfig =>
      obtain ⟨registry, called, same⟩ := (map_eq_ok _ _ _).mp executed
      cases same
      simp only [PactRegistry.updateEndpointConfig, bind_eq_ok, Except.ok.injEq] at called
      obtain ⟨-, -, -, -, rfl⟩ := called
      rfl
  | updateFeeRecipients =>
      obtain ⟨registry, called, same⟩ := (map_eq_ok _ _ _).mp executed
      cases same
      simp only [PactRegistry.updateFeeRecipients, bind_eq_ok, Prod.exists, Except.ok.injEq]
        at called
      obtain ⟨-, -, -, -, -, -, -, rfl⟩ := called
      rfl
  | pauseEndpoint =>
      obtain ⟨registry, called, same⟩ := (map_eq_ok _ _ _).mp executed
      cases same
      simp only [PactRegistry.pauseEndpoint, bind_eq_ok, Except.ok.injEq] at called
      obtain ⟨-, -, -, -, rfl⟩ := called
      rfl
  | pauseProtocol =>
      obtain ⟨registry, called, same⟩ := (map_eq_ok _ _ _).mp executed
      cases same
      simp only [PactRegistry.pauseProtocol, bind_eq_ok, Except.ok.injEq] at called
      obtain ⟨-, -, rfl⟩ := called
      rfl
  | recordCallAndCapAccrual =>
      obtain ⟨⟨registry, payable⟩, called, same⟩ := (map_eq_ok _ _ _).mp executed
      cases same
      obtain ⟨-, stored, rfl, -⟩ := PactRegistry.recordCallAndCapAccrual_spec [] called
      rfl
  | recordRefundPaid =>
      obtain ⟨registry, called, same⟩ := (map_eq_ok _ _ _).mp executed
      cases same
      obtain ⟨stored, rfl, -⟩ := PactRegistry.recordRefundPaid_spec called
      rfl
  | topUp =>
      obtain ⟨world, called, same⟩ := (map_eq_ok _ _ _).mp executed
      cases same
      obtain ⟨-, -, token, state, -, rfl, -⟩ := PactPool.topUp_spec called
      rfl
  | creditPremium =>
      obtain ⟨world, called, same⟩ := (map_eq_ok _ _ _).mp executed
      cases same
      obtain ⟨state, rfl, -⟩ := PactPool.creditPremium_spec called
      rfl
  | debitForFees =>
      obtain ⟨world, called, same⟩ := (map_eq_ok _ _ _).mp executed
      cases same
      obtain ⟨-, state, rfl, -⟩ := PactPool.debitForFees_spec called
      rfl
  | debitForRefund =>
      obtain ⟨world, called, same⟩ := (map_eq_ok _ _ _).mp executed
      cases same
      obtain ⟨-, state, rfl, -⟩ := PactPool.debitForRefund_spec called
      rfl
  | payout =>
      obtain ⟨world, called, same⟩ := (map_eq_ok _ _ _).mp executed
      cases same
      obtain ⟨-, token, -, rfl⟩ := PactPool.payout_spec called
      rfl
  | transfer | transferFrom | approve =>
      obtain ⟨world, called, same⟩ := (map_eq_ok _ _ _).mp executed
      cases same
      simp only [World.tokenCall, bind_eq_ok, Except.ok.injEq] at called
      obtain ⟨token, -, rfl⟩ := called
      rfl

theorem checked_of_reachable {history : History τ}
    (reached : Reachable (Deployed usdc deployment) (Transaction usdc deployment) history) :
    history.world.registry.Checked := by
  refine reached.invariant (fun history => history.world.registry.Checked) ?_ ?_
  · intro first deployed
    obtain ⟨authority, vault, cap, template, count, constructed⟩ := deployed.constructed
    exact PactRegistry.checked_of_construct constructed
  · intro before after checked moves
    cases moves with
    | accepted sender timestamp call receipts _ _ executed _ =>
        exact checked.of_immutables (execute_immutables executed)
    | reverted sender timestamp call error _ unchanged => rwa [unchanged]

end Runs

namespace PactRegistry

variable {registry : PactRegistry} {timestamp : UInt64} {slug : Slug} {pricing : Pricing}
  {count : UInt8} {recipients : FeeRecipients}

/-- A registration without recipients of its own, by the authority, of a new
valid slug, stands or falls with the template. -/
theorem accepts_registerEndpoint_iff (checked : registry.Checked)
    (valid : validateSlug slug = .ok ()) (fresh : registry.registered slug = false) :
    accepts (registry.registerEndpoint registry.authority timestamp slug pricing false count
        recipients) ↔
      accepts (FeeValidation.validate registry.defaultFeeRecipients registry.defaultCount
        registry.maxTotalFeeBps registry.treasuryVault) := by
  have small : ¬registry.defaultCount > ProtocolInvariants.maxFeeRecipients := by
    simp only [Checked, FeeValidation.validateDefaultTemplate, bind_eq_ok, failIf_eq_ok,
      exists_const] at checked
    exact checked.1
  have new : ¬registry.registered slug = true := by
    rw [fresh]
    exact Bool.false_ne_true
  have authorized : registry.onlyAuthority registry.authority = .ok () :=
    failIf_of_not fun other => other rfl
  have chosen : registry.chooseEntries false count recipients =
      .ok (registry.defaultFeeRecipients, registry.defaultCount) := by
    simp [chooseEntries, failIf_of_not small]
  simp only [accepts, registerEndpoint, authorized, valid, chosen, failIf_of_not new, ok_bind,
    bind_eq_ok, Prod.exists, Except.ok.injEq]
  constructor
  · rintro ⟨result, stored, total, accepted, -⟩
    exact ⟨stored, total, accepted⟩
  · rintro ⟨stored, total, accepted⟩
    exact ⟨_, stored, total, accepted, rfl⟩

end PactRegistry

/-- After any run, a non-empty default template passes, at validation and at a
registration, exactly when none of its affiliates is at the treasury's vault or
at the zero address. Whatever validation stores, it accepts and stores again. -/
theorem default_template_usable {τ : Type} (usdc : Erc20 τ) (deployment : Deployment)
    (history : History τ)
    (reached : Reachable (Deployed usdc deployment) (Transaction usdc deployment) history)
    (nonempty : history.world.registry.defaultCount > 0) :
    let registry := history.world.registry
    let clear := ∀ entry ∈ registry.defaultFeeRecipients.toList.take registry.defaultCount.toNat,
      entry.kind ≠ 0 →
        entry.destination ≠ registry.treasuryVault ∧ entry.destination ≠ zeroAddress
    (accepts (FeeValidation.validate registry.defaultFeeRecipients registry.defaultCount
        registry.maxTotalFeeBps registry.treasuryVault) ↔ clear) ∧
    (∀ timestamp slug pricing count recipients, PactRegistry.validateSlug slug = .ok () →
      registry.registered slug = false →
        (accepts (registry.registerEndpoint registry.authority timestamp slug pricing false count
          recipients) ↔ clear)) ∧
    ∀ recipients count maxTotalFeeBps treasuryVault stored sumBps,
      FeeValidation.validate recipients count maxTotalFeeBps treasuryVault =
          .ok (stored, sumBps) →
        FeeValidation.validate stored count maxTotalFeeBps treasuryVault =
          .ok (stored, sumBps) := by
  intro registry clear
  have checked : registry.Checked := checked_of_reachable reached
  have passes : accepts (FeeValidation.validate registry.defaultFeeRecipients
      registry.defaultCount registry.maxTotalFeeBps registry.treasuryVault) ↔ clear :=
    FeeValidation.accepts_template_iff nonempty checked
  refine ⟨passes, ?_, ?_⟩
  · intro timestamp slug pricing count recipients valid fresh
    exact (PactRegistry.accepts_registerEndpoint_iff checked valid fresh).trans passes
  · intro recipients count maxTotalFeeBps treasuryVault stored sumBps accepted
    exact FeeValidation.validate_idem accepted

/-- The demonstration's template registers an endpoint. -/
theorem default_template_usable_demo :
    accepts (Demo.start.world.registry.registerEndpoint Demo.authority 60 Demo.slug
      ⟨200, 0, 500, 0, 1500⟩ false 0 Demo.recipients) :=
  ((default_template_usable standard Demo.deployment Demo.start (.start Demo.deployed_start)
    (by decide)).2.1 60 Demo.slug ⟨200, 0, 500, 0, 1500⟩ 0 Demo.recipients (by rfl) rfl).mpr
    (by decide)

namespace Demo

/-- The treasury's entry carries a placeholder; the affiliate is at the vault. -/
def clashing : FeeRecipients :=
  ⟨⟨0, agent, 1000⟩ :: ⟨1, treasury, 500⟩ :: List.replicate 6 FeeRecipient.zero, rfl⟩

def clashingStart : History TokenState where
  world :=
    { start.world with
      registry := { start.world.registry with
        defaultFeeRecipients := clashing, defaultCount := 2 } }
  fees := start.fees

theorem deployed_clashingStart : Deployed standard deployment clashingStart where
  constructed := ⟨authority, treasury, 3000, clashing, 2, by rfl⟩
  pool := deployed_start.pool
  unsettled := deployed_start.unsettled
  noAllowance := deployed_start.noAllowance
  fees := deployed_start.fees

end Demo

/-- A template with an affiliate at the vault is deployed and never registers. -/
theorem default_template_unusable :
    Reachable (Deployed standard Demo.deployment) (Transaction standard Demo.deployment)
        Demo.clashingStart ∧
      Demo.clashingStart.world.registry.defaultCount > 0 ∧
      ¬accepts (FeeValidation.validate Demo.clashing 2 3000 Demo.treasury) ∧
      ¬accepts (Demo.clashingStart.world.registry.registerEndpoint Demo.authority 60 Demo.slug
        ⟨200, 0, 500, 0, 1500⟩ false 0 Demo.recipients) :=
  ⟨.start Demo.deployed_clashingStart, by decide, by decide +kernel, by decide +kernel⟩

end PactNetwork.Evm
