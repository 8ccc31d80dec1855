import Mathlib.Logic.Relator
import PactNetwork.Evm.FeeValidation
import PactNetwork.Foundation.Agreement
import PactNetwork.V1.Fee

/-!
# Fee validation on both chains

The Solana pipeline and the EVM validator on the same list of recipients. A
naming of addresses says which addresses of the two chains are the same.
-/

set_option autoImplicit false

namespace PactNetwork

/-- What both instructions that take a list do with it: parse, substitute the
treasury's destination, validate again. -/
def V1.Fee.validate (bytes : List UInt8) (count : Nat) (maxTotalFeeBps : UInt16)
    (treasuryUsdcVault : Solana.Address) :
    Except Solana.ProgramError (V1.FeeRecipients × Nat) := do
  let (entries, sumBps) ← V1.Fee.parseAndValidate bytes count maxTotalFeeBps
  let resolved := V1.Fee.substituteTreasuryDestination entries count treasuryUsdcVault
  V1.Fee.validatePostSubstitution resolved count
  .ok (resolved, sumBps)

/-- The same recipient, up to the naming of addresses and padding. -/
structure SameEntry (named : Solana.Address → Evm.Address → Prop) (solana : V1.FeeRecipient)
    (evm : Evm.FeeRecipient) : Prop where
  kind : solana.kind = evm.kind
  destination : named solana.destination evm.destination
  bps : solana.bps = evm.bps

namespace FeeParity

section Entries

variable {named : Solana.Address → Evm.Address → Prop} {solana : V1.FeeRecipient}
  {evm : Evm.FeeRecipient} {earlier raws : List V1.FeeRecipient}
  {visited entries : List Evm.FeeRecipient}

theorem duplicate_iff (unique : Relator.BiUnique named) (same : SameEntry named solana evm)
    (lists : List.Forall₂ (SameEntry named) earlier visited) :
    (∃ other ∈ earlier, other.destination = solana.destination) ↔
      ∃ other ∈ visited, other.destination = evm.destination := by
  induction lists with
  | nil => simp
  | cons head tail ih =>
      simp only [List.mem_cons, exists_eq_or_imp]
      refine or_congr ⟨?_, ?_⟩ ih
      · intro equal
        have renamed := head.destination
        rw [equal] at renamed
        exact unique.2 renamed same.destination
      · intro equal
        have renamed := head.destination
        rw [equal] at renamed
        exact unique.1 renamed same.destination

theorem nodup_iff (unique : Relator.BiUnique named)
    (lists : List.Forall₂ (SameEntry named) earlier visited) :
    (earlier.map V1.FeeRecipient.destination).Nodup ↔
      (visited.map Evm.FeeRecipient.destination).Nodup := by
  induction lists with
  | nil => simp
  | cons head tail ih =>
      simp only [List.map_cons, List.nodup_cons, List.mem_map]
      exact and_congr (not_congr (duplicate_iff unique head tail)) ih

theorem scanTreasury_eq (lists : List.Forall₂ (SameEntry named) earlier visited)
    (found : Nat × UInt16) :
    earlier.foldl (fun (found : Nat × UInt16) entry =>
        if entry.kind = V1.FeeRecipientKind.treasury.toU8 then (found.1 + 1, entry.bps)
        else found) found =
      visited.foldl (fun (found : Nat × UInt16) entry =>
        if entry.kind = 0 then (found.1 + 1, entry.bps) else found) found := by
  induction lists generalizing found with
  | nil => rfl
  | cons head tail ih =>
      rw [List.foldl_cons, List.foldl_cons, head.kind, head.bps]
      exact ih _

theorem checkTreasury_agree (lists : List.Forall₂ (SameEntry named) earlier visited) :
    Agree (fun _ _ => True) (V1.Fee.checkTreasury earlier)
      (Evm.FeeValidation.checkTreasury visited) := by
  have scan : V1.Fee.scanTreasury earlier = Evm.FeeValidation.scanTreasury visited :=
    scanTreasury_eq lists _
  unfold V1.Fee.checkTreasury Evm.FeeValidation.checkTreasury
  rw [scan]
  exact .guard Iff.rfl fun _ => .guard Iff.rfl fun _ => .failIf Iff.rfl trivial

theorem fromU8_isNone (kind : UInt8) :
    (V1.FeeRecipientKind.fromU8 kind).isNone = true ↔ kind > 2 := by
  have two : (2 : UInt8).toNat = 2 := rfl
  rw [gt_iff_lt, UInt8.lt_iff_toNat_lt, two]
  unfold V1.FeeRecipientKind.fromU8
  split <;> simp_all
  omega

theorem entries_agree (unique : Relator.BiUnique named)
    (lists : List.Forall₂ (SameEntry named) raws entries)
    (before : List.Forall₂ (SameEntry named) earlier visited) (treasurySeen : Bool)
    (sumBps : Nat) :
    Agree (fun parsed total => parsed.2 = total ∧
        List.Forall₂ (SameEntry named) parsed.1 (visited ++ entries))
      (V1.Fee.parseEntries earlier treasurySeen sumBps raws)
      (Evm.FeeValidation.checkEntries visited treasurySeen sumBps entries) := by
  induction lists generalizing earlier visited treasurySeen sumBps with
  | nil =>
      refine .ok ⟨rfl, ?_⟩
      rw [List.append_nil]
      exact before
  | @cons raw entry raws entries head tail ih =>
      unfold V1.Fee.parseEntries Evm.FeeValidation.checkEntries V1.Fee.decodeEntry
      rw [except_bind_assoc]
      refine .guard ?_ fun _ => ?_
      · rw [fromU8_isNone, head.kind]
      have decoded : SameEntry named { V1.FeeRecipient.zero with
          kind := raw.kind, destination := raw.destination, bps := raw.bps } entry :=
        ⟨head.kind, head.destination, head.bps⟩
      rw [ok_bind]
      refine .guard ?_ fun _ => .guard ?_ fun _ => .guard (duplicate_iff unique decoded before)
        fun _ => ?_
      · rw [decoded.bps]
        rfl
      · rw [decoded.kind]
        rfl
      · have later := ih (List.rel_append before (.cons decoded .nil))
          (treasurySeen || entry.kind == 0) (sumBps + entry.bps.toNat)
        rw [List.append_assoc] at later
        have seen : (treasurySeen || raw.kind == V1.FeeRecipientKind.treasury.toU8) =
            (treasurySeen || entry.kind == 0) := by
          rw [head.kind]
          rfl
        have total : sumBps + raw.bps.toNat = sumBps + entry.bps.toNat := by rw [head.bps]
        rw [← seen, ← total] at later
        rw [← head.kind, ← head.bps]
        exact later

theorem substitute_same {vault : Solana.Address} {treasuryVault : Evm.Address}
    (treasury : named vault treasuryVault)
    (lists : List.Forall₂ (SameEntry named) earlier visited) :
    List.Forall₂ (SameEntry named) (earlier.map (V1.Fee.substituteEntry vault))
      (visited.map (Evm.FeeValidation.substituteTreasury treasuryVault)) := by
  refine List.rel_map (fun solana evm same => ?_) lists
  have kinds : solana.kind = V1.FeeRecipientKind.treasury.toU8 ↔ evm.kind = 0 := by
    rw [same.kind]
    rfl
  unfold V1.Fee.substituteEntry Evm.FeeValidation.substituteTreasury
  by_cases isTreasury : evm.kind = 0
  · rw [if_pos isTreasury, if_pos (kinds.mpr isTreasury)]
    exact ⟨same.kind, treasury, same.bps⟩
  · rw [if_neg isTreasury, if_neg fun kind => isTreasury (kinds.mp kind)]
    exact same

end Entries

section Lists

variable {named : Solana.Address → Evm.Address → Prop} {raws : List V1.FeeRecipient}
  {entries : List Evm.FeeRecipient} {recipients : Evm.FeeRecipients} {count : UInt8}

theorem validate_agree (unique : Relator.BiUnique named)
    (lists : List.Forall₂ (SameEntry named) raws entries) (rest : List UInt8)
    (listed : count.toNat = entries.length)
    (array : recipients.toList.take count.toNat = entries.take 8) (maxTotalFeeBps : UInt16)
    {vault : Solana.Address} {treasuryVault : Evm.Address} (treasury : named vault treasuryVault)
    (nonzero : ¬∃ entry ∈ entries, entry.kind ≠ 0 ∧ entry.destination = Evm.zeroAddress) :
    Agree (fun stored stored' => stored.2 = stored'.2 ∧ List.Forall₂ (SameEntry named)
        (stored.1.toList.take count.toNat) (stored'.1.toList.take count.toNat))
      (V1.Fee.validate (raws.flatMap V1.FeeRecipient.layout.encode ++ rest) count.toNat
        maxTotalFeeBps vault)
      (Evm.FeeValidation.validate recipients count maxTotalFeeBps treasuryVault) := by
  have same : count.toNat = raws.length := listed.trans lists.length_eq.symm
  unfold V1.Fee.validate V1.Fee.parseAndValidate Evm.FeeValidation.validate
  simp only [except_bind_assoc, ok_bind]
  refine .guard ?_ fun small => ?_
  · rw [gt_iff_lt, gt_iff_lt, UInt8.lt_iff_toNat_lt]
    rfl
  replace small : count.toNat ≤ 8 := Nat.le_of_not_lt small
  rw [failIf_of_not, ok_bind, same, Layout.decodeArray_flatMap, ← same, array,
    List.take_of_length_le (listed ▸ small)]
  swap
  · rw [List.length_append, Layout.length_flatMap_encode, same]
    omega
  refine Agree.bind (entries_agree unique lists .nil false 0) ?_
  rintro ⟨parsed, total⟩ _ ⟨rfl, stored⟩
  rw [List.nil_append] at stored
  have length : parsed.length = count.toNat := stored.length_eq.trans listed.symm
  refine .guard Iff.rfl fun _ => .guard Iff.rfl fun _ => ?_
  have resolved := substitute_same treasury stored
  rw [← List.take_of_length_le (listed ▸ small : entries.length ≤ 8), ← array,
    ← Evm.FeeValidation.take_substitute, ← V1.Fee.take_padEntries (show parsed.length ≤ 8 from length ▸ small), length,
    ← V1.Fee.take_substitute] at resolved
  unfold V1.Fee.validatePostSubstitution
  rw [except_bind_assoc]
  refine Agree.bind (checkTreasury_agree resolved) fun _ _ _ => ?_
  refine .guard (nodup_iff unique resolved).not fun _ => ?_
  rw [failIf_of_not, ok_bind]
  · exact .ok ⟨rfl, resolved⟩
  · rw [Evm.FeeValidation.take_substitute, array, List.take_of_length_le (listed ▸ small),
      Evm.FeeValidation.zero_affiliate_iff]
    exact nonzero

theorem not_accepts_of_zero (listed : count.toNat = entries.length)
    (array : recipients.toList.take count.toNat = entries.take 8) (maxTotalFeeBps : UInt16)
    (treasuryVault : Evm.Address)
    (zero : ∃ entry ∈ entries, entry.kind ≠ 0 ∧ entry.destination = Evm.zeroAddress) :
    ¬accepts (Evm.FeeValidation.validate recipients count maxTotalFeeBps treasuryVault) := by
  rintro ⟨stored, accepted⟩
  simp only [Evm.FeeValidation.validate, bind_eq_ok, failIf_eq_ok, exists_const] at accepted
  obtain ⟨small, _, -, -, -, _, -, -, nonzero, -⟩ := accepted
  have small' : entries.length ≤ 8 := by
    rw [gt_iff_lt, UInt8.lt_iff_toNat_lt, listed] at small
    exact Nat.le_of_not_lt small
  rw [Evm.FeeValidation.take_substitute, array, List.take_of_length_le small',
    Evm.FeeValidation.zero_affiliate_iff] at nonzero
  exact nonzero zero

theorem validate_accepts_iff (unique : Relator.BiUnique named)
    (lists : List.Forall₂ (SameEntry named) raws entries) (rest : List UInt8)
    (listed : count.toNat = entries.length)
    (array : recipients.toList.take count.toNat = entries.take 8) (maxTotalFeeBps : UInt16)
    {vault : Solana.Address} {treasuryVault : Evm.Address} (treasury : named vault treasuryVault) :
    accepts (Evm.FeeValidation.validate recipients count maxTotalFeeBps treasuryVault) ↔
      accepts (V1.Fee.validate (raws.flatMap V1.FeeRecipient.layout.encode ++ rest) count.toNat
        maxTotalFeeBps vault) ∧
      ∀ entry ∈ entries, entry.kind ≠ 0 → entry.destination ≠ Evm.zeroAddress := by
  constructor
  · intro accepted
    have nonzero : ¬∃ entry ∈ entries, entry.kind ≠ 0 ∧ entry.destination = Evm.zeroAddress :=
      fun zero => not_accepts_of_zero listed array maxTotalFeeBps treasuryVault zero accepted
    have agree := validate_agree unique lists rest listed array maxTotalFeeBps treasury nonzero
    exact ⟨agree.accepts_iff.mpr accepted,
      fun entry member kind destination => nonzero ⟨entry, member, kind, destination⟩⟩
  · rintro ⟨accepted, nonzero⟩
    have agree := validate_agree unique lists rest listed array maxTotalFeeBps treasury
      fun ⟨entry, member, kind, destination⟩ => nonzero entry member kind destination
    exact agree.accepts_iff.mp accepted

end Lists

end FeeParity

/-- The EVM validator accepts the lists that the Solana pipeline accepts and
that name no affiliate at the zero address, and both store the same recipients. -/
theorem fee_validation_parity (named : Solana.Address → Evm.Address → Prop)
    (unique : Relator.BiUnique named) (raws : List V1.FeeRecipient)
    (entries : List Evm.FeeRecipient) (lists : List.Forall₂ (SameEntry named) raws entries)
    (rest : List UInt8) (recipients : Evm.FeeRecipients) (count : UInt8)
    (listed : count.toNat = entries.length)
    (array : recipients.toList.take count.toNat = entries.take 8) (maxTotalFeeBps : UInt16)
    (vault : Solana.Address) (treasuryVault : Evm.Address) (treasury : named vault treasuryVault) :
    let solana := V1.Fee.validate (raws.flatMap V1.FeeRecipient.layout.encode ++ rest) count.toNat
      maxTotalFeeBps vault
    let evm := Evm.FeeValidation.validate recipients count maxTotalFeeBps treasuryVault
    (accepts evm ↔ accepts solana ∧
      ∀ entry ∈ entries, entry.kind ≠ 0 → entry.destination ≠ Evm.zeroAddress) ∧
    ∀ stored total stored' total', solana = .ok (stored, total) → evm = .ok (stored', total') →
      total = total' ∧ List.Forall₂ (SameEntry named) (stored.toList.take count.toNat)
        (stored'.toList.take count.toNat) := by
  intro solana evm
  have accepted_iff := FeeParity.validate_accepts_iff unique lists rest listed array maxTotalFeeBps
    treasury
  refine ⟨accepted_iff, fun stored total stored' total' accepted accepted' => ?_⟩
  obtain ⟨-, nonzero⟩ := accepted_iff.mp ⟨_, accepted'⟩
  have agree := FeeParity.validate_agree unique lists rest listed array maxTotalFeeBps treasury
    fun ⟨entry, member, kind, destination⟩ => nonzero entry member kind destination
  exact agree.results accepted accepted'

/-! ## A template both chains accept -/

namespace FeeParity.Demo

def Padded (solana : Solana.Address) (evm : Evm.Address) : Prop :=
  solana.toList = evm.toList ++ List.replicate 12 0

theorem padded_unique : Relator.BiUnique Padded := by
  constructor
  · intro first evm second same same'
    exact Bytes.toList_inj.mp (same.trans same'.symm)
  · intro solana first second same same'
    exact Bytes.toList_inj.mp (List.append_cancel_right (same.symm.trans same'))

def evmAddress (tag : UInt8) : Evm.Address := List.Vector.replicate 20 tag

def solanaAddress (tag : UInt8) : Solana.Address :=
  ⟨List.replicate 20 tag ++ List.replicate 12 0, rfl⟩

def raws : List V1.FeeRecipient :=
  [⟨0, List.Vector.replicate 7 0, solanaAddress 0, 1000, List.Vector.replicate 6 0⟩,
    ⟨1, List.Vector.replicate 7 0, solanaAddress 7, 500, List.Vector.replicate 6 0⟩]

def entries : List Evm.FeeRecipient := [⟨0, evmAddress 0, 1000⟩, ⟨1, evmAddress 7, 500⟩]

def recipients : Evm.FeeRecipients :=
  ⟨entries ++ List.replicate 6 Evm.FeeRecipient.zero, rfl⟩

theorem raws_named : List.Forall₂ (SameEntry Padded) raws entries :=
  .cons ⟨rfl, rfl, rfl⟩ (.cons ⟨rfl, rfl, rfl⟩ .nil)

end FeeParity.Demo

open FeeParity.Demo in
/-- The template of a treasury and an affiliate passes both validators under a
cap of 30 percent. -/
theorem fee_validation_parity_template :
    accepts (Evm.FeeValidation.validate recipients 2 3000 (evmAddress 9)) ∧
      accepts (V1.Fee.validate (raws.flatMap V1.FeeRecipient.layout.encode ++ []) 2 3000
        (solanaAddress 9)) := by
  have accepted : accepts (Evm.FeeValidation.validate recipients 2 3000 (evmAddress 9)) :=
    ⟨_, by rfl⟩
  exact ⟨accepted, ((fee_validation_parity Padded padded_unique raws entries raws_named []
    recipients 2 rfl rfl 3000 (solanaAddress 9) (evmAddress 9) rfl).1.mp accepted).1⟩

end PactNetwork
