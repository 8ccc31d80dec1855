import PactNetwork.CrossChain.FeeValidation
import PactNetwork.Settler.MessageData
import PactNetwork.V1Client.StateLayout

/-!
# Fee validation before sending

The clients check a list of fee recipients before they send it. Their rules are
those of the on-chain entry loop alone: what the chains check once the treasury
is substituted they leave out, and a bound on the cap itself they add.
-/

set_option autoImplicit false

namespace PactNetwork

/-! ## The clients -/

namespace V1Client

def absoluteFeeBpsCap : Nat := 10000

/-- The loop of both clients; `key` is how destinations are compared. The result
is the sum of the basis points. -/
def checkRecipients {κ : Type} [DecidableEq κ] (key : Pubkey → κ) (seenDest : List κ)
    (treasurySeen : Bool) (sum : Nat) : List FeeRecipient → Except String Nat
  | [] => .ok sum
  | r :: rest => do
      failIf (r.kind ≠ 0 ∧ r.kind ≠ 1 ∧ r.kind ≠ 2) s!"InvalidFeeRecipientKind: {r.kind}"
      failIf (r.bps > absoluteFeeBpsCap)
        s!"FeeBpsExceedsCap: entry bps ({r.bps}) > {absoluteFeeBpsCap}"
      failIf (r.kind = 0 ∧ treasurySeen = true) "MultipleTreasuryRecipients"
      failIf (key r.destination ∈ seenDest) s!"FeeRecipientDuplicateDestination: {r.destination}"
      checkRecipients key (seenDest ++ [key r.destination]) (treasurySeen || r.kind == 0)
        (sum + r.bps) rest

/-- Both clients' validation. It throws the reason, and returns when valid. -/
def validateWith {κ : Type} [DecidableEq κ] (key : Pubkey → κ) (recipients : List FeeRecipient)
    (count maxTotalFeeBps : Nat) : Except String Unit := do
  failIf (count ≠ recipients.length)
    s!"count ({count}) must equal recipients.length ({recipients.length})"
  failIf (count > maxFeeRecipients) s!"FeeRecipientArrayTooLong: {count} > {maxFeeRecipients}"
  failIf (maxTotalFeeBps > absoluteFeeBpsCap)
    s!"FeeBpsExceedsCap: maxTotalFeeBps ({maxTotalFeeBps}) > {absoluteFeeBpsCap}"
  let sum ← checkRecipients key [] false 0 recipients
  failIf (sum > absoluteFeeBpsCap) s!"FeeBpsSumOver10k: sum={sum}"
  failIf (sum > maxTotalFeeBps)
    s!"FeeBpsExceedsCap: sum ({sum}) > maxTotalFeeBps ({maxTotalFeeBps})"

def validateFeeRecipients (recipients : List FeeRecipient) (count maxTotalFeeBps : Nat) :
    Except String Unit :=
  validateWith id recipients count maxTotalFeeBps

end V1Client

namespace EvmClient

/-- `String(destination).toLowerCase()`, on what is ASCII. -/
def toLowerCase (destination : String) : List Char := destination.toList.map Char.toLower

def validateFeeRecipients (recipients : List V1Client.FeeRecipient) (count maxTotalFeeBps : Nat) :
    Except String Unit :=
  V1Client.validateWith toLowerCase recipients count maxTotalFeeBps

/-- The text of an address: `0x` and its bytes in hex, in either case. -/
def Spells (destination : String) (address : Evm.Address) : Prop :=
  toLowerCase destination = '0' :: 'x' :: address.toList.flatMap Settler.byteHex

instance (destination : String) (address : Evm.Address) : Decidable (Spells destination address) :=
  inferInstanceAs (Decidable (_ = _))

structure SameEntry (client : V1Client.FeeRecipient) (entry : Evm.FeeRecipient) : Prop where
  kind : client.kind = entry.kind.toNat
  destination : Spells client.destination entry.destination
  bps : client.bps = entry.bps.toNat

end EvmClient

/-! ## The rules -/

namespace FeePreflight

/-- A recipient whose destination is any kind of name. -/
structure Recipient (κ : Type) where
  kind : Nat
  destination : κ
  bps : Nat

section Rules

variable {κ κ' : Type}

def Looped (earlier : List κ) (treasurySeen : Bool) : List (Recipient κ) → Prop
  | [] => True
  | entry :: rest => entry.kind ≤ 2 ∧ entry.bps ≤ 10000 ∧
      ¬(entry.kind = 0 ∧ treasurySeen = true) ∧ entry.destination ∉ earlier ∧
      Looped (earlier ++ [entry.destination]) (treasurySeen || entry.kind == 0) rest

def treasuries (entries : List (Recipient κ)) : List (Recipient κ) :=
  entries.filter fun entry => entry.kind == 0

/-- The rules that the clients and the chains have in common. -/
structure Common (entries : List (Recipient κ)) (maxTotalFeeBps : Nat) : Prop where
  short : entries.length ≤ 8
  kinds : ∀ entry ∈ entries, entry.kind ≤ 2
  treasuries_le : (treasuries entries).length ≤ 1
  distinct : (entries.map Recipient.destination).Nodup
  sum_le : (entries.map Recipient.bps).sum ≤ 10000
  within : (entries.map Recipient.bps).sum ≤ maxTotalFeeBps

/-- The rules that only the chains have: the treasury has a share, and no
affiliate is at its vault. -/
structure Settled (entries : List (Recipient κ)) (vault : κ) : Prop where
  share : ∃ entry ∈ entries, entry.kind = 0 ∧ entry.bps ≠ 0
  elsewhere : ∀ entry ∈ entries, entry.kind ≠ 0 → entry.destination ≠ vault

theorem looped_iff (entries : List (Recipient κ)) (earlier : List κ) (treasurySeen : Bool) :
    Looped earlier treasurySeen entries ↔
      (∀ entry ∈ entries, entry.kind ≤ 2) ∧ (∀ entry ∈ entries, entry.bps ≤ 10000) ∧
      (treasuries entries).length + treasurySeen.toNat ≤ 1 ∧
      (entries.map Recipient.destination).Nodup ∧
      ∀ entry ∈ entries, entry.destination ∉ earlier := by
  induction entries generalizing earlier treasurySeen with
  | nil =>
      have seen := treasurySeen.toNat_le
      simpa [Looped, treasuries] using seen
  | cons entry rest ih =>
      have fresh : (∀ other ∈ rest, other.destination ∉ earlier ++ [entry.destination]) ↔
          (∀ other ∈ rest, other.destination ∉ earlier) ∧
            entry.destination ∉ rest.map Recipient.destination := by
        simp only [List.mem_append, List.mem_singleton, not_or, forall_and, List.mem_map,
          not_exists, not_and]
      have count : ¬(entry.kind = 0 ∧ treasurySeen = true) ∧
          (treasuries rest).length + (treasurySeen || entry.kind == 0).toNat ≤ 1 ↔
          (treasuries (entry :: rest)).length + treasurySeen.toNat ≤ 1 := by
        unfold treasuries
        by_cases treasury : entry.kind = 0
        · cases treasurySeen <;> simp [treasury]
        · have other : (entry.kind == 0) = false := beq_false_of_ne treasury
          cases treasurySeen <;> simp [other, treasury]
      simp only [Looped, ih, fresh, List.forall_mem_cons, List.map_cons, List.nodup_cons, ← count]
      tauto

theorem looped_of_common {entries : List (Recipient κ)} {maxTotalFeeBps : Nat}
    (common : Common entries maxTotalFeeBps) : Looped [] false entries := by
  refine (looped_iff entries [] false).mpr ⟨common.kinds, fun entry member => ?_,
    common.treasuries_le, common.distinct, fun entry member inside => by cases inside⟩
  have part := List.single_le_sum (fun _ _ => Nat.zero_le _) _
    (List.mem_map_of_mem (f := Recipient.bps) member)
  exact part.trans common.sum_le

theorem common_iff (entries : List (Recipient κ)) (maxTotalFeeBps : Nat) :
    Common entries maxTotalFeeBps ↔ entries.length ≤ 8 ∧ Looped [] false entries ∧
      (entries.map Recipient.bps).sum ≤ 10000 ∧
      (entries.map Recipient.bps).sum ≤ maxTotalFeeBps := by
  constructor
  · intro common
    exact ⟨common.short, looped_of_common common, common.sum_le, common.within⟩
  · rintro ⟨short, looped, sum, within⟩
    obtain ⟨kinds, -, count, distinct, -⟩ := (looped_iff entries [] false).mp looped
    exact ⟨short, kinds, count, distinct, sum, within⟩

def Recipient.rename (name : κ → κ') (entry : Recipient κ) : Recipient κ' :=
  { entry with destination := name entry.destination }

theorem treasuries_rename (name : κ → κ') (entries : List (Recipient κ)) :
    (treasuries (entries.map (Recipient.rename name))).length = (treasuries entries).length := by
  unfold treasuries
  rw [List.filter_map, List.length_map]
  rfl

theorem common_rename {name : κ → κ'} {entries : List (Recipient κ)} {maxTotalFeeBps : Nat}
    (unique : ∀ first ∈ entries, ∀ second ∈ entries,
      name first.destination = name second.destination → first.destination = second.destination) :
    Common (entries.map (Recipient.rename name)) maxTotalFeeBps ↔
      Common entries maxTotalFeeBps := by
  have names : (entries.map (Recipient.rename name)).map Recipient.destination =
      (entries.map Recipient.destination).map name := by
    rw [List.map_map, List.map_map]
    rfl
  have shares : (entries.map (Recipient.rename name)).map Recipient.bps =
      entries.map Recipient.bps := by
    rw [List.map_map]
    rfl
  have injective : ∀ first ∈ entries.map Recipient.destination,
      ∀ second ∈ entries.map Recipient.destination, name first = name second → first = second := by
    intro first member second member' same
    obtain ⟨entry, inside, rfl⟩ := List.mem_map.mp member
    obtain ⟨entry', inside', rfl⟩ := List.mem_map.mp member'
    exact unique entry inside entry' inside' same
  constructor
  · intro common
    have distinct := common.distinct
    have sum := common.sum_le
    have within := common.within
    rw [names] at distinct
    rw [shares] at sum within
    exact {
      short := by simpa using common.short
      kinds := fun entry member => common.kinds _ (List.mem_map_of_mem member)
      treasuries_le := treasuries_rename name entries ▸ common.treasuries_le
      distinct := distinct.of_map
      sum_le := sum
      within }
  · intro common
    exact {
      short := by simpa using common.short
      kinds := List.forall_mem_map.mpr common.kinds
      treasuries_le := (treasuries_rename name entries).symm ▸ common.treasuries_le
      distinct := by
        rw [names]
        exact common.distinct.map_on injective
      sum_le := by
        rw [shares]
        exact common.sum_le
      within := by
        rw [shares]
        exact common.within }

theorem settled_rename {name : κ → κ'} (unique : Function.Injective name)
    (entries : List (Recipient κ)) (vault : κ) :
    Settled (entries.map (Recipient.rename name)) (name vault) ↔ Settled entries vault := by
  constructor
  · rintro ⟨⟨_, member, treasury, share⟩, elsewhere⟩
    obtain ⟨entry, inside, rfl⟩ := List.mem_map.mp member
    refine ⟨⟨entry, inside, treasury, share⟩, fun other listed affiliate same => ?_⟩
    exact elsewhere _ (List.mem_map_of_mem listed) affiliate (congrArg name same)
  · rintro ⟨⟨entry, inside, treasury, share⟩, elsewhere⟩
    refine ⟨⟨_, List.mem_map_of_mem inside, treasury, share⟩, fun other listed affiliate same => ?_⟩
    obtain ⟨original, inside', rfl⟩ := List.mem_map.mp listed
    exact elsewhere original inside' affiliate (unique same)

def paidTo (vault : κ) (entry : Recipient κ) : κ :=
  if entry.kind = 0 then vault else entry.destination

theorem paidTo_nodup_iff {entries : List (Recipient κ)} {vault : κ} {treasury : Recipient κ}
    (distinct : (entries.map Recipient.destination).Nodup)
    (count : (treasuries entries).length ≤ 1) (member : treasury ∈ entries)
    (isTreasury : treasury.kind = 0) :
    (entries.map (paidTo vault)).Nodup ↔
      ∀ entry ∈ entries, entry.kind ≠ 0 → entry.destination ≠ vault := by
  constructor
  · intro apart entry listed affiliate same
    have paid : paidTo vault entry = paidTo vault treasury := by
      rw [paidTo, paidTo, if_neg affiliate, if_pos isTreasury, same]
    rw [List.inj_on_of_nodup_map apart listed member paid] at affiliate
    exact affiliate isTreasury
  · intro elsewhere
    refine List.Nodup.map_on (fun first listed second listed' same => ?_) distinct.of_map
    by_cases kind : first.kind = 0 <;> by_cases kind' : second.kind = 0
    · have one : first ∈ treasuries entries := List.mem_filter.mpr ⟨listed, beq_iff_eq.mpr kind⟩
      have two : second ∈ treasuries entries :=
        List.mem_filter.mpr ⟨listed', beq_iff_eq.mpr kind'⟩
      obtain ⟨only, single⟩ := List.length_eq_one_iff.mp
        (Nat.le_antisymm count (List.length_pos_of_mem one))
      rw [single, List.mem_singleton] at one two
      rw [one, two]
    · rw [paidTo, paidTo, if_pos kind, if_neg kind'] at same
      exact absurd same.symm (elsewhere second listed' kind')
    · rw [paidTo, paidTo, if_neg kind, if_pos kind'] at same
      exact absurd same (elsewhere first listed kind)
    · rw [paidTo, paidTo, if_neg kind, if_neg kind'] at same
      exact List.inj_on_of_nodup_map distinct listed listed' same

theorem single_treasury_iff {entries : List (Recipient κ)}
    (count : (treasuries entries).length ≤ 1) :
    (∃ treasury, treasuries entries = [treasury] ∧ treasury.bps ≠ 0) ↔
      ∃ entry ∈ entries, entry.kind = 0 ∧ entry.bps ≠ 0 := by
  constructor
  · rintro ⟨treasury, single, share⟩
    have member : treasury ∈ treasuries entries := by rw [single]; exact List.mem_singleton_self _
    obtain ⟨listed, kind⟩ := List.mem_filter.mp member
    exact ⟨treasury, listed, beq_iff_eq.mp kind, share⟩
  · rintro ⟨entry, listed, kind, share⟩
    have member : entry ∈ treasuries entries := List.mem_filter.mpr ⟨listed, beq_iff_eq.mpr kind⟩
    obtain ⟨only, single⟩ := List.length_eq_one_iff.mp
      (Nat.le_antisymm count (List.length_pos_of_mem member))
    rw [single, List.mem_singleton] at member
    exact ⟨only, single, member ▸ share⟩

theorem settled_iff {entries : List (Recipient κ)} {maxTotalFeeBps : Nat} {vault : κ}
    (common : Common entries maxTotalFeeBps) :
    (∃ treasury, treasuries entries = [treasury] ∧ treasury.bps ≠ 0) ∧
        (entries.map (paidTo vault)).Nodup ↔ Settled entries vault := by
  rw [single_treasury_iff common.treasuries_le]
  constructor
  · rintro ⟨⟨entry, listed, kind, share⟩, apart⟩
    exact ⟨⟨entry, listed, kind, share⟩,
      (paidTo_nodup_iff common.distinct common.treasuries_le listed kind).mp apart⟩
  · rintro ⟨⟨entry, listed, kind, share⟩, elsewhere⟩
    exact ⟨⟨entry, listed, kind, share⟩,
      (paidTo_nodup_iff common.distinct common.treasuries_le listed kind).mpr elsewhere⟩

end Rules

/-! ## The client's answer -/

section Client

variable {κ : Type} [DecidableEq κ] (key : V1Client.Pubkey → κ)

def ofClient (r : V1Client.FeeRecipient) : Recipient κ := ⟨r.kind, key r.destination, r.bps⟩

theorem checkRecipients_eq_ok {recipients : List V1Client.FeeRecipient} {seenDest : List κ}
    {treasurySeen : Bool} {sum total : Nat} :
    V1Client.checkRecipients key seenDest treasurySeen sum recipients = .ok total ↔
      Looped seenDest treasurySeen (recipients.map (ofClient key)) ∧
        total = sum + (recipients.map V1Client.FeeRecipient.bps).sum := by
  induction recipients generalizing seenDest treasurySeen sum with
  | nil => simp [V1Client.checkRecipients, Looped, eq_comm]
  | cons r rest ih =>
      have kinds : ¬(r.kind ≠ 0 ∧ r.kind ≠ 1 ∧ r.kind ≠ 2) ↔ r.kind ≤ 2 := by omega
      simp only [V1Client.checkRecipients, V1Client.absoluteFeeBpsCap, bind_eq_ok, failIf_eq_ok,
        exists_const, ih, kinds, Nat.not_lt, gt_iff_lt, List.map_cons, Looped, ofClient,
        List.sum_cons, Nat.add_assoc]
      tauto

theorem validateWith_accepts (recipients : List V1Client.FeeRecipient) (maxTotalFeeBps : Nat) :
    accepts (V1Client.validateWith key recipients recipients.length maxTotalFeeBps) ↔
      Common (recipients.map (ofClient key)) maxTotalFeeBps ∧ maxTotalFeeBps ≤ 10000 := by
  have shares : (recipients.map (ofClient key)).map Recipient.bps =
      recipients.map V1Client.FeeRecipient.bps := by
    rw [List.map_map]
    rfl
  rw [common_iff, shares, List.length_map]
  unfold accepts V1Client.validateWith
  simp only [V1Client.maxFeeRecipients, V1Client.absoluteFeeBpsCap, bind_eq_ok, failIf_eq_ok,
    exists_const, checkRecipients_eq_ok, Nat.not_lt, gt_iff_lt, not_not, Nat.zero_add]
  constructor
  · rintro ⟨-, short, cap, _, ⟨looped, rfl⟩, sum, within⟩
    exact ⟨⟨short, looped, sum, within⟩, cap⟩
  · rintro ⟨⟨short, looped, sum, within⟩, cap⟩
    exact ⟨trivial, short, cap, _, ⟨looped, rfl⟩, sum, within⟩

end Client

/-! ## The chains' answers -/

section Solana

def ofProgram (entry : V1.FeeRecipient) : Recipient Solana.Address :=
  ⟨entry.kind.toNat, entry.destination, entry.bps.toNat⟩

def cleaned (raw : V1.FeeRecipient) : V1.FeeRecipient :=
  { V1.FeeRecipient.zero with kind := raw.kind, destination := raw.destination, bps := raw.bps }

theorem isTreasury_iff (kind : UInt8) :
    kind = V1.FeeRecipientKind.treasury.toU8 ↔ kind.toNat = 0 := by
  rw [← UInt8.toNat_inj]
  rfl

theorem parseEntries_eq_ok {raws earlier entries : List V1.FeeRecipient} {treasurySeen : Bool}
    {sumBps total : Nat} :
    V1.Fee.parseEntries earlier treasurySeen sumBps raws = .ok (entries, total) ↔
      Looped (earlier.map V1.FeeRecipient.destination) treasurySeen (raws.map ofProgram) ∧
        entries = earlier ++ raws.map cleaned ∧
        total = sumBps + ((raws.map ofProgram).map Recipient.bps).sum := by
  induction raws generalizing earlier treasurySeen sumBps with
  | nil => simp [V1.Fee.parseEntries, Looped, eq_comm]
  | cons raw rest ih =>
      have kind : ¬(V1.FeeRecipientKind.fromU8 raw.kind).isNone = true ↔ raw.kind.toNat ≤ 2 := by
        rw [FeeParity.fromU8_isNone, gt_iff_lt, UInt8.lt_iff_toNat_lt]
        exact Nat.not_lt
      have treasury := isTreasury_iff raw.kind
      have seen : (raw.kind == V1.FeeRecipientKind.treasury.toU8) = (raw.kind.toNat == 0) := by
        rw [Bool.eq_iff_iff, beq_iff_eq, beq_iff_eq, treasury]
      have cap : ¬raw.bps > V1.absoluteFeeBpsCap ↔ raw.bps.toNat ≤ 10000 := by
        rw [gt_iff_lt, UInt16.lt_iff_toNat_lt]
        exact Nat.not_lt
      have visited : (∃ other ∈ earlier, other.destination = raw.destination) ↔
          raw.destination ∈ earlier.map V1.FeeRecipient.destination := List.mem_map.symm
      simp only [V1.Fee.parseEntries, V1.Fee.decodeEntry, except_bind_assoc, ok_bind, bind_eq_ok,
        failIf_eq_ok, exists_const, ih, kind, cap, treasury, seen, visited, List.map_cons,
        List.map_append, List.map_nil, List.append_assoc, List.singleton_append, List.sum_cons,
        Nat.add_assoc, Looped, ofProgram, cleaned]
      tauto

theorem checkTreasury_accepts (entries : List V1.FeeRecipient) :
    accepts (V1.Fee.checkTreasury entries) ↔
      ∃ treasury, entries.filter (fun entry => entry.kind == V1.FeeRecipientKind.treasury.toU8) =
        [treasury] ∧ treasury.bps ≠ 0 := by
  constructor
  · rintro ⟨_, checked⟩
    exact V1.Fee.checkTreasury_spec checked
  · rintro ⟨treasury, single, share⟩
    simp only [accepts, V1.Fee.checkTreasury, bind_eq_ok, failIf_eq_ok, exists_const,
      V1.Fee.scanTreasury_eq, single]
    exact ⟨by simp, by simp, share⟩

def resolved (vault : Solana.Address) (raw : V1.FeeRecipient) : V1.FeeRecipient :=
  V1.Fee.substituteEntry vault (cleaned raw)

theorem destination_resolved (vault : Solana.Address) (raw : V1.FeeRecipient) :
    (resolved vault raw).destination = paidTo vault (ofProgram raw) := by
  unfold resolved V1.Fee.substituteEntry paidTo
  by_cases treasury : raw.kind.toNat = 0
  · rw [if_pos ((isTreasury_iff (cleaned raw).kind).mpr treasury)]
    exact (if_pos treasury).symm
  · rw [if_neg fun same => treasury ((isTreasury_iff (cleaned raw).kind).mp same)]
    exact (if_neg treasury).symm

theorem single_resolved_iff (raws : List V1.FeeRecipient) (vault : Solana.Address) :
    (∃ treasury, (raws.map (resolved vault)).filter
        (fun entry => entry.kind == V1.FeeRecipientKind.treasury.toU8) = [treasury] ∧
        treasury.bps ≠ 0) ↔
      ∃ treasury, treasuries (raws.map ofProgram) = [treasury] ∧ treasury.bps ≠ 0 := by
  have kinds : (fun entry : V1.FeeRecipient =>
      entry.kind == V1.FeeRecipientKind.treasury.toU8) ∘ resolved vault =
      (fun entry : Recipient Solana.Address => entry.kind == 0) ∘ ofProgram := by
    funext raw
    rw [Bool.eq_iff_iff, Function.comp_apply, Function.comp_apply, beq_iff_eq, beq_iff_eq,
      resolved, V1.Fee.substituteEntry_kind]
    exact isTreasury_iff raw.kind
  have shares : ∀ raw : V1.FeeRecipient,
      (resolved vault raw).bps ≠ 0 ↔ (ofProgram raw).bps ≠ 0 := by
    intro raw
    rw [resolved, V1.Fee.substituteEntry_bps, ne_eq, ne_eq, ← UInt16.toNat_inj]
    rfl
  unfold treasuries
  rw [List.filter_map, List.filter_map, kinds]
  simp only [List.map_eq_singleton_iff]
  constructor
  · rintro ⟨_, ⟨raw, single, rfl⟩, share⟩
    exact ⟨_, ⟨raw, single, rfl⟩, (shares raw).mp share⟩
  · rintro ⟨_, ⟨raw, single, rfl⟩, share⟩
    exact ⟨_, ⟨raw, single, rfl⟩, (shares raw).mpr share⟩

theorem validate_accepts (raws : List V1.FeeRecipient) (rest : List UInt8)
    (maxTotalFeeBps : UInt16) (vault : Solana.Address) :
    accepts (V1.Fee.validate (raws.flatMap V1.FeeRecipient.layout.encode ++ rest) raws.length
        maxTotalFeeBps vault) ↔
      Common (raws.map ofProgram) maxTotalFeeBps.toNat ∧ Settled (raws.map ofProgram) vault := by
  have long : ¬(raws.flatMap V1.FeeRecipient.layout.encode ++ rest).length <
      raws.length * V1.FeeRecipient.layout.size := by
    rw [List.length_append, Layout.length_flatMap_encode]
    omega
  have used : raws.length ≤ 8 →
      (V1.Fee.substituteTreasuryDestination (V1.Fee.padEntries (raws.map cleaned)) raws.length
        vault).toList.take raws.length = raws.map (resolved vault) := by
    intro short
    have kept := @V1.Fee.take_padEntries (raws.map cleaned) (by rwa [List.length_map])
    rw [List.length_map] at kept
    rw [V1.Fee.take_substitute, kept, List.map_map]
    rfl
  have destinations : (raws.map (resolved vault)).map V1.FeeRecipient.destination =
      (raws.map ofProgram).map (paidTo vault) := by
    rw [List.map_map, List.map_map]
    exact List.map_congr_left fun raw _ => destination_resolved vault raw
  have checks : Common (raws.map ofProgram) maxTotalFeeBps.toNat →
      (accepts (V1.Fee.validatePostSubstitution (V1.Fee.substituteTreasuryDestination
        (V1.Fee.padEntries (raws.map cleaned)) raws.length vault) raws.length) ↔
        Settled (raws.map ofProgram) vault) := by
    intro common
    have short := common.short
    rw [List.length_map] at short
    rw [← settled_iff common, ← single_resolved_iff raws vault, ← checkTreasury_accepts]
    simp only [accepts, V1.Fee.validatePostSubstitution, bind_eq_ok, failIf_eq_ok, exists_const,
      used short, destinations, not_not, exists_and_right]
  have parsed : accepts (V1.Fee.validate (raws.flatMap V1.FeeRecipient.layout.encode ++ rest)
      raws.length maxTotalFeeBps vault) ↔
      Common (raws.map ofProgram) maxTotalFeeBps.toNat ∧
        accepts (V1.Fee.validatePostSubstitution (V1.Fee.substituteTreasuryDestination
          (V1.Fee.padEntries (raws.map cleaned)) raws.length vault) raws.length) := by
    rw [common_iff, List.length_map]
    unfold accepts V1.Fee.validate V1.Fee.parseAndValidate
    simp only [except_bind_assoc, ok_bind, bind_eq_ok, failIf_eq_ok, exists_const, Prod.exists,
      Layout.decodeArray_flatMap, parseEntries_eq_ok, List.map_nil, Nat.zero_add, List.nil_append]
    constructor
    · rintro ⟨_, _, short, -, _, _, ⟨looped, rfl, rfl⟩, sum, within, _, validated, -⟩
      exact ⟨⟨Nat.le_of_not_lt short, looped, Nat.le_of_not_lt sum, Nat.le_of_not_lt within⟩, _,
        validated⟩
    · rintro ⟨⟨short, looped, sum, within⟩, _, validated⟩
      exact ⟨_, _, Nat.not_lt.mpr short, long, _, _, ⟨looped, rfl, rfl⟩, Nat.not_lt.mpr sum,
        Nat.not_lt.mpr within, _, validated, rfl⟩
  rw [parsed]
  exact and_congr_right checks

end Solana

section Evm

def ofEvm (entry : Evm.FeeRecipient) : Recipient Evm.Address :=
  ⟨entry.kind.toNat, entry.destination, entry.bps.toNat⟩

def widen (address : Evm.Address) : Solana.Address :=
  ⟨address.toList ++ List.replicate 12 0, by rw [List.length_append, address.toList_length]; rfl⟩

theorem widen_injective : Function.Injective widen := fun _ _ same =>
  Bytes.toList_inj.mp (List.append_cancel_right (congrArg List.Vector.toList same))

def widened (entry : Evm.FeeRecipient) : V1.FeeRecipient :=
  { V1.FeeRecipient.zero with
    kind := entry.kind, destination := widen entry.destination, bps := entry.bps }

theorem widen_unique : Relator.BiUnique fun solana evm => solana = widen evm :=
  ⟨fun _ _ _ same same' => same.trans same'.symm,
    fun _ _ _ same same' => widen_injective (same.symm.trans same')⟩

theorem evm_validate_accepts {entries : List Evm.FeeRecipient} {recipients : Evm.FeeRecipients}
    {count : UInt8} (listed : count.toNat = entries.length)
    (array : recipients.toList.take count.toNat = entries.take 8) (maxTotalFeeBps : UInt16)
    (treasuryVault : Evm.Address) :
    accepts (Evm.FeeValidation.validate recipients count maxTotalFeeBps treasuryVault) ↔
      Common (entries.map ofEvm) maxTotalFeeBps.toNat ∧
        Settled (entries.map ofEvm) treasuryVault ∧
        ∀ entry ∈ entries, entry.kind ≠ 0 → entry.destination ≠ Evm.zeroAddress := by
  have lists : List.Forall₂ (SameEntry fun solana evm => solana = widen evm)
      (entries.map widened) entries := by
    rw [List.forall₂_map_left_iff]
    exact List.forall₂_same.mpr fun entry _ => ⟨rfl, rfl, rfl⟩
  have same : count.toNat = (entries.map widened).length := by rw [List.length_map, listed]
  have renamed : (entries.map widened).map ofProgram =
      (entries.map ofEvm).map (Recipient.rename widen) := by
    rw [List.map_map, List.map_map]
    rfl
  rw [FeeParity.validate_accepts_iff widen_unique lists [] listed array maxTotalFeeBps rfl, same,
    validate_accepts, renamed, common_rename fun _ _ _ _ same => widen_injective same,
    settled_rename widen_injective, and_assoc]

def lowerText (address : Evm.Address) : List Char :=
  '0' :: 'x' :: address.toList.flatMap Settler.byteHex

theorem lowerText_injective : Function.Injective lowerText := by
  intro first second same
  have digits : first.toList.flatMap Settler.byteHex = second.toList.flatMap Settler.byteHex :=
    (List.cons.inj (List.cons.inj same).2).2
  have read := congrArg (fun text => Settler.bufferFromHex (String.ofList text)) digits
  simp only [Settler.bufferFromHex_byteHex] at read
  exact Bytes.toList_inj.mp read

theorem ofClient_eq {clients : List V1Client.FeeRecipient} {entries : List Evm.FeeRecipient}
    (lists : List.Forall₂ EvmClient.SameEntry clients entries) :
    clients.map (ofClient EvmClient.toLowerCase) =
      (entries.map ofEvm).map (Recipient.rename lowerText) := by
  induction lists with
  | nil => rfl
  | @cons client entry clients entries same others ih =>
      have first : ofClient EvmClient.toLowerCase client =
          (ofEvm entry).rename lowerText := by
        rw [ofClient, same.kind, same.bps, same.destination]
        rfl
      rw [List.map_cons, ih, first, List.map_cons, List.map_cons]

end Evm

/-! ## When they agree -/

theorem answers_agree_iff {common cap settled : Prop} :
    (common ∧ cap ↔ common ∧ settled) ↔ ¬common ∨ (cap ↔ settled) := by
  tauto

end FeePreflight

open FeePreflight in
/-- A client and its chain agree on a list that breaks a common rule. On any
other they agree if the cap is in bounds exactly when the chain's own rules hold. -/
theorem fee_preflight_exact_iff (toBase58 : List UInt8 → V1Client.Pubkey)
    (raws : List V1.FeeRecipient)
    (unique : ∀ first ∈ raws, ∀ second ∈ raws,
      toBase58 first.destination.toList = toBase58 second.destination.toList →
        first.destination = second.destination)
    (rest : List UInt8) (vault : Solana.Address) (clients : List V1Client.FeeRecipient)
    (entries : List Evm.FeeRecipient) (lists : List.Forall₂ EvmClient.SameEntry clients entries)
    (recipients : Evm.FeeRecipients) (count : UInt8) (listed : count.toNat = entries.length)
    (array : recipients.toList.take count.toNat = entries.take 8) (treasuryVault : Evm.Address)
    (maxTotalFeeBps : UInt16) :
    ((accepts (V1Client.validateFeeRecipients
        (raws.map (V1Client.FeeRecipient.ofProgram toBase58)) raws.length maxTotalFeeBps.toNat) ↔
      accepts (V1.Fee.validate (raws.flatMap V1.FeeRecipient.layout.encode ++ rest) raws.length
        maxTotalFeeBps vault)) ↔
      ¬Common (raws.map ofProgram) maxTotalFeeBps.toNat ∨
        (maxTotalFeeBps.toNat ≤ 10000 ↔ Settled (raws.map ofProgram) vault)) ∧
    ((accepts (EvmClient.validateFeeRecipients clients clients.length maxTotalFeeBps.toNat) ↔
      accepts (Evm.FeeValidation.validate recipients count maxTotalFeeBps treasuryVault)) ↔
      ¬Common (entries.map ofEvm) maxTotalFeeBps.toNat ∨
        (maxTotalFeeBps.toNat ≤ 10000 ↔ Settled (entries.map ofEvm) treasuryVault ∧
          ∀ entry ∈ entries, entry.kind ≠ 0 → entry.destination ≠ Evm.zeroAddress)) := by
  constructor
  · have texts : (raws.map (V1Client.FeeRecipient.ofProgram toBase58)).map (ofClient id) =
        (raws.map ofProgram).map
          (Recipient.rename fun address => toBase58 address.toList) := by
      rw [List.map_map, List.map_map]
      rfl
    have client := validateWith_accepts id (raws.map (V1Client.FeeRecipient.ofProgram toBase58))
      maxTotalFeeBps.toNat
    rw [List.length_map, texts, common_rename] at client
    · rw [V1Client.validateFeeRecipients, client, validate_accepts, answers_agree_iff]
    · intro first member second member' same
      obtain ⟨raw, inside, rfl⟩ := List.mem_map.mp member
      obtain ⟨raw', inside', rfl⟩ := List.mem_map.mp member'
      exact unique raw inside raw' inside' same
  · have client := validateWith_accepts EvmClient.toLowerCase clients maxTotalFeeBps.toNat
    rw [ofClient_eq lists, common_rename fun _ _ _ _ same => lowerText_injective same] at client
    rw [EvmClient.validateFeeRecipients, client, evm_validate_accepts listed array,
      answers_agree_iff]

namespace FeePreflight.Demo

open FeeParity.Demo

def toBase58 (bytes : List UInt8) : V1Client.Pubkey :=
  if bytes = List.replicate 32 0 then "11111111111111111111111111111111"
  else "US517G5965aydkZ46HS38QLi7UQakh9X3QYhon9zw75"

def clients : List V1Client.FeeRecipient :=
  [⟨0, "0x0000000000000000000000000000000000000000", 1000⟩,
    ⟨1, "0x0707070707070707070707070707070707070707", 500⟩]

theorem clients_same : List.Forall₂ EvmClient.SameEntry clients entries :=
  .cons ⟨rfl, by decide +kernel, rfl⟩ (.cons ⟨rfl, by decide +kernel, rfl⟩ .nil)

theorem texts_unique : ∀ first ∈ raws, ∀ second ∈ raws,
    toBase58 first.destination.toList = toBase58 second.destination.toList →
      first.destination = second.destination := by
  decide +kernel

end FeePreflight.Demo

open FeePreflight FeePreflight.Demo FeeParity.Demo in
/-- On the template the clients and the chains agree. -/
theorem fee_preflight_template :
    (accepts (V1Client.validateFeeRecipients
        (raws.map (V1Client.FeeRecipient.ofProgram toBase58)) 2 3000) ↔
      accepts (V1.Fee.validate (raws.flatMap V1.FeeRecipient.layout.encode ++ []) 2 3000
        (solanaAddress 9))) ∧
    (accepts (EvmClient.validateFeeRecipients clients 2 3000) ↔
      accepts (Evm.FeeValidation.validate recipients 2 3000 (evmAddress 9))) := by
  have exact_ := fee_preflight_exact_iff toBase58 raws texts_unique [] (solanaAddress 9) clients
    entries clients_same recipients 2 rfl rfl (evmAddress 9) 3000
  have solana : Settled (raws.map ofProgram) (solanaAddress 9) :=
    ⟨⟨_, List.mem_cons_self, rfl, by decide⟩, by decide +kernel⟩
  have evm : Settled (entries.map ofEvm) (evmAddress 9) :=
    ⟨⟨_, List.mem_cons_self, rfl, by decide⟩, by decide +kernel⟩
  refine ⟨exact_.1.mpr (.inr ⟨fun _ => solana, fun _ => by decide⟩),
    exact_.2.mpr (.inr ⟨fun _ => ⟨evm, by decide +kernel⟩, fun _ => by decide⟩)⟩

open FeePreflight FeePreflight.Demo FeeParity.Demo in
/-- With the affiliate at the treasury's vault, both clients accept the template
and both chains refuse it. -/
theorem vault_affiliate_slips :
    accepts (V1Client.validateFeeRecipients
        (raws.map (V1Client.FeeRecipient.ofProgram toBase58)) 2 3000) ∧
      ¬accepts (V1.Fee.validate (raws.flatMap V1.FeeRecipient.layout.encode) 2 3000
        (solanaAddress 7)) ∧
      List.Forall₂ EvmClient.SameEntry clients entries ∧
      accepts (EvmClient.validateFeeRecipients clients 2 3000) ∧
      ¬accepts (Evm.FeeValidation.validate recipients 2 3000 (evmAddress 7)) :=
  ⟨by decide +kernel, by decide +kernel, clients_same, by decide +kernel, by decide +kernel⟩

end PactNetwork
