import PactNetwork.V1.Pda

/-!
# Fee recipients

Parsing and validation of fee recipient arrays, and what they establish about
the array that is stored.
-/

set_option autoImplicit false

namespace PactNetwork.V1

open Solana

namespace Fee

/-- `decode_entry` on an entry already read as a struct. -/
def decodeEntry (raw : FeeRecipient) : Except ProgramError FeeRecipient := do
  failIf ((FeeRecipientKind.fromU8 raw.kind).isNone = true) (↑PactError.invalidFeeRecipientKind)
  .ok { FeeRecipient.zero with
    kind := raw.kind, destination := raw.destination, bps := raw.bps }

/-- The entry loop; `earlier` holds the entries already parsed. Returns them all
and the sum of their basis points, which eight `u16` cannot overflow. -/
def parseEntries (earlier : List FeeRecipient) (treasurySeen : Bool) (sumBps : Nat) :
    List FeeRecipient → Except ProgramError (List FeeRecipient × Nat)
  | [] => .ok (earlier, sumBps)
  | raw :: rest => do
      let entry ← decodeEntry raw
      failIf (entry.bps > absoluteFeeBpsCap) (↑PactError.feeBpsExceedsCap)
      failIf (entry.kind = FeeRecipientKind.treasury.toU8 ∧ treasurySeen = true)
        (↑PactError.multipleTreasuryRecipients)
      failIf (∃ visited ∈ earlier, visited.destination = entry.destination)
        (↑PactError.feeRecipientDuplicateDestination)
      parseEntries (earlier ++ [entry])
        (treasurySeen || entry.kind == FeeRecipientKind.treasury.toU8)
        (sumBps + entry.bps.toNat) rest

def padEntries (entries : List FeeRecipient) : FeeRecipients :=
  ⟨(entries ++ List.replicate 8 FeeRecipient.zero).take 8, by simp⟩

def parseAndValidate (bytes : List UInt8) (count : Nat) (maxTotalFeeBps : UInt16) :
    Except ProgramError (FeeRecipients × Nat) := do
  failIf (count > maxFeeRecipients) (↑PactError.feeRecipientArrayTooLong)
  failIf (bytes.length < count * FeeRecipient.layout.size) .invalidInstructionData
  let (entries, sumBps) ← parseEntries [] false 0 (FeeRecipient.layout.decodeArray count bytes)
  failIf (sumBps > absoluteFeeBpsCap.toNat) (↑PactError.feeBpsSumOver10k)
  failIf (sumBps > maxTotalFeeBps.toNat) (↑PactError.feeBpsExceedsCap)
  .ok (padEntries entries, sumBps)

def substituteEntry (treasuryUsdcVault : Address) (entry : FeeRecipient) : FeeRecipient :=
  if entry.kind = FeeRecipientKind.treasury.toU8 then
    { entry with destination := treasuryUsdcVault }
  else entry

/-- Substitute in the first `count` slots, in place. -/
def substituteTreasuryDestination (entries : FeeRecipients) (count : Nat)
    (treasuryUsdcVault : Address) : FeeRecipients :=
  ⟨(entries.toList.take count).map (substituteEntry treasuryUsdcVault) ++
    entries.toList.drop count, by
      rw [List.length_append, List.length_map, ← List.length_append, List.take_append_drop,
        List.Vector.toList_length]⟩

def scanTreasury (entries : List FeeRecipient) : Nat × UInt16 :=
  entries.foldl (fun (found : Nat × UInt16) entry =>
    if entry.kind = FeeRecipientKind.treasury.toU8 then (found.1 + 1, entry.bps) else found) (0, 0)

def checkTreasury (entries : List FeeRecipient) : Except ProgramError Unit := do
  failIf ((scanTreasury entries).1 = 0) (↑PactError.missingTreasuryEntry)
  failIf ((scanTreasury entries).1 > 1) (↑PactError.multipleTreasuryRecipients)
  failIf ((scanTreasury entries).2 = 0) (↑PactError.treasuryBpsZero)

def validatePostSubstitution (entries : FeeRecipients) (count : Nat) :
    Except ProgramError Unit := do
  checkTreasury (entries.toList.take count)
  failIf (¬((entries.toList.take count).map FeeRecipient.destination).Nodup)
    (↑PactError.feeRecipientDuplicateDestination)

/-- The account behind an affiliate entry is the stored destination, owned by
the Token Program, initialized, and of the protocol's mint. -/
def checkAffiliateAta (ledger : Ledger) (mint : Address) (entry : FeeRecipient) (ata : Address) :
    Except ProgramError Unit := do
  failIf (ata ≠ entry.destination) (↑PactError.invalidAffiliateAta)
  failIf ((ledger ata).owner ≠ tokenProgram) (↑PactError.invalidAffiliateAta)
  let token ← okOr (structAt TokenAccount.layout ledger ata) ↑PactError.invalidAffiliateAta
  failIf (token.state ≠ 1) (↑PactError.invalidAffiliateAta)
  failIf (token.mint ≠ mint) (↑PactError.invalidAffiliateAta)

/-- One account for each affiliate entry, in order. -/
def validateAffiliateAtas (ledger : Ledger) (mint : Address) :
    List FeeRecipient → List Address → Except ProgramError Unit
  | [], _ => .ok ()
  | entry :: rest, atas =>
      if entry.kind ≠ FeeRecipientKind.affiliateAta.toU8 then
        validateAffiliateAtas ledger mint rest atas
      else
        match atas with
        | [] => .error ↑PactError.invalidAffiliateAta
        | ata :: more => do
            checkAffiliateAta ledger mint entry ata
            validateAffiliateAtas ledger mint rest more

/-- The affiliate accounts are at the end of the account list. -/
def checkAffiliates (ledger : Ledger) (mint : Address) (used : List FeeRecipient)
    (tail : List Address) : Except ProgramError Unit := do
  let affiliateCount := used.countP fun entry => entry.kind == FeeRecipientKind.affiliateAta.toU8
  failIf (tail.length < affiliateCount) .notEnoughAccountKeys
  if affiliateCount > 0 then
    validateAffiliateAtas ledger mint used (tail.take affiliateCount)
  else .ok ()

/-- What registration and update do once the entries are chosen: substitute,
validate again, and check the affiliate accounts. -/
def resolveRecipients (ledger : Ledger) (entries : FeeRecipients) (count : Nat)
    (treasuryUsdcVault mint : Address) (tail : List Address) :
    Except ProgramError FeeRecipients := do
  let resolved := substituteTreasuryDestination entries count treasuryUsdcVault
  validatePostSubstitution resolved count
  checkAffiliates ledger mint (resolved.toList.take count) tail
  .ok resolved

/-! ## What validation establishes -/

/-- What the stored recipients of an endpoint satisfy. -/
structure ValidRecipients (entries : List FeeRecipient) (maxTotalFeeBps : Nat)
    (treasuryVault : Address) : Prop where
  nonempty : 1 ≤ entries.length
  bounded : entries.length ≤ 8
  treasury : ∃ entry, entries.filter (fun entry => entry.kind == FeeRecipientKind.treasury.toU8) =
    [entry] ∧ entry.bps ≠ 0 ∧ entry.destination = treasuryVault
  distinct : (entries.map FeeRecipient.destination).Nodup
  sum_le : (entries.map fun entry => entry.bps.toNat).sum ≤ maxTotalFeeBps

/-- The bounds a template already meets before its treasury is known. -/
structure WithinBounds (entries : List FeeRecipient) (maxTotalFeeBps : Nat) : Prop where
  bounded : entries.length ≤ 8
  sum_le : (entries.map fun entry => entry.bps.toNat).sum ≤ maxTotalFeeBps

theorem parseEntries_spec {earlier raws entries : List FeeRecipient} {treasurySeen : Bool}
    {sumBps total : Nat}
    (parsed : parseEntries earlier treasurySeen sumBps raws = .ok (entries, total)) :
    entries.length = earlier.length + raws.length ∧
      total + (earlier.map fun entry => entry.bps.toNat).sum =
        sumBps + (entries.map fun entry => entry.bps.toNat).sum := by
  induction raws generalizing earlier treasurySeen sumBps with
  | nil =>
      cases parsed
      exact ⟨rfl, rfl⟩
  | cons raw rest ih =>
      simp only [parseEntries, bind_eq_ok, failIf_eq_ok, exists_const] at parsed
      obtain ⟨entry, -, -, -, -, more⟩ := parsed
      obtain ⟨length, sum⟩ := ih more
      simp only [List.length_append, List.length_nil, List.map_append, List.map_cons,
        List.map_nil, List.sum_append, List.sum_singleton, List.length_cons] at length sum ⊢
      exact ⟨by omega, by omega⟩

theorem take_padEntries {entries : List FeeRecipient} (bounded : entries.length ≤ 8) :
    (padEntries entries).toList.take entries.length = entries := by
  show ((entries ++ List.replicate 8 FeeRecipient.zero).take 8).take entries.length = entries
  rw [List.take_take, Nat.min_eq_left bounded, List.take_left]

theorem parseAndValidate_spec {bytes : List UInt8} {count sumBps : Nat} {maxTotalFeeBps : UInt16}
    {entries : FeeRecipients}
    (parsed : parseAndValidate bytes count maxTotalFeeBps = .ok (entries, sumBps)) :
    count ≤ 8 ∧ WithinBounds (entries.toList.take count) maxTotalFeeBps.toNat := by
  simp only [parseAndValidate, bind_eq_ok, failIf_eq_ok, exists_const, Prod.exists,
    Except.ok.injEq, Prod.mk.injEq, Nat.not_lt, maxFeeRecipients, gt_iff_lt] at parsed
  obtain ⟨small, -, list, total, loop, -, within, rfl, rfl⟩ := parsed
  obtain ⟨length, sum⟩ := parseEntries_spec loop
  rw [Layout.length_decodeArray, List.length_nil, Nat.zero_add] at length
  subst length
  rw [take_padEntries small]
  refine ⟨small, small, ?_⟩
  simp only [List.map_nil, List.sum_nil, Nat.add_zero, Nat.zero_add] at sum
  omega

theorem scanTreasury_eq (entries : List FeeRecipient) :
    scanTreasury entries =
      ((entries.filter fun entry => entry.kind == FeeRecipientKind.treasury.toU8).length,
        ((entries.filter fun entry => entry.kind == FeeRecipientKind.treasury.toU8).getLast?.map
          FeeRecipient.bps).getD 0) := by
  induction entries using List.reverseRecOn with
  | nil => rfl
  | append_singleton entries entry ih =>
      rw [scanTreasury, List.foldl_append]
      rw [scanTreasury] at ih
      rw [ih]
      by_cases treasury : entry.kind = FeeRecipientKind.treasury.toU8
      · simp [treasury]
      · simp [treasury]

theorem checkTreasury_spec {entries : List FeeRecipient} {result : Unit}
    (checked : checkTreasury entries = .ok result) :
    ∃ entry, entries.filter (fun entry => entry.kind == FeeRecipientKind.treasury.toU8) =
      [entry] ∧ entry.bps ≠ 0 := by
  simp only [checkTreasury, bind_eq_ok, failIf_eq_ok, exists_const, scanTreasury_eq] at checked
  obtain ⟨some_, one, share⟩ := checked
  obtain ⟨entry, single⟩ := List.length_eq_one_iff.mp (by omega :
    (entries.filter fun entry => entry.kind == FeeRecipientKind.treasury.toU8).length = 1)
  rw [single] at share
  exact ⟨entry, single, share⟩

theorem take_substitute (entries : FeeRecipients) (count : Nat) (vault : Address) :
    (substituteTreasuryDestination entries count vault).toList.take count =
      (entries.toList.take count).map (substituteEntry vault) := by
  show ((entries.toList.take count).map (substituteEntry vault) ++
    entries.toList.drop count).take count = _
  by_cases long : count ≤ entries.toList.length
  · exact List.take_left' (by rw [List.length_map, List.length_take, Nat.min_eq_left long])
  · rw [List.drop_eq_nil_of_le (by omega), List.append_nil, List.take_of_length_le]
    rw [List.length_map, List.length_take]
    omega

@[simp] theorem substituteEntry_kind (vault : Address) (entry : FeeRecipient) :
    (substituteEntry vault entry).kind = entry.kind := by
  unfold substituteEntry
  split <;> rfl

@[simp] theorem substituteEntry_bps (vault : Address) (entry : FeeRecipient) :
    (substituteEntry vault entry).bps = entry.bps := by
  unfold substituteEntry
  split <;> rfl

/-- Bounded entries become valid recipients. The treasury's destination is the
vault by substitution, and duplicates are looked for after it. -/
theorem resolveRecipients_spec {ledger : Ledger} {entries resolved : FeeRecipients}
    {count maxTotalFeeBps : Nat} {vault mint : Address} {tail : List Address}
    (within : WithinBounds (entries.toList.take count) maxTotalFeeBps)
    (accepted : resolveRecipients ledger entries count vault mint tail = .ok resolved) :
    ValidRecipients (resolved.toList.take count) maxTotalFeeBps vault := by
  simp only [resolveRecipients, validatePostSubstitution, bind_eq_ok, failIf_eq_ok, exists_const,
    not_not, Except.ok.injEq] at accepted
  obtain ⟨⟨_, treasury, distinct⟩, _, -, rfl⟩ := accepted
  obtain ⟨entry, single, share⟩ := checkTreasury_spec treasury
  have member := List.mem_filter.mp (single ▸ List.mem_cons_self :
    entry ∈ ((substituteTreasuryDestination entries count vault).toList.take count).filter
      fun entry => entry.kind == FeeRecipientKind.treasury.toU8)
  refine ⟨List.length_pos_of_mem member.1, ?_, ⟨entry, single, share, ?_⟩, distinct, ?_⟩
  · rw [take_substitute, List.length_map]
    exact within.bounded
  · obtain ⟨included, kind⟩ := member
    rw [take_substitute] at included
    obtain ⟨original, -, rfl⟩ := List.mem_map.mp included
    rw [substituteEntry_kind, beq_iff_eq] at kind
    rw [substituteEntry, if_pos kind]
  · rw [take_substitute, List.map_map]
    have same : (fun entry => entry.bps.toNat) ∘ substituteEntry vault =
        fun entry : FeeRecipient => entry.bps.toNat := by
      funext entry
      simp
    rw [same]
    exact within.sum_le

/-! ## Known kinds -/

/-- At most eight recipients are in use, each of a known kind. -/
structure Known (count : UInt8) (recipients : FeeRecipients) : Prop where
  few : count.toNat ≤ 8
  kind : ∀ entry ∈ recipients.toList.take count.toNat,
    ∃ kind : FeeRecipientKind, entry.kind = kind.toU8

theorem kind_of_fromU8 {value : UInt8}
    (known : ¬(FeeRecipientKind.fromU8 value).isNone = true) :
    ∃ kind : FeeRecipientKind, value = kind.toU8 := by
  unfold FeeRecipientKind.fromU8 at known
  split at known
  case h_1 zero => exact ⟨.treasury, UInt8.toNat_inj.mp zero⟩
  case h_2 one => exact ⟨.affiliateAta, UInt8.toNat_inj.mp one⟩
  case h_3 two => exact ⟨.affiliatePda, UInt8.toNat_inj.mp two⟩
  case h_4 => exact absurd rfl known

theorem parseEntries_known {earlier raws entries : List FeeRecipient} {treasurySeen : Bool}
    {sumBps total : Nat}
    (parsed : parseEntries earlier treasurySeen sumBps raws = .ok (entries, total))
    (before : ∀ entry ∈ earlier, ∃ kind : FeeRecipientKind, entry.kind = kind.toU8) :
    ∀ entry ∈ entries, ∃ kind : FeeRecipientKind, entry.kind = kind.toU8 := by
  induction raws generalizing earlier treasurySeen sumBps with
  | nil =>
      cases parsed
      exact before
  | cons raw rest ih =>
      simp only [parseEntries, decodeEntry, bind_eq_ok, failIf_eq_ok, exists_const,
        Except.ok.injEq] at parsed
      obtain ⟨entry, ⟨known, rfl⟩, -, -, -, more⟩ := parsed
      refine ih more fun later member => ?_
      rcases List.mem_append.mp member with member | member
      · exact before later member
      · rw [List.mem_singleton.mp member]
        exact kind_of_fromU8 known

theorem known_padEntries {entries : List FeeRecipient} {count : UInt8}
    (length : entries.length = count.toNat) (few : count.toNat ≤ 8)
    (kind : ∀ entry ∈ entries, ∃ kind : FeeRecipientKind, entry.kind = kind.toU8) :
    Known count (padEntries entries) := by
  refine ⟨few, ?_⟩
  rw [← length, take_padEntries (length ▸ few)]
  exact kind

theorem parseAndValidate_known {bytes : List UInt8} {count : UInt8} {sumBps : Nat}
    {maxTotalFeeBps : UInt16} {entries : FeeRecipients}
    (parsed : parseAndValidate bytes count.toNat maxTotalFeeBps = .ok (entries, sumBps)) :
    Known count entries := by
  simp only [parseAndValidate, bind_eq_ok, failIf_eq_ok, exists_const, Prod.exists,
    Except.ok.injEq, Prod.mk.injEq, Nat.not_lt, maxFeeRecipients, gt_iff_lt] at parsed
  obtain ⟨small, -, list, total, loop, -, -, rfl, -⟩ := parsed
  obtain ⟨length, -⟩ := parseEntries_spec loop
  rw [Layout.length_decodeArray, List.length_nil, Nat.zero_add] at length
  exact known_padEntries length small
    (parseEntries_known loop fun _ member => absurd member List.not_mem_nil)

theorem resolveRecipients_known {ledger : Ledger} {entries resolved : FeeRecipients}
    {count : UInt8} {vault mint : Address} {tail : List Address} (known : Known count entries)
    (accepted : resolveRecipients ledger entries count.toNat vault mint tail = .ok resolved) :
    Known count resolved := by
  simp only [resolveRecipients, bind_eq_ok, Except.ok.injEq] at accepted
  obtain ⟨_, -, _, -, rfl⟩ := accepted
  refine ⟨known.few, fun entry member => ?_⟩
  rw [take_substitute] at member
  obtain ⟨original, included, rfl⟩ := List.mem_map.mp member
  rw [substituteEntry_kind]
  exact known.kind original included

end Fee

end PactNetwork.V1
