import PactNetwork.Evm.Erc20
import PactNetwork.Foundation.Checked

/-!
# Fee recipients on EVM

The protocol constants, the errors of the three contracts, and the two fee
validators: `validate` for an endpoint's list and `validateDefaultTemplate`
for the template a registry is constructed with.
-/

set_option autoImplicit false

namespace PactNetwork.Evm

namespace ProtocolInvariants

def maxBatchSize : Nat := 50
def minPremium : UInt64 := 100
def maxFeeRecipients : UInt8 := 8
def absoluteFeeBpsCap : UInt16 := 10000

end ProtocolInvariants

/-- The custom errors a call can revert with, and the reverts of the language
and of the libraries. -/
inductive EvmError where
  | endpointPaused
  | unauthorizedAuthority
  | duplicateCallId
  | endpointNotFound
  | invalidTimestamp
  | batchTooLarge
  | premiumTooSmall
  | invalidSlug
  | arithmeticOverflow
  | feeRecipientArrayTooLong
  | feeBpsExceedsCap
  | feeBpsSumOver10k
  | feeRecipientDuplicateDestination
  | multipleTreasuryRecipients
  | recipientCoverageMismatch
  | endpointAlreadyRegistered
  | invalidFeeRecipientKind
  | missingTreasuryEntry
  | treasuryBpsZero
  | invalidAffiliateAta
  | protocolPaused
  | accessControlUnauthorizedAccount
  | tokenOperationFailed
  | panic
  deriving DecidableEq, Repr

/-- `kind` is 0 for the treasury, 1 and 2 for affiliates. -/
structure FeeRecipient where
  kind : UInt8
  destination : Address
  bps : UInt16
  deriving DecidableEq

def FeeRecipient.zero : FeeRecipient := ⟨0, zeroAddress, 0⟩

/-- `FeeRecipient[8]`. -/
abbrev FeeRecipients := List.Vector FeeRecipient 8

namespace FeeValidation

/-- The entry loop both validators share; `earlier` holds the entries already
visited. The result is the sum of the basis points. -/
def checkEntries (earlier : List FeeRecipient) (treasurySeen : Bool) (sumBps : Nat) :
    List FeeRecipient → Except EvmError Nat
  | [] => .ok sumBps
  | entry :: rest => do
      failIf (entry.kind > 2) .invalidFeeRecipientKind
      failIf (entry.bps > ProtocolInvariants.absoluteFeeBpsCap) .feeBpsExceedsCap
      failIf (entry.kind = 0 ∧ treasurySeen = true) .multipleTreasuryRecipients
      failIf (∃ visited ∈ earlier, visited.destination = entry.destination)
        .feeRecipientDuplicateDestination
      checkEntries (earlier ++ [entry]) (treasurySeen || entry.kind == 0)
        (sumBps + entry.bps.toNat) rest

def scanTreasury (entries : List FeeRecipient) : Nat × UInt16 :=
  entries.foldl (fun (found : Nat × UInt16) entry =>
    if entry.kind = 0 then (found.1 + 1, entry.bps) else found) (0, 0)

def checkTreasury (entries : List FeeRecipient) : Except EvmError Unit := do
  failIf ((scanTreasury entries).1 = 0) .missingTreasuryEntry
  failIf ((scanTreasury entries).1 > 1) .multipleTreasuryRecipients
  failIf ((scanTreasury entries).2 = 0) .treasuryBpsZero

def substituteTreasury (treasuryVault : Address) (entry : FeeRecipient) : FeeRecipient :=
  if entry.kind = 0 then { entry with destination := treasuryVault } else entry

/-- Substitute in the first `count` slots, in place. -/
def substitute (treasuryVault : Address) (count : Nat) (recipients : FeeRecipients) :
    FeeRecipients :=
  ⟨(recipients.toList.take count).map (substituteTreasury treasuryVault) ++
    recipients.toList.drop count, by
      rw [List.length_append, List.length_map, ← List.length_append, List.take_append_drop,
        List.Vector.toList_length]⟩

/-- Returns the list with the treasury's destination filled in, and `sumBps`. -/
def validate (recipients : FeeRecipients) (count : UInt8) (maxTotalFeeBps : UInt16)
    (treasuryVault : Address) : Except EvmError (FeeRecipients × Nat) := do
  failIf (count > ProtocolInvariants.maxFeeRecipients) .feeRecipientArrayTooLong
  let sumBps ← checkEntries [] false 0 (recipients.toList.take count.toNat)
  failIf (sumBps > ProtocolInvariants.absoluteFeeBpsCap.toNat) .feeBpsSumOver10k
  failIf (sumBps > maxTotalFeeBps.toNat) .feeBpsExceedsCap
  let substituted := substitute treasuryVault count.toNat recipients
  let entries := substituted.toList.take count.toNat
  checkTreasury entries
  failIf (¬(entries.map FeeRecipient.destination).Nodup) .feeRecipientDuplicateDestination
  failIf (∃ entry ∈ entries, entry.kind ≠ 0 ∧ entry.destination = zeroAddress)
    .invalidAffiliateAta
  .ok (substituted, sumBps)

def validateDefaultTemplate (recipients : FeeRecipients) (count : UInt8)
    (maxTotalFeeBps : UInt16) : Except EvmError Unit := do
  failIf (count > ProtocolInvariants.maxFeeRecipients) .feeRecipientArrayTooLong
  failIf (maxTotalFeeBps > ProtocolInvariants.absoluteFeeBpsCap) .feeBpsExceedsCap
  let sumBps ← checkEntries [] false 0 (recipients.toList.take count.toNat)
  failIf (sumBps > ProtocolInvariants.absoluteFeeBpsCap.toNat) .feeBpsSumOver10k
  failIf (sumBps > maxTotalFeeBps.toNat) .feeBpsExceedsCap
  if count > 0 then checkTreasury (recipients.toList.take count.toNat) else .ok ()

section Substitution

variable (treasuryVault : Address)

theorem take_substitute (count : Nat) (recipients : FeeRecipients) :
    (substitute treasuryVault count recipients).toList.take count =
      (recipients.toList.take count).map (substituteTreasury treasuryVault) := by
  show ((recipients.toList.take count).map (substituteTreasury treasuryVault) ++
    recipients.toList.drop count).take count = _
  by_cases long : count ≤ recipients.toList.length
  · exact List.take_left' (by rw [List.length_map, List.length_take, Nat.min_eq_left long])
  · rw [List.drop_eq_nil_of_le (by omega), List.append_nil, List.take_of_length_le]
    rw [List.length_map, List.length_take]
    omega

theorem zero_affiliate_iff (entries : List FeeRecipient) :
    (∃ entry ∈ entries.map (substituteTreasury treasuryVault),
        entry.kind ≠ 0 ∧ entry.destination = zeroAddress) ↔
      ∃ entry ∈ entries, entry.kind ≠ 0 ∧ entry.destination = zeroAddress := by
  simp only [List.mem_map, exists_exists_and_eq_and]
  refine exists_congr fun entry => and_congr_right fun _ => ?_
  unfold substituteTreasury
  by_cases isTreasury : entry.kind = 0
  · simp [isTreasury]
  · rw [if_neg isTreasury]

end Substitution

end FeeValidation

end PactNetwork.Evm
