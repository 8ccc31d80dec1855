import PactNetwork.Foundation.Transition
import PactNetwork.V1.EventEffects
import PactNetwork.V1.Fee

/-!
# The protocol's books

An abstract machine over what the program keeps: a struct for each derived
address, the token accounts, and the fees each pool has paid. Its steps are
what the instructions may do to the books, and its invariants are what the
protocol promises.
-/

set_option autoImplicit false

namespace PactNetwork.V1

open Solana

abbrev Pda.Struct : Pda → Type
  | .coveragePool _ => CoveragePool
  | .endpointConfig _ => EndpointConfig
  | .callRecord _ => CallRecord
  | .settlementAuthority => SettlementAuthority
  | .treasury => Treasury
  | .protocolConfig => ProtocolConfig

def Pda.layout : (pda : Pda) → Layout pda.Struct
  | .coveragePool _ => CoveragePool.layout
  | .endpointConfig _ => EndpointConfig.layout
  | .callRecord _ => CallRecord.layout
  | .settlementAuthority => SettlementAuthority.layout
  | .treasury => Treasury.layout
  | .protocolConfig => ProtocolConfig.layout

structure Books where
  structs : (pda : Pda) → Option pda.Struct
  tokens : TokenLedger
  /-- The fees paid out of each pool so far. -/
  fees : Slug → Nat

namespace Books

def put (books : Books) (pda : Pda) (value : pda.Struct) : Books :=
  { books with structs := Function.update books.structs pda (some value) }

@[simp] theorem put_self (books : Books) (pda : Pda) (value : pda.Struct) :
    (books.put pda value).structs pda = some value := Function.update_self _ _ _

@[simp] theorem put_of_ne (books : Books) {pda other : Pda} (value : pda.Struct)
    (different : other ≠ pda) : (books.put pda value).structs other = books.structs other :=
  Function.update_of_ne different _ _

@[simp] theorem put_put (books : Books) (pda : Pda) (first second : pda.Struct) :
    (books.put pda first).put pda second = books.put pda second := by
  simp [put]

theorem put_comm (books : Books) {left right : Pda} (first : left.Struct) (second : right.Struct)
    (different : left ≠ right) :
    (books.put left first).put right second = (books.put right second).put left first := by
  simp only [put, Function.update_comm different]

@[simp] theorem put_tokens (books : Books) (pda : Pda) (value : pda.Struct) :
    (books.put pda value).tokens = books.tokens := rfl

@[simp] theorem put_fees (books : Books) (pda : Pda) (value : pda.Struct) :
    (books.put pda value).fees = books.fees := rfl

def withTokens (books : Books) (tokens : TokenLedger) : Books := { books with tokens := tokens }

def charge (books : Books) (slug : Slug) (amount : Nat) : Books :=
  { books with fees := Function.update books.fees slug (books.fees slug + amount) }

section Fields

variable (books : Books) (tokens : TokenLedger) (slug : Slug) (amount : Nat)

@[simp] theorem withTokens_structs : (books.withTokens tokens).structs = books.structs := rfl
@[simp] theorem withTokens_tokens : (books.withTokens tokens).tokens = tokens := rfl
@[simp] theorem withTokens_fees : (books.withTokens tokens).fees = books.fees := rfl
@[simp] theorem charge_structs : (books.charge slug amount).structs = books.structs := rfl
@[simp] theorem charge_tokens : (books.charge slug amount).tokens = books.tokens := rfl

@[simp] theorem charge_fees_self :
    (books.charge slug amount).fees slug = books.fees slug + amount := Function.update_self _ _ _

@[simp] theorem charge_fees_of_ne {other : Slug} (different : other ≠ slug) :
    (books.charge slug amount).fees other = books.fees other :=
  Function.update_of_ne different _ _

@[simp] theorem withTokens_put (pda : Pda) (value : pda.Struct) :
    (books.withTokens tokens).put pda value = (books.put pda value).withTokens tokens := rfl

end Fields

/-! ## Steps -/

/-- What one instruction, one event of a batch, or the world outside may do. -/
inductive Step (addresses : Addresses) : Books → Books → Prop
  | configure {books : Books} (config : ProtocolConfig)
      (absent : books.structs .protocolConfig = none)
      (cap : config.maxTotalFeeBps.toNat ≤ 10000)
      (template : Fee.WithinBounds
        (config.defaultFeeRecipients.toList.take config.defaultFeeRecipientCount.toNat)
        config.maxTotalFeeBps.toNat) :
      Step addresses books (books.put .protocolConfig config)
  | pause {books : Books} {config : ProtocolConfig} (paused : UInt8)
      (found : books.structs .protocolConfig = some config) :
      Step addresses books (books.put .protocolConfig { config with paused })
  | openTreasury {books : Books} (treasury : Treasury) (token : TokenAccount)
      (absent : books.structs .treasury = none)
      (fresh : books.tokens treasury.usdcVault = none) :
      Step addresses books ((books.put .treasury treasury).withTokens
        (Function.update books.tokens treasury.usdcVault (some token)))
  | authorize {books : Books} (authority : SettlementAuthority)
      (absent : books.structs .settlementAuthority = none) :
      Step addresses books (books.put .settlementAuthority authority)
  | register {books : Books} {slug : Slug} {pool : CoveragePool} {endpoint : EndpointConfig}
      {token : TokenAccount} {config : ProtocolConfig} {treasury : Treasury}
      (poolAbsent : books.structs (.coveragePool slug) = none)
      (endpointAbsent : books.structs (.endpointConfig slug) = none)
      (fresh : books.tokens pool.usdcVault = none)
      (exclusive : token.Exclusive (addresses.of (.coveragePool slug)))
      (empty : pool.ledger = ⟨0, 0, 0, 0⟩) (unpaid : endpoint.totalRefunds = 0)
      (configured : books.structs .protocolConfig = some config)
      (opened : books.structs .treasury = some treasury)
      (valid : Fee.ValidRecipients endpoint.recipients config.maxTotalFeeBps.toNat
        treasury.usdcVault) :
      Step addresses books
        (((books.put (.coveragePool slug) pool).put (.endpointConfig slug) endpoint).withTokens
          (Function.update books.tokens pool.usdcVault (some token)))
  | adjust {books : Books} {slug : Slug} {endpoint endpoint' : EndpointConfig}
      (found : books.structs (.endpointConfig slug) = some endpoint)
      (refunds : endpoint'.totalRefunds = endpoint.totalRefunds)
      (valid : endpoint'.recipients = endpoint.recipients ∨ ∃ config treasury,
        books.structs .protocolConfig = some config ∧
        books.structs .treasury = some treasury ∧
        Fee.ValidRecipients endpoint'.recipients config.maxTotalFeeBps.toNat
          treasury.usdcVault) :
      Step addresses books (books.put (.endpointConfig slug) endpoint')
  | topUp {books : Books} {slug : Slug} {pool pool' : CoveragePool} {payment : Payment}
      {tokens : TokenLedger} (found : books.structs (.coveragePool slug) = some pool)
      (paid : TokenLedger.Pays books.tokens payment tokens)
      (target : payment.destination = pool.usdcVault)
      (outsider : ∀ pda, payment.authority ≠ addresses.of pda)
      (terms : pool'.SameTerms pool)
      (ledger : pool'.ledger = { pool.ledger with
        balance := pool.ledger.balance + payment.amount.toNat
        deposits := pool.ledger.deposits + payment.amount.toNat }) :
      Step addresses books ((books.put (.coveragePool slug) pool').withTokens tokens)
  | settle {books : Books} {now : Int64} {fixed : FixedAccounts} {event : SettlementEvent}
      {accounts : EventAccounts} {pool pool' : CoveragePool} {endpoint endpoint' : EndpointConfig}
      {tokens : TokenLedger} {status : SettlementStatus} {actual : UInt64}
      {fees : List (Address × UInt64)} {outcome : Settlement.Outcome} (bump : UInt8)
      (poolFound : books.structs (.coveragePool event.endpointSlug) = some pool)
      (endpointFound : books.structs (.endpointConfig event.endpointSlug) = some endpoint)
      (vault : pool.usdcVault = accounts.poolVault)
      (poolAccount : accounts.coveragePool = addresses.of (.coveragePool event.endpointSlug))
      (authority : fixed.settlementAuth = addresses.of .settlementAuthority)
      (fresh : books.structs (.callRecord event.callId) = none)
      (settled : SettleBatch.Settled now fixed event accounts endpoint.recipients pool pool'
        endpoint endpoint' books.tokens tokens status actual fees outcome) :
      Step addresses books
        (((((books.put (.coveragePool event.endpointSlug) pool').put
          (.endpointConfig event.endpointSlug) endpoint').put
          (.callRecord event.callId) (event.record bump status actual)).withTokens tokens).charge
          event.endpointSlug (amounts fees).sum)
  | fail {books : Books} (event : SettlementEvent) (bump : UInt8)
      (fresh : books.structs (.callRecord event.callId) = none) :
      Step addresses books
        (books.put (.callRecord event.callId) (event.record bump .delegateFailed 0))
  | outside {books : Books} (tokens : TokenLedger)
      (kept : ∀ address token pda, books.tokens address = some token →
        token.Exclusive (addresses.of pda) → ∃ token', tokens address = some token' ∧
          token'.Exclusive (addresses.of pda) ∧ token.amount.toNat ≤ token'.amount.toNat) :
      Step addresses books (books.withTokens tokens)

def Blank (books : Books) : Prop := (∀ pda, books.structs pda = none) ∧ ∀ slug, books.fees slug = 0

variable {addresses : Addresses} {books books' : Books}

/-! ## Solvency -/

/-- Each pool's vault is its own and holds what its ledger says, and each
ledger balances. -/
structure Solvent (addresses : Addresses) (books : Books) : Prop where
  held : ∀ slug pool, books.structs (.coveragePool slug) = some pool → ∃ token,
    books.tokens pool.usdcVault = some token ∧
    token.Exclusive (addresses.of (.coveragePool slug)) ∧
    pool.ledger.balance ≤ token.amount.toNat
  balanced : ∀ slug pool, books.structs (.coveragePool slug) = some pool →
    pool.ledger.Balanced (books.fees slug)
  unregistered : ∀ slug, books.structs (.coveragePool slug) = none → books.fees slug = 0

theorem Solvent.of_pools (solvent : Solvent addresses books)
    (pools : ∀ slug, books'.structs (.coveragePool slug) = books.structs (.coveragePool slug))
    (fees : books'.fees = books.fees)
    (kept : ∀ address token pda, books.tokens address = some token →
      token.Exclusive (addresses.of pda) → ∃ token', books'.tokens address = some token' ∧
        token'.Exclusive (addresses.of pda) ∧ token.amount.toNat ≤ token'.amount.toNat) :
    Solvent addresses books' where
  held slug pool found := by
    rw [pools] at found
    obtain ⟨token, stored, exclusive, covered⟩ := solvent.held slug pool found
    obtain ⟨token', stays, exclusive', grows⟩ := kept _ token _ stored exclusive
    exact ⟨token', stays, exclusive', covered.trans grows⟩
  balanced slug pool found := by
    rw [pools] at found
    rw [fees]
    exact solvent.balanced slug pool found
  unregistered slug absent := by
    rw [pools] at absent
    rw [fees]
    exact solvent.unregistered slug absent

end Books

end PactNetwork.V1
