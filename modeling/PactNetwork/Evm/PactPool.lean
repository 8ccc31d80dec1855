import PactNetwork.Evm.PactRegistry
import PactNetwork.Settlement.Core

/-!
# PactPool

One token balance for all slugs, and a ledger for each slug kept beside it.
-/

set_option autoImplicit false

namespace PactNetwork.Evm

structure PoolState where
  currentBalance : UInt64
  totalDeposits : UInt64
  totalPremiums : UInt64
  totalRefunds : UInt64
  createdAt : UInt64
  deriving DecidableEq

def PoolState.zero : PoolState := ⟨0, 0, 0, 0, 0⟩

def PoolState.ledger (state : PoolState) : Settlement.Pool where
  deposits := state.totalDeposits.toNat
  premiums := state.totalPremiums.toNat
  refunds := state.totalRefunds.toNat
  balance := state.currentBalance.toNat

structure PactPool where
  pools : Slug → PoolState
  /-- The holders of the pool's `SETTLER_ROLE`. -/
  settlerRole : Address → Bool

def PactPool.setPool (pool : PactPool) (slug : Slug) (state : PoolState) : PactPool :=
  { pool with pools := Function.update pool.pools slug state }

structure PactSettler where
  settledCallIds : CallId → Bool
  /-- The holders of the settler's own `SETTLER_ROLE`. -/
  settlerRole : Address → Bool

structure Deployment where
  pool : Address
  settler : Address
  pool_ne_zero : pool ≠ zeroAddress
  settler_ne_zero : settler ≠ zeroAddress
  pool_ne_settler : pool ≠ settler

/-- The storage of the token and of the three contracts. -/
structure World (τ : Type) where
  token : τ
  registry : PactRegistry
  pool : PactPool
  settler : PactSettler

namespace PactPool

section Calls

variable {τ : Type} (usdc : Erc20 τ) (deployment : Deployment) (world : World τ)

def topUp (sender : Address) (timestamp : UInt64) (slug : Slug) (amount : UInt64) :
    Except EvmError (World τ) := do
  failIf (sender ≠ world.registry.authority) .unauthorizedAuthority
  failIf (world.registry.registered slug = false) .endpointNotFound
  let token ← okOr
    (usdc.transferFrom world.token deployment.pool sender deployment.pool amount.toNat)
    .tokenOperationFailed
  let state := world.pool.pools slug
  let currentBalance ← ckAdd state.currentBalance amount
  let totalDeposits ← ckAdd state.totalDeposits amount
  let createdAt := if state.createdAt = 0 then timestamp else state.createdAt
  .ok { world with
    token
    pool := world.pool.setPool slug { state with currentBalance, totalDeposits, createdAt } }

def balanceOf (slug : Slug) : Except EvmError PoolState := do
  failIf (world.registry.registered slug = false) .endpointNotFound
  .ok (world.pool.pools slug)

def creditPremium (sender : Address) (slug : Slug) (amount : UInt64) :
    Except EvmError (World τ) := do
  onlyRole world.pool.settlerRole sender
  failIf (world.registry.registered slug = false) .endpointNotFound
  let state := world.pool.pools slug
  let currentBalance ← ckAdd state.currentBalance amount
  let totalPremiums ← ckAdd state.totalPremiums amount
  .ok { world with
    pool := world.pool.setPool slug { state with currentBalance, totalPremiums } }

def debitForFees (sender : Address) (slug : Slug) (amount : UInt64) :
    Except EvmError (World τ) := do
  onlyRole world.pool.settlerRole sender
  failIf (world.registry.registered slug = false) .endpointNotFound
  let state := world.pool.pools slug
  let currentBalance ← ckSub state.currentBalance amount
  .ok { world with pool := world.pool.setPool slug { state with currentBalance } }

def debitForRefund (sender : Address) (slug : Slug) (amount : UInt64) :
    Except EvmError (World τ) := do
  onlyRole world.pool.settlerRole sender
  failIf (world.registry.registered slug = false) .endpointNotFound
  let state := world.pool.pools slug
  let currentBalance ← ckSub state.currentBalance amount
  let totalRefunds ← ckAdd state.totalRefunds amount
  .ok { world with
    pool := world.pool.setPool slug { state with currentBalance, totalRefunds } }

def payout (sender target : Address) (amount : UInt64) : Except EvmError (World τ) := do
  onlyRole world.pool.settlerRole sender
  let token ← okOr (usdc.transfer world.token deployment.pool target amount.toNat)
    .tokenOperationFailed
  .ok { world with token }

end Calls

end PactPool

end PactNetwork.Evm
