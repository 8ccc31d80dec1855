import Mathlib.Logic.Function.Basic
import PactNetwork.Foundation.ByteLayout

/-!
# ERC-20 tokens

The token contract is not part of the repository. `Erc20` states what a
standard token does, and `standard` is one that does it.
-/

set_option autoImplicit false

namespace PactNetwork.Evm

abbrev Address := Bytes 20

def zeroAddress : Address := List.Vector.replicate 20 0

def uint256Max : Nat := 2 ^ 256 - 1

section Mappings

def moveBalance (balances : Address → Nat) (source target : Address) (amount : Nat) :
    Address → Nat :=
  let debited := Function.update balances source (balances source - amount)
  Function.update debited target (debited target + amount)

def setAllowance (allowances : Address → Address → Nat) (owner spender : Address)
    (amount : Nat) : Address → Address → Nat :=
  Function.update allowances owner (Function.update (allowances owner) spender amount)

def spendAllowance (allowances : Address → Address → Nat) (owner spender : Address)
    (amount : Nat) : Address → Address → Nat :=
  if allowances owner spender = uint256Max then allowances
  else setAllowance allowances owner spender (allowances owner spender - amount)

variable {balances : Address → Nat} {source target : Address} {amount : Nat}

theorem moveBalance_apply (covered : amount ≤ balances source) (account : Address) :
    moveBalance balances source target amount account + (if account = source then amount else 0) =
      balances account + (if account = target then amount else 0) := by
  unfold moveBalance
  by_cases credited : account = target
  · subst credited
    by_cases self : account = source
    · subst self
      simp only [Function.update_self, ↓reduceIte]
      omega
    · simp [self]
  · by_cases debited : account = source
    · subst debited
      simp only [Function.update_of_ne credited, Function.update_self, ↓reduceIte, credited]
      omega
    · simp [credited, debited]

theorem setAllowance_apply (allowances : Address → Address → Nat)
    (owner spender account other : Address) (amount : Nat) :
    setAllowance allowances owner spender amount account other =
      if account = owner ∧ other = spender then amount else allowances account other := by
  unfold setAllowance
  by_cases sameOwner : account = owner
  · subst sameOwner
    by_cases sameSpender : other = spender
    · subst sameSpender
      simp
    · simp [sameSpender]
  · simp [sameOwner]

theorem spendAllowance_of_ne {allowances : Address → Address → Nat}
    {owner spender account other : Address} {amount : Nat}
    (different : ¬(account = owner ∧ other = spender)) :
    spendAllowance allowances owner spender amount account other = allowances account other := by
  unfold spendAllowance
  split
  · rfl
  · rw [setAllowance_apply, if_neg different]

theorem spendAllowance_le (allowances : Address → Address → Nat)
    (owner spender account other : Address) (amount : Nat) :
    spendAllowance allowances owner spender amount account other ≤ allowances account other := by
  unfold spendAllowance
  split
  · exact Nat.le_refl _
  · rw [setAllowance_apply]
    split
    case isTrue same =>
      rw [same.1, same.2]
      exact Nat.sub_le _ _
    case isFalse => exact Nat.le_refl _

theorem spendAllowance_self {allowances : Address → Address → Nat} {owner spender : Address}
    {amount : Nat} (finite : allowances owner spender ≠ uint256Max) :
    spendAllowance allowances owner spender amount owner spender =
      allowances owner spender - amount := by
  rw [spendAllowance, if_neg finite, setAllowance_apply, if_pos ⟨rfl, rfl⟩]

end Mappings

/-- A standard token with states `τ`. A call yields `none` when it reverts or
returns false; it then changes nothing. -/
structure Erc20 (τ : Type) where
  balanceOf : τ → Address → Nat
  allowance : τ → Address → Address → Nat
  /-- `transfer`, called by the first address. -/
  transfer : τ → Address → Address → Nat → Option τ
  /-- `transferFrom`, called by the first address. -/
  transferFrom : τ → Address → Address → Address → Nat → Option τ
  /-- `approve`, called by the first address. -/
  approve : τ → Address → Address → Nat → Option τ
  transfer_isSome : ∀ token sender target amount, (transfer token sender target amount).isSome ↔
    sender ≠ zeroAddress ∧ target ≠ zeroAddress ∧ amount ≤ balanceOf token sender
  balanceOf_transfer : ∀ token after sender target amount,
    transfer token sender target amount = some after →
      balanceOf after = moveBalance (balanceOf token) sender target amount
  allowance_transfer : ∀ token after sender target amount,
    transfer token sender target amount = some after → allowance after = allowance token
  transferFrom_isSome : ∀ token spender source target amount,
    (transferFrom token spender source target amount).isSome ↔
      spender ≠ zeroAddress ∧ source ≠ zeroAddress ∧ target ≠ zeroAddress ∧
        amount ≤ allowance token source spender ∧ amount ≤ balanceOf token source
  balanceOf_transferFrom : ∀ token after spender source target amount,
    transferFrom token spender source target amount = some after →
      balanceOf after = moveBalance (balanceOf token) source target amount
  allowance_transferFrom : ∀ token after spender source target amount,
    transferFrom token spender source target amount = some after →
      allowance after = spendAllowance (allowance token) source spender amount
  balanceOf_approve : ∀ token after owner spender amount,
    approve token owner spender amount = some after → balanceOf after = balanceOf token
  allowance_approve : ∀ token after owner spender amount,
    approve token owner spender amount = some after →
      allowance after = setAllowance (allowance token) owner spender amount

structure TokenState where
  balances : Address → Nat
  allowances : Address → Address → Nat

/-- The reference token: two mappings, no fees, no hooks. -/
def standard : Erc20 TokenState where
  balanceOf := TokenState.balances
  allowance := TokenState.allowances
  transfer token sender target amount :=
    if sender ≠ zeroAddress ∧ target ≠ zeroAddress ∧ amount ≤ token.balances sender then
      some { token with balances := moveBalance token.balances sender target amount }
    else none
  transferFrom token spender source target amount :=
    if spender ≠ zeroAddress ∧ source ≠ zeroAddress ∧ target ≠ zeroAddress ∧
        amount ≤ token.allowances source spender ∧ amount ≤ token.balances source then
      some { balances := moveBalance token.balances source target amount
             allowances := spendAllowance token.allowances source spender amount }
    else none
  approve token owner spender amount :=
    if owner ≠ zeroAddress ∧ spender ≠ zeroAddress then
      some { token with allowances := setAllowance token.allowances owner spender amount }
    else none
  transfer_isSome _ _ _ _ := by simp
  balanceOf_transfer _ _ _ _ _ moved := by
    obtain ⟨-, equal⟩ := Option.ite_none_right_eq_some.mp moved
    cases equal
    rfl
  allowance_transfer _ _ _ _ _ moved := by
    obtain ⟨-, equal⟩ := Option.ite_none_right_eq_some.mp moved
    cases equal
    rfl
  transferFrom_isSome _ _ _ _ _ := by simp
  balanceOf_transferFrom _ _ _ _ _ _ moved := by
    obtain ⟨-, equal⟩ := Option.ite_none_right_eq_some.mp moved
    cases equal
    rfl
  allowance_transferFrom _ _ _ _ _ _ moved := by
    obtain ⟨-, equal⟩ := Option.ite_none_right_eq_some.mp moved
    cases equal
    rfl
  balanceOf_approve _ _ _ _ _ approved := by
    obtain ⟨-, equal⟩ := Option.ite_none_right_eq_some.mp approved
    cases equal
    rfl
  allowance_approve _ _ _ _ _ approved := by
    obtain ⟨-, equal⟩ := Option.ite_none_right_eq_some.mp approved
    cases equal
    rfl

namespace Erc20

variable {τ : Type} {usdc : Erc20 τ} {token after : τ} {sender spender source target : Address}
  {amount : Nat}

theorem covered_of_transfer (moved : usdc.transfer token sender target amount = some after) :
    amount ≤ usdc.balanceOf token sender :=
  ((usdc.transfer_isSome token sender target amount).mp (by rw [moved]; rfl)).2.2

theorem covered_of_transferFrom
    (moved : usdc.transferFrom token spender source target amount = some after) :
    amount ≤ usdc.allowance token source spender ∧ amount ≤ usdc.balanceOf token source :=
  ((usdc.transferFrom_isSome token spender source target amount).mp (by rw [moved]; rfl)).2.2.2

theorem balance_transfer (moved : usdc.transfer token sender target amount = some after)
    (account : Address) :
    usdc.balanceOf after account + (if account = sender then amount else 0) =
      usdc.balanceOf token account + (if account = target then amount else 0) := by
  rw [usdc.balanceOf_transfer _ _ _ _ _ moved]
  exact moveBalance_apply (covered_of_transfer moved) account

theorem balance_transferFrom
    (moved : usdc.transferFrom token spender source target amount = some after)
    (account : Address) :
    usdc.balanceOf after account + (if account = source then amount else 0) =
      usdc.balanceOf token account + (if account = target then amount else 0) := by
  rw [usdc.balanceOf_transferFrom _ _ _ _ _ _ moved]
  exact moveBalance_apply (covered_of_transferFrom moved).2 account

end Erc20

end PactNetwork.Evm
