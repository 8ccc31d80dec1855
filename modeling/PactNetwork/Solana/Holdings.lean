import PactNetwork.Solana.TokenLedger

/-!
# Accounts without their balances

Whether an event may charge an account is read from everything in it but its balance.
Payments keep that part of every account but the one that a delegate draws on.
-/

set_option autoImplicit false

namespace PactNetwork.Solana

/-! ## Single accounts -/

theorem TokenAccount.spend_of_exclusive {token : TokenAccount} {owner : Address}
    (exclusive : token.Exclusive owner) (amount : UInt64) :
    token.spend owner amount = .ok token := by
  refine TokenAccount.spend_eq_ok.mpr (.inr ⟨fun delegated => ?_, exclusive.owner, rfl⟩)
  rw [exclusive.noDelegate] at delegated
  cases delegated.1

theorem TokenAccount.allowance_le (token : TokenAccount) (delegate : Address) :
    token.allowance delegate ≤ token.delegatedAmount.toNat := by
  unfold allowance
  split
  case isTrue => exact Nat.le_refl _
  case isFalse => exact Nat.zero_le _

def TokenAccount.holding (token : TokenAccount) : TokenAccount := { token with amount := 0 }

theorem TokenAccount.holding_eq {left right : TokenAccount} (holder : left.SameHolder right)
    (tag : left.delegateTag = right.delegateTag)
    (allowed : left.delegatedAmount = right.delegatedAmount) : left.holding = right.holding := by
  unfold SameHolder at holder
  rw [tag, allowed] at holder
  rw [holder]
  rfl

theorem TokenAccount.of_holding {left right : TokenAccount} (same : left.holding = right.holding) :
    left = { right with amount := left.amount } := by
  cases left
  cases right
  simp only [holding, TokenAccount.mk.injEq] at same ⊢
  simp only [same, and_self]

theorem TokenAccount.spend_holding {token spent : TokenAccount} {authority : Address}
    {amount : UInt64} (spends : token.spend authority amount = .ok spent) :
    token.holding.spend authority amount = .ok spent.holding := by
  cases TokenAccount.spend_eq_ok.mp spends with
  | inl drawn =>
      obtain ⟨tag, delegate, allowed, rfl⟩ := drawn
      exact TokenAccount.spend_eq_ok.mpr (.inl ⟨tag, delegate, allowed, rfl⟩)
  | inr owned =>
      obtain ⟨direct, owner, rfl⟩ := owned
      exact TokenAccount.spend_eq_ok.mpr (.inr ⟨direct, owner, rfl⟩)

namespace TokenLedger

/-! ## Live token accounts -/

section Live

variable {before after : TokenLedger} {payment : Payment} {mint address : Address}

def Live (tokens : TokenLedger) (mint address : Address) : Prop :=
  ∃ token, tokens address = some token ∧ token.state ≠ 2 ∧ token.mint = mint

theorem Live.pays (live : Live before mint address) (paid : Pays before payment after) :
    Live after mint address := by
  obtain ⟨token, found, thawed, same⟩ := live
  obtain ⟨token', stays, moved⟩ := paid.moved address found
  refine ⟨token', stays, ?_, ?_⟩
  · rw [moved.holder]
    exact thawed
  · rw [moved.holder]
    exact same

theorem Live.of_pays (live : Live after mint address)
    (paid : Pays before payment after) : Live before mint address := by
  obtain ⟨token, found, thawed, same⟩ := live
  cases old : before address with
  | none =>
      rw [(paid.none_iff address).mpr old] at found
      cases found
  | some token' =>
      obtain ⟨later, stays, moved⟩ := paid.moved address old
      cases found.symm.trans stays
      rw [moved.holder] at thawed same
      exact ⟨token', old, thawed, same⟩

theorem balance_pays (paid : Pays before payment after) (address : Address) :
    balance after address +
        (if address = payment.source then payment.amount.toNat else 0) =
      balance before address +
        (if address = payment.destination then payment.amount.toNat else 0) := by
  cases found : before address with
  | none =>
      have absent := (paid.none_iff address).mpr found
      obtain ⟨source, destination, -, sourceFound, destinationFound, -⟩ := paid
      have notSource : address ≠ payment.source := by
        rintro rfl
        rw [found] at sourceFound
        cases sourceFound
      have notDestination : address ≠ payment.destination := by
        rintro rfl
        rw [found] at destinationFound
        cases destinationFound
      rw [if_neg notSource, if_neg notDestination]
      simp only [balance, found, absent]
  | some token =>
      obtain ⟨token', stays, moved⟩ := paid.moved address found
      simp only [balance, found, stays]
      exact moved.balance

end Live

/-! ## Holdings -/

def holding (tokens : TokenLedger) (address : Address) : Option TokenAccount :=
  (tokens address).map TokenAccount.holding

def Backed (tokens : TokenLedger) (delegate address : Address) : Prop :=
  allowance tokens address delegate ≤ balance tokens address

section Payment

variable {before after : TokenLedger} {payment : Payment} {address owner delegate : Address}
  {token : TokenAccount}

theorem Pays.source_found (paid : Pays before payment after) :
    ∃ token, before payment.source = some token := by
  obtain ⟨token, -, -, found, -⟩ := paid
  exact ⟨token, found⟩

theorem Pays.spent (paid : Pays before payment after)
    (apart : payment.source ≠ payment.destination) :
    ∃ token spent, before payment.source = some token ∧
      payment.amount.toNat ≤ token.amount.toNat ∧
      token.spend payment.authority payment.amount = .ok spent ∧
      after payment.source = some { spent with amount := token.amount - payment.amount } := by
  obtain ⟨token, destination, spent, found, -, -, funds, -, spends, moves⟩ := paid
  cases moves with
  | inl self => exact absurd self.1 apart
  | inr moved =>
      obtain ⟨-, credited, -, rfl⟩ := moved
      refine ⟨token, spent, found, funds, spends, ?_⟩
      rw [Function.update_of_ne apart, Function.update_self]

theorem holding_pays_of_ne (paid : Pays before payment after) (other : address ≠ payment.source) :
    holding after address = holding before address := by
  unfold holding
  cases found : before address with
  | none => rw [(paid.none_iff address).mpr found]
  | some token =>
      obtain ⟨token', stays, moved⟩ := paid.moved address found
      rw [stays, Option.map_some, Option.map_some]
      cases moved.delegation with
      | inl same => rw [TokenAccount.holding_eq moved.holder same.1 same.2]
      | inr drawn => exact absurd drawn.1 other

theorem holding_pays_of_exclusive (paid : Pays before payment after)
    (found : before payment.source = some token) (exclusive : token.Exclusive owner) :
    holding after address = holding before address := by
  by_cases source : address = payment.source
  · subst source
    obtain ⟨token', stays, moved⟩ := paid.moved _ found
    unfold holding
    rw [found, stays, Option.map_some, Option.map_some]
    cases moved.delegation with
    | inl same => rw [TokenAccount.holding_eq moved.holder same.1 same.2]
    | inr drawn =>
        have tag := drawn.2.2.1
        rw [exclusive.noDelegate] at tag
        cases tag
  · exact holding_pays_of_ne paid source

theorem holding_pays_congr {left left' right right' : TokenLedger} (paid : Pays left payment left')
    (paid' : Pays right payment right') (apart : payment.source ≠ payment.destination)
    (same : holding right address = holding left address) :
    holding right' address = holding left' address := by
  by_cases source : address = payment.source
  · subst source
    obtain ⟨token, spent, found, -, spends, stays⟩ := paid.spent apart
    obtain ⟨token', spent', found', -, spends', stays'⟩ := paid'.spent apart
    have kept := TokenAccount.spend_holding spends
    have kept' := TokenAccount.spend_holding spends'
    unfold holding at same ⊢
    rw [found, found', Option.map_some, Option.map_some, Option.some.injEq] at same
    rw [same, kept, Except.ok.injEq] at kept'
    rw [stays, stays', Option.map_some, Option.map_some]
    exact congrArg some kept'.symm
  · rw [holding_pays_of_ne paid source, holding_pays_of_ne paid' source, same]

theorem Live.of_holding {tokens tokens' : TokenLedger} {mint : Address}
    (live : Live tokens mint address) (same : holding tokens' address = holding tokens address) :
    Live tokens' mint address := by
  obtain ⟨token, found, thawed, minted⟩ := live
  unfold holding at same
  rw [found, Option.map_some, Option.map_eq_some_iff] at same
  obtain ⟨token', found', same⟩ := same
  rw [TokenAccount.of_holding same] at found'
  exact ⟨_, found', thawed, minted⟩

theorem allowance_of_holding {left right : TokenLedger}
    (same : holding right address = holding left address) (delegate : Address) :
    allowance right address delegate = allowance left address delegate := by
  unfold holding at same
  unfold allowance
  cases found : left address with
  | none =>
      rw [found, Option.map_none, Option.map_eq_none_iff] at same
      rw [same]
  | some token =>
      rw [found, Option.map_some, Option.map_eq_some_iff] at same
      obtain ⟨token', found', same⟩ := same
      rw [found']
      dsimp only
      rw [TokenAccount.of_holding same]
      rfl

theorem backed_pays_of_exclusive (paid : Pays before payment after)
    (found : before payment.source = some token) (exclusive : token.Exclusive owner)
    (backed : Backed before delegate address) : Backed after delegate address := by
  unfold Backed at backed ⊢
  rw [allowance_of_holding (holding_pays_of_exclusive paid found exclusive)]
  by_cases source : address = payment.source
  · subst source
    have nothing : allowance before payment.source delegate = 0 := by
      unfold allowance
      rw [found]
      refine if_neg fun delegated => ?_
      rw [exclusive.noDelegate] at delegated
      cases delegated.1
    rw [nothing]
    exact Nat.zero_le _
  · have moved := balance_pays paid address
    rw [if_neg source] at moved
    omega

theorem backed_pays_of_delegate (paid : Pays before payment after)
    (found : before payment.source = some token) (tag : token.delegateTag = 1)
    (delegated : token.delegate = payment.authority)
    (apart : payment.source ≠ payment.destination)
    (backed : Backed before payment.authority address) :
    Backed after payment.authority address := by
  unfold Backed at backed ⊢
  have moved := balance_pays paid address
  by_cases source : address = payment.source
  · subst source
    rw [if_pos rfl, if_neg apart] at moved
    obtain ⟨token', stays, change⟩ := paid.moved _ found
    obtain ⟨_, spent, found', funds, spends, stays'⟩ := paid.spent apart
    cases found.symm.trans found'
    cases TokenAccount.spend_eq_ok.mp spends with
    | inr owned => exact absurd ⟨tag, delegated⟩ owned.1
    | inl drawn =>
        obtain ⟨-, -, allowed, rfl⟩ := drawn
        have before' : allowance before payment.source payment.authority =
            token.delegatedAmount.toNat := by
          unfold allowance
          rw [found]
          exact if_pos ⟨tag, delegated⟩
        have after' : allowance after payment.source payment.authority ≤
            token.delegatedAmount.toNat - payment.amount.toNat := by
          unfold allowance
          rw [stays']
          refine (TokenAccount.allowance_le _ _).trans ?_
          rw [UInt64.toNat_sub_of_le _ _ (UInt64.le_iff_toNat_le.mpr allowed)]
        omega
  · rw [allowance_of_holding (holding_pays_of_ne paid source)]
    rw [if_neg source] at moved
    omega

end Payment

theorem balance_paysAll {before after : TokenLedger} {payments : List Payment}
    (paid : PaysAll before payments after) (address : Address) :
    balance after address + (payments.map fun payment =>
        if address = payment.source then payment.amount.toNat else 0).sum =
      balance before address + (payments.map fun payment =>
        if address = payment.destination then payment.amount.toNat else 0).sum := by
  induction payments generalizing before with
  | nil =>
      cases paid
      rfl
  | cons payment rest ih =>
      obtain ⟨middle, first, more⟩ := paid
      have moved := balance_pays first address
      have later := ih more
      simp only [List.map_cons, List.sum_cons]
      omega

/-! ## What a delegate can draw -/

section Drawable

variable {tokens before after : TokenLedger} {payment : Payment} {address delegate : Address}

def drawable (tokens : TokenLedger) (address delegate : Address) : Nat :=
  match tokens address with
  | some token => if token.state = 1 then token.allowance delegate else 0
  | none => 0

theorem drawable_lt_size (tokens : TokenLedger) (address delegate : Address) :
    drawable tokens address delegate < 2 ^ 64 := by
  unfold drawable
  split
  case h_1 token _ =>
    split
    case isTrue =>
      exact (token.allowance_le delegate).trans_lt token.delegatedAmount.toNat_lt
    case isFalse => exact Nat.two_pow_pos 64
  case h_2 => exact Nat.two_pow_pos 64

theorem drawable_of_holding (same : holding after address = holding before address) :
    drawable after address delegate = drawable before address delegate := by
  unfold holding at same
  unfold drawable
  cases found : before address with
  | none =>
      rw [found, Option.map_none, Option.map_eq_none_iff] at same
      rw [same]
  | some token =>
      rw [found, Option.map_some, Option.map_eq_some_iff] at same
      obtain ⟨token', found', same⟩ := same
      rw [found', TokenAccount.of_holding same]
      rfl

theorem drawable_pays (paid : Pays before payment after)
    (apart : payment.source ≠ payment.destination)
    (enough : payment.amount.toNat ≤ drawable before payment.source payment.authority)
    (positive : 0 < payment.amount.toNat) :
    drawable after payment.source payment.authority + payment.amount.toNat =
      drawable before payment.source payment.authority := by
  obtain ⟨token, spent, found, -, spends, stays⟩ := paid.spent apart
  unfold drawable at enough ⊢
  rw [found] at enough ⊢
  rw [stays]
  simp only [TokenAccount.allowance] at enough ⊢
  split at enough
  case isFalse => omega
  case isTrue thawed =>
    split at enough
    case isFalse => omega
    case isTrue delegated =>
      cases TokenAccount.spend_eq_ok.mp spends with
      | inr owned => exact absurd delegated owned.1
      | inl drawn =>
          obtain ⟨-, -, allowed, rfl⟩ := drawn
          have left : (token.delegatedAmount - payment.amount).toNat =
              token.delegatedAmount.toNat - payment.amount.toNat :=
            UInt64.toNat_sub_of_le _ _ (UInt64.le_iff_toNat_le.mpr allowed)
          simp only [thawed, delegated, if_true, and_self]
          by_cases empty : token.delegatedAmount - payment.amount = 0
          · have zero : (token.delegatedAmount - payment.amount).toNat = 0 := by
              rw [empty]
              rfl
            simp only [empty, if_true, and_true]
            rw [if_neg (by decide)]
            omega
          · simp only [empty, if_false, and_self, if_true, left]
            omega

end Drawable

end TokenLedger

end PactNetwork.Solana
