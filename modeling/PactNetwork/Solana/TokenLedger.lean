import Mathlib.Algebra.BigOperators.Group.List.Basic
import PactNetwork.Solana.Token

/-!
# Token ledgers

The token accounts of a ledger as a map of their own, and payments on it. A
Token Program transfer is a payment; what payments keep and move is stated
here, account by account.
-/

set_option autoImplicit false

namespace PactNetwork.Solana

namespace TokenAccount

def allowance (token : TokenAccount) (delegate : Address) : Nat :=
  if token.delegateTag = 1 ∧ token.delegate = delegate then token.delegatedAmount.toNat else 0

def SameHolder (left right : TokenAccount) : Prop :=
  left = { right with
    amount := left.amount
    delegateTag := left.delegateTag
    delegatedAmount := left.delegatedAmount }

theorem SameHolder.refl (token : TokenAccount) : token.SameHolder token := rfl

theorem SameHolder.trans {first second third : TokenAccount} (left : first.SameHolder second)
    (right : second.SameHolder third) : first.SameHolder third := by
  unfold SameHolder at left right ⊢
  rw [left, right]

/-- Only its owner can spend from the account or close it. -/
structure Exclusive (token : TokenAccount) (owner : Address) : Prop where
  owner : token.owner = owner
  noDelegate : token.delegateTag = 0
  noCloser : token.closeAuthorityTag = 0

end TokenAccount

abbrev TokenLedger := Address → Option TokenAccount

structure Payment where
  source : Address
  destination : Address
  authority : Address
  amount : UInt64

namespace TokenLedger

def balance (tokens : TokenLedger) (address : Address) : Nat :=
  match tokens address with
  | some token => token.amount.toNat
  | none => 0

def allowance (tokens : TokenLedger) (address delegate : Address) : Nat :=
  match tokens address with
  | some token => token.allowance delegate
  | none => 0

/-- A transfer as the Token Program makes it. Paying oneself changes nothing. -/
def Pays (before : TokenLedger) (payment : Payment) (after : TokenLedger) : Prop :=
  ∃ source destination spent, before payment.source = some source ∧
    before payment.destination = some destination ∧
    (source.state ≠ 2 ∧ destination.state ≠ 2) ∧
    payment.amount.toNat ≤ source.amount.toNat ∧ source.mint = destination.mint ∧
    source.spend payment.authority payment.amount = .ok spent ∧
    ((payment.source = payment.destination ∧ after = before) ∨
      (payment.source ≠ payment.destination ∧ ∃ credited : UInt64,
        credited.toNat = destination.amount.toNat + payment.amount.toNat ∧
        after = Function.update (Function.update before payment.source
          (some { spent with amount := source.amount - payment.amount }))
          payment.destination (some { destination with amount := credited })))

def PaysAll : TokenLedger → List Payment → TokenLedger → Prop
  | before, [], after => after = before
  | before, payment :: rest, after =>
      ∃ middle, Pays before payment middle ∧ PaysAll middle rest after

theorem PaysAll.append {before middle after : TokenLedger} {first second : List Payment}
    (left : PaysAll before first middle) (right : PaysAll middle second after) :
    PaysAll before (first ++ second) after := by
  induction first generalizing before with
  | nil =>
      cases left
      exact right
  | cons payment rest ih =>
      obtain ⟨next, paid, more⟩ := left
      exact ⟨next, paid, ih more⟩

/-! ## What one payment does -/

/-- How an account's balance and delegation move under a payment. -/
structure Moved (payment : Payment) (address : Address) (before after : TokenAccount) : Prop where
  holder : after.SameHolder before
  balance : after.amount.toNat + (if address = payment.source then payment.amount.toNat else 0) =
    before.amount.toNat + (if address = payment.destination then payment.amount.toNat else 0)
  delegation : (after.delegateTag = before.delegateTag ∧
      after.delegatedAmount = before.delegatedAmount) ∨
    (address = payment.source ∧ payment.source ≠ payment.destination ∧
      before.delegateTag = 1 ∧ before.delegate = payment.authority ∧
      after.delegatedAmount.toNat + payment.amount.toNat = before.delegatedAmount.toNat ∧
      after.delegateTag = if after.delegatedAmount = 0 then 0 else 1)

theorem Pays.moved {before after : TokenLedger} {payment : Payment}
    (paid : Pays before payment after) (address : Address) {token : TokenAccount}
    (found : before address = some token) :
    ∃ token', after address = some token' ∧ Moved payment address token token' := by
  obtain ⟨source, destination, spent, sourceFound, destinationFound, -, funds, -, spends, moves⟩ :=
    paid
  rcases moves with ⟨self, rfl⟩ | ⟨different, credited, sum, rfl⟩
  · exact ⟨token, found, .refl token, by rw [self], .inl ⟨rfl, rfl⟩⟩
  · by_cases paidTo : address = payment.destination
    · subst paidTo
      cases found.symm.trans destinationFound
      refine ⟨_, Function.update_self _ _ _, rfl, ?_, .inl ⟨rfl, rfl⟩⟩
      rw [if_neg (Ne.symm different), if_pos rfl]
      exact sum
    · rw [Function.update_of_ne paidTo]
      by_cases paidFrom : address = payment.source
      · subst paidFrom
        cases found.symm.trans sourceFound
        have debited : (token.amount - payment.amount).toNat + payment.amount.toNat =
            token.amount.toNat := by
          rw [UInt64.toNat_sub_of_le _ _ (UInt64.le_iff_toNat_le.mpr funds)]
          omega
        refine ⟨_, Function.update_self _ _ _, ?_⟩
        rcases TokenAccount.spend_eq_ok.mp spends with
          ⟨tag, delegate, allowed, rfl⟩ | ⟨-, -, rfl⟩
        · have left : (token.delegatedAmount - payment.amount).toNat + payment.amount.toNat =
              token.delegatedAmount.toNat := by
            rw [UInt64.toNat_sub_of_le _ _ (UInt64.le_iff_toNat_le.mpr allowed)]
            omega
          refine ⟨rfl, ?_, .inr ⟨rfl, paidTo, tag, delegate, left, ?_⟩⟩
          · rw [if_pos rfl, if_neg paidTo]
            exact debited
          · simp only [tag]
        · refine ⟨rfl, ?_, .inl ⟨rfl, rfl⟩⟩
          rw [if_pos rfl, if_neg paidTo]
          exact debited
      · rw [Function.update_of_ne paidFrom]
        refine ⟨token, found, .refl token, ?_, .inl ⟨rfl, rfl⟩⟩
        rw [if_neg paidFrom, if_neg paidTo]

theorem PaysAll.moved {before after : TokenLedger} {payments : List Payment}
    (paid : PaysAll before payments after) (address : Address) {token : TokenAccount}
    (found : before address = some token) :
    ∃ token', after address = some token' ∧
      token'.amount.toNat + (payments.map fun payment =>
        if address = payment.source then payment.amount.toNat else 0).sum =
      token.amount.toNat + (payments.map fun payment =>
        if address = payment.destination then payment.amount.toNat else 0).sum := by
  induction payments generalizing before token with
  | nil =>
      cases paid
      exact ⟨token, found, rfl⟩
  | cons payment rest ih =>
      obtain ⟨middle, first, more⟩ := paid
      obtain ⟨next, stays, moved⟩ := first.moved address found
      obtain ⟨token', last, balance⟩ := ih more stays
      have step := moved.balance
      refine ⟨token', last, ?_⟩
      rw [List.map_cons, List.sum_cons, List.map_cons, List.sum_cons]
      omega

theorem Pays.none_iff {before after : TokenLedger} {payment : Payment}
    (paid : Pays before payment after) (address : Address) :
    after address = none ↔ before address = none := by
  constructor
  · intro gone
    cases found : before address with
    | none => rfl
    | some token =>
        obtain ⟨token', stays, -⟩ := paid.moved address found
        rw [gone] at stays
        cases stays
  · intro absent
    obtain ⟨source, destination, spent, sourceFound, destinationFound, -, -, -, -, moves⟩ := paid
    rcases moves with ⟨-, rfl⟩ | ⟨-, credited, -, rfl⟩
    · exact absent
    · have notDestination : address ≠ payment.destination := by
        rintro rfl
        rw [absent] at destinationFound
        cases destinationFound
      have notSource : address ≠ payment.source := by
        rintro rfl
        rw [absent] at sourceFound
        cases sourceFound
      rw [Function.update_of_ne notDestination, Function.update_of_ne notSource, absent]

/-! ## Exclusive accounts -/

section Exclusive

variable {before after : TokenLedger} {payment : Payment} {address owner : Address}
  {token : TokenAccount}

theorem Pays.source_ne (paid : Pays before payment after) (found : before address = some token)
    (exclusive : token.Exclusive owner) (foreign : payment.authority ≠ owner) :
    payment.source ≠ address := by
  rintro rfl
  obtain ⟨source, -, spent, sourceFound, -, -, -, -, spends, -⟩ := paid
  cases sourceFound.symm.trans found
  rcases TokenAccount.spend_eq_ok.mp spends with ⟨tag, -⟩ | ⟨-, owned, -⟩
  · rw [exclusive.noDelegate] at tag
    cases tag
  · exact foreign (owned.symm.trans exclusive.owner)

theorem Moved.exclusive {token' : TokenAccount} (moved : Moved payment address token token')
    (exclusive : token.Exclusive owner) : token'.Exclusive owner where
  owner := by rw [moved.holder, ← exclusive.owner]
  noDelegate := by
    rcases moved.delegation with ⟨tag, -⟩ | ⟨-, -, tag, -⟩
    · rw [tag, exclusive.noDelegate]
    · rw [exclusive.noDelegate] at tag
      cases tag
  noCloser := by rw [moved.holder, ← exclusive.noCloser]

theorem Pays.exclusive (paid : Pays before payment after) (found : before address = some token)
    (exclusive : token.Exclusive owner) :
    ∃ token', after address = some token' ∧ token'.Exclusive owner ∧
      token.amount.toNat ≤ token'.amount.toNat +
        (if payment.authority = owner then payment.amount.toNat else 0) := by
  obtain ⟨token', stays, moved⟩ := paid.moved address found
  refine ⟨token', stays, moved.exclusive exclusive, ?_⟩
  have balance := moved.balance
  split
  case isTrue own =>
    split at balance <;> omega
  case isFalse foreign =>
    rw [if_neg (Ne.symm (paid.source_ne found exclusive foreign))] at balance
    omega

theorem PaysAll.exclusive {payments : List Payment} (paid : PaysAll before payments after)
    (found : before address = some token) (exclusive : token.Exclusive owner) :
    ∃ token', after address = some token' ∧ token'.Exclusive owner ∧
      token.amount.toNat ≤ token'.amount.toNat + (payments.map fun payment =>
        if payment.authority = owner then payment.amount.toNat else 0).sum := by
  induction payments generalizing before token with
  | nil =>
      cases paid
      exact ⟨token, found, exclusive, Nat.le_refl _⟩
  | cons payment rest ih =>
      obtain ⟨middle, first, more⟩ := paid
      obtain ⟨next, stays, kept, bound⟩ := first.exclusive found exclusive
      obtain ⟨token', last, final, total⟩ := ih more stays kept
      refine ⟨token', last, final, ?_⟩
      rw [List.map_cons, List.sum_cons]
      omega

theorem PaysAll.received {payments : List Payment} (paid : PaysAll before payments after)
    (found : before address = some token) (exclusive : token.Exclusive owner)
    (spared : ∀ payment ∈ payments, payment.source ≠ address) :
    ∃ token', after address = some token' ∧ token'.Exclusive owner ∧
      token'.amount.toNat = token.amount.toNat + (payments.map fun payment =>
        if address = payment.destination then payment.amount.toNat else 0).sum := by
  induction payments generalizing before token with
  | nil =>
      cases paid
      exact ⟨token, found, exclusive, rfl⟩
  | cons payment rest ih =>
      obtain ⟨middle, first, more⟩ := paid
      obtain ⟨next, stays, moved⟩ := first.moved address found
      obtain ⟨token', last, final, total⟩ := ih more stays (moved.exclusive exclusive)
        fun later member => spared later (List.mem_cons_of_mem _ member)
      have balance := moved.balance
      rw [if_neg (Ne.symm (spared payment List.mem_cons_self))] at balance
      refine ⟨token', last, final, ?_⟩
      rw [List.map_cons, List.sum_cons]
      omega

theorem Pays.credited (paid : Pays before payment after) (found : before address = some token)
    (exclusive : token.Exclusive owner) (foreign : payment.authority ≠ owner)
    (target : payment.destination = address) :
    ∃ token', after address = some token' ∧ token'.Exclusive owner ∧
      token'.amount.toNat = token.amount.toNat + payment.amount.toNat := by
  obtain ⟨token', stays, moved⟩ := paid.moved address found
  have balance := moved.balance
  rw [if_neg (Ne.symm (paid.source_ne found exclusive foreign)), if_pos target.symm] at balance
  exact ⟨token', stays, moved.exclusive exclusive, balance⟩

end Exclusive

end TokenLedger

/-! ## Transfers are payments -/

structure SameOutsideTokens (before after : Ledger) : Prop where
  owner : ∀ address, (after address).owner = (before address).owner
  length : ∀ address, (after address).data.length = (before address).data.length
  same : ∀ address, (before address).owner ≠ tokenProgram → after address = before address

theorem SameOutsideTokens.refl (ledger : Ledger) : SameOutsideTokens ledger ledger :=
  ⟨fun _ => rfl, fun _ => rfl, fun _ _ => rfl⟩

theorem SameOutsideTokens.trans {first second third : Ledger}
    (left : SameOutsideTokens first second) (right : SameOutsideTokens second third) :
    SameOutsideTokens first third where
  owner address := (right.owner address).trans (left.owner address)
  length address := (right.length address).trans (left.length address)
  same address foreign := by
    rw [right.same address (by rwa [left.owner address]), left.same address foreign]

theorem SameOutsideTokens.writeToken {ledger : Ledger} {address : Address}
    {old : TokenAccount} (found : tokenAt ledger address = some old) (token : TokenAccount) :
    SameOutsideTokens ledger (writeToken ledger address token) where
  owner other := writeToken_owner ledger address other token
  length other := by
    by_cases same : other = address
    · subst same
      rw [Solana.writeToken, Function.update_self, (tokenAt_eq_some.mp found).2.1]
      rw [TokenAccount.layout.length_encode, TokenAccount.layout.length_encode]
    · rw [writeToken_apply_ne same]
  same other foreign :=
    writeToken_apply_ne (by rintro rfl; exact foreign (tokenAt_eq_some.mp found).1)

theorem TokenAccount.spend_valid {token spent : TokenAccount} {authority : Address}
    {amount : UInt64} (spends : token.spend authority amount = .ok spent) (valid : token.Valid) :
    spent.Valid := by
  rcases TokenAccount.spend_eq_ok.mp spends with ⟨-, -, -, rfl⟩ | ⟨-, -, rfl⟩
  · obtain ⟨state, tag, native, close⟩ := valid
    refine ⟨state, ?_, native, close⟩
    show (if _ then _ else _ : UInt32).toNat ≤ 1
    split
    · exact Nat.zero_le _
    · exact tag
  · exact valid

section Transfer

variable {context : Context} {ledger result : Ledger} {source destination authority : Address}
  {amount : UInt64}

theorem transfer_spec
    (moved : transfer context ledger source destination authority amount = .ok result) :
    TokenLedger.Pays (tokenAt ledger) ⟨source, destination, authority, amount⟩ (tokenAt result) ∧
      SameOutsideTokens ledger result := by
  obtain ⟨-, from_, into, spent, fromFound, intoFound, live, funds, mint, spends, moves⟩ :=
    transfer_eq_ok.mp moved
  rcases moves with ⟨self, rfl⟩ | ⟨different, credited, sum, rfl⟩
  · exact ⟨⟨from_, into, spent, fromFound, intoFound, live, funds, mint, spends, .inl ⟨self, rfl⟩⟩,
      .refl result⟩
  · obtain ⟨fromOwned, -, fromValid⟩ := tokenAt_eq_some.mp fromFound
    obtain ⟨intoOwned, -, intoValid⟩ := tokenAt_eq_some.mp intoFound
    have valid : spent.Valid := TokenAccount.spend_valid spends fromValid
    have spentValid : { spent with amount := from_.amount - amount }.Valid := valid
    have creditedValid : { into with amount := credited }.Valid := intoValid
    have stillOwned : (writeToken ledger source
        { spent with amount := from_.amount - amount } destination).owner = tokenProgram := by
      rw [writeToken_owner, intoOwned]
    have stillFound : tokenAt (writeToken ledger source
        { spent with amount := from_.amount - amount }) destination = some into := by
      rw [tokenAt_writeToken fromOwned spentValid, if_neg (Ne.symm different), intoFound]
    refine ⟨⟨from_, into, spent, fromFound, intoFound, live, funds, mint, spends,
      .inr ⟨different, credited, sum, ?_⟩⟩,
      (SameOutsideTokens.writeToken fromFound _).trans (.writeToken stillFound _)⟩
    funext address
    rw [tokenAt_writeToken stillOwned creditedValid, Function.update_apply,
      tokenAt_writeToken fromOwned spentValid, Function.update_apply]

theorem transfer_isOk {from_ into spent : TokenAccount}
    (sourceWritable : context.writable source = true)
    (destinationWritable : context.writable destination = true)
    (fromFound : tokenAt ledger source = some from_)
    (intoFound : tokenAt ledger destination = some into)
    (fromLive : from_.state ≠ 2) (intoLive : into.state ≠ 2)
    (funds : amount.toNat ≤ from_.amount.toNat) (mint : from_.mint = into.mint)
    (spends : from_.spend authority amount = .ok spent)
    (room : into.amount.toNat + amount.toNat < 2 ^ 64) :
    ∃ result, transfer context ledger source destination authority amount = .ok result := by
  by_cases self : source = destination
  · exact ⟨ledger, transfer_eq_ok.mpr ⟨⟨sourceWritable, destinationWritable⟩, from_, into, spent,
      fromFound, intoFound, ⟨fromLive, intoLive⟩, funds, mint, spends, .inl ⟨self, rfl⟩⟩⟩
  · obtain ⟨credited, sum⟩ := checkedAdd_isSome _ _ room
    exact ⟨_, transfer_eq_ok.mpr ⟨⟨sourceWritable, destinationWritable⟩, from_, into, spent,
      fromFound, intoFound, ⟨fromLive, intoLive⟩, funds, mint, spends,
      .inr ⟨self, credited, checkedAdd_eq_some.mp sum, rfl⟩⟩⟩

end Transfer

theorem initializeAccount3_spec {context : Context} {ledger result : Ledger}
    {address mint owner : Address}
    (opened : initializeAccount3 context ledger address mint owner = .ok result) :
    (ledger address).owner = tokenProgram ∧ tokenAt ledger address = none ∧
      ∃ token : TokenAccount, token.Exclusive owner ∧ token.amount = 0 ∧ token.mint = mint ∧
        result = writeToken ledger address token ∧
        tokenAt result = Function.update (tokenAt ledger) address (some token) := by
  simp only [initializeAccount3, bind_eq_ok, failIf_eq_ok, exists_const, not_or, ne_eq, not_not,
    Except.ok.injEq] at opened
  obtain ⟨-, ⟨owned, -⟩, unused, -, -, rfl⟩ := opened
  have absent : tokenAt ledger address = none := by
    refine if_neg fun live => ?_
    obtain ⟨-, -, state, -⟩ := live
    rw [unused] at state
    rcases state with state | state <;> cases state
  refine ⟨owned, absent, _, ⟨rfl, rfl, rfl⟩, rfl, rfl, rfl, ?_⟩
  funext other
  rw [tokenAt_writeToken owned ⟨.inl rfl, Nat.zero_le _, Nat.zero_le _, Nat.zero_le _⟩,
    Function.update_apply]

end PactNetwork.Solana
