import PactNetwork.Solana.Account

/-!
# SPL Token accounts

The 165-byte token account and the two Token Program instructions the programs
invoke. Wrapped SOL is left out: a USDC mint has no native accounts.
-/

set_option autoImplicit false

namespace PactNetwork.Solana

/-- `TokenkegQfeZyiNwAJbNbGKPFXCWuBvf9Ss623VQ5DA`. -/
def tokenProgram : Address :=
  ⟨[6, 221, 246, 225, 215, 101, 161, 147, 217, 203, 225, 70, 206, 235, 121, 172,
    28, 180, 133, 237, 95, 91, 55, 145, 58, 140, 245, 133, 126, 255, 0, 169], rfl⟩

/-- `spl_token::state::Account`. The optional fields keep their tag words. -/
structure TokenAccount where
  mint : Address
  owner : Address
  amount : UInt64
  delegateTag : UInt32
  delegate : Address
  /-- 0 uninitialized, 1 initialized, 2 frozen. -/
  state : UInt8
  isNativeTag : UInt32
  isNative : UInt64
  delegatedAmount : UInt64
  closeAuthorityTag : UInt32
  closeAuthority : Address
  deriving DecidableEq

namespace TokenAccount

/-- Offsets 0, 32, 64, 72, 76, 108, 109, 113, 121, 129 and 133. -/
def layout : Layout TokenAccount :=
  ((Layout.bytes 32).pair <| (Layout.bytes 32).pair <| Layout.u64.pair <| Layout.u32.pair <|
    (Layout.bytes 32).pair <| Layout.u8.pair <| Layout.u32.pair <| Layout.u64.pair <|
    Layout.u64.pair <| Layout.u32.pair <| Layout.bytes 32).map
  { toFun := fun (mint, owner, amount, delegateTag, delegate, state, isNativeTag, isNative,
      delegatedAmount, closeAuthorityTag, closeAuthority) =>
      ⟨mint, owner, amount, delegateTag, delegate, state, isNativeTag, isNative,
        delegatedAmount, closeAuthorityTag, closeAuthority⟩
    invFun := fun token =>
      (token.mint, token.owner, token.amount, token.delegateTag, token.delegate, token.state,
        token.isNativeTag, token.isNative, token.delegatedAmount, token.closeAuthorityTag,
        token.closeAuthority)
    left_inv := fun _ => rfl
    right_inv := fun _ => rfl }

theorem layout_size : layout.size = 165 := rfl

/-- What `Account::unpack` accepts: an initialized state and proper tag words. -/
def Valid (token : TokenAccount) : Prop :=
  (token.state = 1 ∨ token.state = 2) ∧ token.delegateTag.toNat ≤ 1 ∧
    token.isNativeTag.toNat ≤ 1 ∧ token.closeAuthorityTag.toNat ≤ 1

instance (token : TokenAccount) : Decidable token.Valid :=
  inferInstanceAs (Decidable (_ ∧ _ ∧ _ ∧ _))

/-- The account after `authority`, which has signed, spends `amount` of it: a
delegate uses up its allowance and is cleared at zero, the owner needs none. -/
def spend (token : TokenAccount) (authority : Address) (amount : UInt64) :
    Except ProgramError TokenAccount :=
  if token.delegateTag = 1 ∧ token.delegate = authority then do
    failIf (token.delegatedAmount < amount) (.runtime .tokenInsufficientFunds)
    let left := token.delegatedAmount - amount
    .ok { token with
      delegatedAmount := left
      delegateTag := if left = 0 then 0 else token.delegateTag }
  else do
    failIf (token.owner ≠ authority) (.runtime .tokenOwnerMismatch)
    .ok token

end TokenAccount

def tokenAt (ledger : Ledger) (address : Address) : Option TokenAccount :=
  if (ledger address).owner = tokenProgram ∧
      (ledger address).data.length = TokenAccount.layout.size ∧
      (TokenAccount.layout.decode (ledger address).data).Valid then
    some (TokenAccount.layout.decode (ledger address).data)
  else none

def writeToken (ledger : Ledger) (address : Address) (token : TokenAccount) : Ledger :=
  Function.update ledger address
    { ledger address with data := TokenAccount.layout.encode token }

/-- `TokenInstruction::Transfer`, invoked with a signed authority. -/
def transfer (context : Context) (ledger : Ledger) (source destination authority : Address)
    (amount : UInt64) : Except ProgramError Ledger := do
  failIf (context.writable source = false ∨ context.writable destination = false)
    (.runtime .privilegeEscalation)
  let sourceAccount ← okOr (tokenAt ledger source) (.runtime .tokenInvalidAccount)
  let destinationAccount ← okOr (tokenAt ledger destination) (.runtime .tokenInvalidAccount)
  failIf (sourceAccount.state = 2 ∨ destinationAccount.state = 2) (.runtime .tokenFrozen)
  failIf (sourceAccount.amount < amount) (.runtime .tokenInsufficientFunds)
  failIf (sourceAccount.mint ≠ destinationAccount.mint) (.runtime .tokenMintMismatch)
  let spent ← sourceAccount.spend authority amount
  if source = destination then
    .ok ledger
  else do
    let credited ← okOr (checkedAdd destinationAccount.amount amount) (.runtime .tokenOverflow)
    .ok (writeToken
      (writeToken ledger source { spent with amount := sourceAccount.amount - amount })
      destination { destinationAccount with amount := credited })

/-- A mint as `InitializeAccount3` requires it: 82 bytes with the initialized
flag set. -/
def isMint (account : Account) : Bool :=
  account.data.length == 82 && account.data[45]? == some 1

def initializeAccount3 (context : Context) (ledger : Ledger) (address mint owner : Address) :
    Except ProgramError Ledger := do
  failIf (context.writable address = false) (.runtime .privilegeEscalation)
  failIf ((ledger address).owner ≠ tokenProgram ∨
    (ledger address).data.length ≠ TokenAccount.layout.size) (.runtime .tokenInvalidAccount)
  failIf ((TokenAccount.layout.decode (ledger address).data).state ≠ 0)
    (.runtime .tokenAlreadyInUse)
  failIf ((ledger address).lamports < context.minimumBalance TokenAccount.layout.size)
    (.runtime .tokenNotRentExempt)
  failIf (isMint (ledger mint) = false) (.runtime .tokenInvalidMint)
  let old := TokenAccount.layout.decode (ledger address).data
  .ok (writeToken ledger address
    { old with mint, owner, amount := 0, delegateTag := 0, state := 1, isNativeTag := 0,
               delegatedAmount := 0, closeAuthorityTag := 0 })

/-! ## Reading tokens -/

theorem tokenAt_eq_some {ledger : Ledger} {address : Address} {token : TokenAccount} :
    tokenAt ledger address = some token ↔
      (ledger address).owner = tokenProgram ∧
        (ledger address).data = TokenAccount.layout.encode token ∧ token.Valid := by
  unfold tokenAt
  constructor
  · intro found
    split at found
    case isTrue live =>
      obtain ⟨owned, sized, valid⟩ := live
      cases found
      exact ⟨owned, (TokenAccount.layout.encode_decode _ sized).symm, valid⟩
    case isFalse => cases found
  · rintro ⟨owned, data, valid⟩
    rw [data, TokenAccount.layout.decode_encode, TokenAccount.layout.length_encode]
    exact if_pos ⟨owned, rfl, valid⟩

theorem tokenAt_congr {left right : Ledger} {address : Address}
    (same : left address = right address) : tokenAt left address = tokenAt right address := by
  simp only [tokenAt, same]

theorem tokenAt_eq_none_of_owner {ledger : Ledger} {address : Address}
    (foreign : (ledger address).owner ≠ tokenProgram) : tokenAt ledger address = none :=
  if_neg fun live => foreign live.1

@[simp] theorem writeToken_apply_ne {ledger : Ledger} {address other : Address}
    {token : TokenAccount} (different : other ≠ address) :
    writeToken ledger address token other = ledger other :=
  Function.update_of_ne different _ _

@[simp] theorem writeToken_owner (ledger : Ledger) (address other : Address)
    (token : TokenAccount) :
    (writeToken ledger address token other).owner = (ledger other).owner := by
  by_cases same : other = address
  · subst same
    rw [writeToken, Function.update_self]
  · rw [writeToken_apply_ne same]

@[simp] theorem writeToken_lamports (ledger : Ledger) (address other : Address)
    (token : TokenAccount) :
    (writeToken ledger address token other).lamports = (ledger other).lamports := by
  by_cases same : other = address
  · subst same
    rw [writeToken, Function.update_self]
  · rw [writeToken_apply_ne same]

theorem tokenAt_writeToken {ledger : Ledger} {address other : Address} {token : TokenAccount}
    (owned : (ledger address).owner = tokenProgram) (valid : token.Valid) :
    tokenAt (writeToken ledger address token) other =
      if other = address then some token else tokenAt ledger other := by
  split
  case isTrue same =>
    subst same
    rw [tokenAt_eq_some, writeToken_owner]
    exact ⟨owned, by rw [writeToken, Function.update_self], valid⟩
  case isFalse different =>
    exact tokenAt_congr (writeToken_apply_ne different)

/-! ## Transfers -/

theorem TokenAccount.spend_eq_ok {token spent : TokenAccount} {authority : Address}
    {amount : UInt64} :
    token.spend authority amount = .ok spent ↔
      (token.delegateTag = 1 ∧ token.delegate = authority ∧
        amount.toNat ≤ token.delegatedAmount.toNat ∧
        spent = { token with
          delegatedAmount := token.delegatedAmount - amount
          delegateTag := if token.delegatedAmount - amount = 0 then 0 else token.delegateTag }) ∨
      (¬ (token.delegateTag = 1 ∧ token.delegate = authority) ∧ token.owner = authority ∧
        spent = token) := by
  unfold TokenAccount.spend
  split
  case isTrue delegated =>
    simp only [bind_eq_ok, failIf_eq_ok, Except.ok.injEq, exists_const, UInt64.lt_iff_toNat_lt,
      Nat.not_lt, delegated, true_and, and_self, not_true_eq_false, false_and, or_false]
    exact and_congr_right fun _ => eq_comm
  case isFalse direct =>
    simp only [bind_eq_ok, failIf_eq_ok, Except.ok.injEq, exists_const, ne_eq, not_not, direct,
      not_false_eq_true, true_and]
    constructor
    · rintro ⟨owner, rfl⟩
      exact .inr ⟨owner, rfl⟩
    · rintro (⟨tag, delegate, -⟩ | ⟨owner, rfl⟩)
      · exact (direct ⟨tag, delegate⟩).elim
      · exact ⟨owner, rfl⟩

theorem transfer_eq_ok {context : Context} {ledger result : Ledger}
    {source destination authority : Address} {amount : UInt64} :
    transfer context ledger source destination authority amount = .ok result ↔
      (context.writable source = true ∧ context.writable destination = true) ∧
      ∃ from_ into spent, tokenAt ledger source = some from_ ∧
        tokenAt ledger destination = some into ∧
        (from_.state ≠ 2 ∧ into.state ≠ 2) ∧ amount.toNat ≤ from_.amount.toNat ∧
        from_.mint = into.mint ∧ from_.spend authority amount = .ok spent ∧
        ((source = destination ∧ result = ledger) ∨
          (source ≠ destination ∧ ∃ credited : UInt64,
            credited.toNat = into.amount.toNat + amount.toNat ∧
            result = writeToken
              (writeToken ledger source { spent with amount := from_.amount - amount })
              destination { into with amount := credited })) := by
  by_cases self : source = destination
  · subst self
    simp only [transfer, bind_eq_ok, failIf_eq_ok, okOr_eq_ok, exists_const, ↓reduceIte,
      Except.ok.injEq, UInt64.lt_iff_toNat_lt, Nat.not_lt, not_or, ne_eq, not_not,
      Bool.not_eq_false, true_and, not_true_eq_false, false_and, or_false, exists_and_left]
    constructor
    · rintro ⟨flags, from_, found, into, again, live, funds, mint, spent, spends, same⟩
      exact ⟨flags, from_, found, into, again, live, funds, mint, spent, spends, same.symm⟩
    · rintro ⟨flags, from_, found, into, again, live, funds, mint, spent, spends, same⟩
      exact ⟨flags, from_, found, into, again, live, funds, mint, spent, spends, same.symm⟩
  · simp only [transfer, bind_eq_ok, failIf_eq_ok, okOr_eq_ok, exists_const, self, ↓reduceIte,
      Except.ok.injEq, UInt64.lt_iff_toNat_lt, Nat.not_lt, not_or, ne_eq, not_not,
      Bool.not_eq_false, false_and, not_false_eq_true, true_and, false_or, exists_and_left,
      checkedAdd_eq_some]
    constructor
    · rintro ⟨flags, from_, found, into, reached, live, funds, mint, spent, spends, credited,
        total, same⟩
      exact ⟨flags, from_, found, into, reached, live, funds, mint, spent, spends, credited,
        total, same.symm⟩
    · rintro ⟨flags, from_, found, into, reached, live, funds, mint, spent, spends, credited,
        total, same⟩
      exact ⟨flags, from_, found, into, reached, live, funds, mint, spent, spends, credited,
        total, same.symm⟩

end PactNetwork.Solana
