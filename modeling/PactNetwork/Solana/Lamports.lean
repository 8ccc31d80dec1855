import PactNetwork.Solana.Token

/-!
# Lamports

Programs that read and write account data do not see lamports: under other
balances they do the same. Only the creation of an account looks at them.
-/

set_option autoImplicit false

namespace PactNetwork.Solana

def endow (lamports : Address → Nat) (ledger : Ledger) : Ledger := fun address =>
  { ledger address with lamports := lamports address }

section Endow

variable {α : Type} {layout : Layout α} {lamports : Address → Nat} {ledger : Ledger}
  {context : Context}

@[simp] theorem endow_data (address : Address) :
    (endow lamports ledger address).data = (ledger address).data := rfl

@[simp] theorem endow_owner (address : Address) :
    (endow lamports ledger address).owner = (ledger address).owner := rfl

@[simp] theorem endow_lamports (address : Address) :
    (endow lamports ledger address).lamports = lamports address := rfl

theorem endow_self : endow (fun address => (ledger address).lamports) ledger = ledger := rfl

theorem eq_endow {other : Ledger} (owner : ∀ address, (other address).owner = (ledger address).owner)
    (data : ∀ address, (other address).data = (ledger address).data) :
    other = endow (fun address => (other address).lamports) ledger := by
  funext address
  have owners := owner address
  have contents := data address
  cases there : other address
  cases here : ledger address
  simp only [endow, there, here] at owners contents ⊢
  rw [owners, contents]

@[simp] theorem structAt_endow (address : Address) :
    structAt layout (endow lamports ledger) address = structAt layout ledger address := rfl

@[simp] theorem borrow_endow (address : Address) :
    borrow layout (endow lamports ledger) address = borrow layout ledger address := rfl

@[simp] theorem tokenAt_endow (address : Address) :
    tokenAt (endow lamports ledger) address = tokenAt ledger address := rfl

theorem setData_endow (address : Address) (data : List UInt8) :
    setData (endow lamports ledger) address data = endow lamports (setData ledger address data) := by
  funext other
  by_cases same : other = address
  · subst same
    simp only [endow, setData_self]
  · simp only [endow, setData_of_ne _ _ _ same]

theorem writeToken_endow (address : Address) (token : TokenAccount) :
    writeToken (endow lamports ledger) address token =
      endow lamports (writeToken ledger address token) :=
  setData_endow address (TokenAccount.layout.encode token)

theorem store_endow (program : Address) (address : Address) (data : List UInt8) :
    store program context (endow lamports ledger) address data =
      (store program context ledger address data).map (endow lamports) := by
  unfold store
  rw [endow_data, endow_owner]
  split
  case isTrue => rfl
  case isFalse =>
    split
    case isTrue => rfl
    case isFalse =>
      split
      case isTrue => rfl
      case isFalse => exact congrArg Except.ok (setData_endow address data)

theorem save_endow (program : Address) (address : Address) (value : α) :
    save layout program context (endow lamports ledger) address value =
      (save layout program context ledger address value).map (endow lamports) :=
  store_endow program address _

theorem bind_map_congr {ε β γ : Type} {source : Except ε α} {left : α → Except ε γ}
    {right : α → Except ε β} {transform : β → γ}
    (same : ∀ value, left value = (right value).map transform) :
    source >>= left = (source >>= right).map transform := by
  cases source with
  | error error => rfl
  | ok value => exact same value

theorem map_bind_congr {ε β γ δ : Type} {source : Except ε α} {change : α → δ}
    {left : δ → Except ε γ} {right : α → Except ε β} {transform : β → γ}
    (same : ∀ value, left (change value) = (right value).map transform) :
    source.map change >>= left = (source >>= right).map transform := by
  cases source with
  | error error => rfl
  | ok value => exact same value

theorem transfer_endow (source destination authority : Address) (amount : UInt64) :
    transfer context (endow lamports ledger) source destination authority amount =
      (transfer context ledger source destination authority amount).map (endow lamports) := by
  unfold transfer
  refine bind_map_congr fun _ => bind_map_congr fun sourceAccount => ?_
  refine bind_map_congr fun destinationAccount => bind_map_congr fun _ => ?_
  refine bind_map_congr fun _ => bind_map_congr fun _ => bind_map_congr fun spent => ?_
  by_cases same : source = destination
  · rw [if_pos same, if_pos same]
    rfl
  · rw [if_neg same, if_neg same]
    refine bind_map_congr fun credited => congrArg Except.ok ?_
    rw [writeToken_endow, writeToken_endow]

/-! ## Transfers -/

def transferLamports (ledger : Ledger) (donor recipient : Address) (amount : Nat) : Ledger :=
  let paid := Function.update (fun address => (ledger address).lamports) donor
    ((ledger donor).lamports - amount)
  endow (Function.update paid recipient (paid recipient + amount)) ledger

theorem lamports_le_transfer {donor recipient address : Address} {amount : Nat}
    (other : address ≠ donor) : (ledger address).lamports ≤
      (transferLamports ledger donor recipient amount address).lamports := by
  rw [transferLamports, endow_lamports]
  by_cases received : address = recipient
  · subst received
    rw [Function.update_self, Function.update_of_ne other]
    exact Nat.le_add_right _ _
  · rw [Function.update_of_ne received, Function.update_of_ne other]

/-! ## Creating accounts -/

variable {result : Ledger} {funder address owner : Address} {rent space : Nat}

theorem createAccount_funded (made : createAccount context ledger funder address rent space owner =
      .ok result) (given : lamports address ≠ 0) :
    createAccount context (endow lamports ledger) funder address rent space owner =
      .error (.runtime .accountAlreadyInUse) := by
  obtain ⟨flags, -, -, -⟩ := createAccount_eq_ok.mp made
  obtain ⟨signs, pays, writes⟩ := flags
  rw [createAccount, failIf_of_not (by simp [signs, pays, writes]), ok_bind,
    failIf_of (.inl given), error_bind]

theorem createAccount_endow (made : createAccount context ledger funder address rent space owner =
      .ok result) (empty : lamports address = 0) (funds : (ledger funder).lamports ≤ lamports funder) :
    createAccount context (endow lamports ledger) funder address rent space owner =
      .ok (endow (Function.update (Function.update lamports funder (lamports funder - rent))
        address rent) result) := by
  obtain ⟨flags, absent, funded, rfl⟩ := createAccount_eq_ok.mp made
  refine createAccount_eq_ok.mpr ⟨flags, ?_, ⟨funded.1, funded.2.1, funded.2.2.trans funds⟩, ?_⟩
  · rw [endow, absent, empty]
    rfl
  · funext other
    by_cases same : other = address
    · subst same
      simp only [endow, Function.update_self]
    · by_cases pays : other = funder
      · subst pays
        simp only [endow, Function.update_of_ne same, Function.update_self]
      · simp only [endow, Function.update_of_ne same, Function.update_of_ne pays]

end Endow

end PactNetwork.Solana
