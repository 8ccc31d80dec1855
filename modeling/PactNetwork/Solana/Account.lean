import Mathlib.Logic.Function.Basic
import PactNetwork.Foundation.ByteLayout
import PactNetwork.Foundation.Checked

/-!
# Accounts and the runtime

What a Solana program sees of the runtime: a ledger of accounts, the flags and
sysvars of the running transaction, program-derived addresses, and the rules
under which account data may change. Nothing here names a particular program.
-/

set_option autoImplicit false

namespace PactNetwork.Solana

abbrev Address := Bytes 32

def systemProgram : Address := List.Vector.replicate 32 0

structure Account where
  lamports : Nat
  owner : Address
  data : List UInt8
  deriving DecidableEq

def Account.absent : Account := ⟨0, systemProgram, []⟩

/-- Every address names an account, existing or absent. Two entries of an
account list with the same address are the same account. -/
abbrev Ledger := Address → Account

/-- Failures that abort a transaction from outside the program's own checks. -/
inductive RuntimeFailure where
  | panic
  | readonlyDataModified
  | externalAccountDataModified
  | privilegeEscalation
  | accountAlreadyInUse
  | insufficientLamports
  | tokenInvalidAccount
  | tokenFrozen
  | tokenInsufficientFunds
  | tokenMintMismatch
  | tokenOwnerMismatch
  | tokenOverflow
  | tokenAlreadyInUse
  | tokenInvalidMint
  | tokenNotRentExempt
  deriving DecidableEq, Repr

inductive ProgramError where
  | custom (code : Nat)
  | invalidInstructionData
  | invalidAccountData
  | incorrectProgramId
  | missingRequiredSignature
  | accountAlreadyInitialized
  | notEnoughAccountKeys
  | invalidSeeds
  | runtime (failure : RuntimeFailure)
  deriving DecidableEq, Repr

/-- What the runtime hands to an instruction besides its accounts and data. The
signer and writable flags of an account are those of the whole message. -/
structure Context where
  signer : Address → Bool
  writable : Address → Bool
  /-- `Clock::unix_timestamp`. -/
  now : Int64
  /-- `Rent::try_minimum_balance`. -/
  minimumBalance : Nat → Nat

abbrev Seeds := List (List UInt8)

structure AddressDerivation where
  /-- `create_program_address`. -/
  create : Seeds → Option Address
  /-- `find_program_address`. -/
  find : Seeds → Address × UInt8
  create_find : ∀ seeds, create (seeds ++ [[(find seeds).2]]) = some (find seeds).1

def ascii (text : String) : List UInt8 := text.toList.map fun letter => UInt8.ofNat letter.toNat

/-- The addresses a program derives, one for each key. No two of its keys share
an address unless their seeds concatenate to the same bytes, which is all that
is hashed. -/
structure ProgramAddresses {κ : Type} (seeds : κ → Seeds) where
  derivation : AddressDerivation
  collisionFree : ∀ left right,
    (derivation.find (seeds left)).1 = (derivation.find (seeds right)).1 →
      (seeds left).flatten = (seeds right).flatten

namespace ProgramAddresses

variable {κ : Type} {seeds : κ → Seeds} (addresses : ProgramAddresses seeds)

def of (key : κ) : Address := (addresses.derivation.find (seeds key)).1

def bump (key : κ) : UInt8 := (addresses.derivation.find (seeds key)).2

def signed (key : κ) (bump : UInt8) : Option Address :=
  addresses.derivation.create (seeds key ++ [[bump]])

@[simp] theorem signed_bump (key : κ) :
    addresses.signed key (addresses.bump key) = some (addresses.of key) :=
  addresses.derivation.create_find (seeds key)

end ProgramAddresses

/-! ## A derivation to evaluate with -/

def packSeeds (seeds : Seeds) : Address :=
  ⟨(UInt8.ofNat seeds.flatten.length :: seeds.flatten ++ List.replicate 32 0).take 32, by simp⟩

theorem flatten_eq_of_packSeeds_eq {left right : Seeds} (leftShort : left.flatten.length ≤ 31)
    (rightShort : right.flatten.length ≤ 31) (same : packSeeds left = packSeeds right) :
    left.flatten = right.flatten := by
  have padded : ∀ seeds : Seeds, seeds.flatten.length ≤ 31 → ∃ zeros,
      (packSeeds seeds).toList = UInt8.ofNat seeds.flatten.length :: (seeds.flatten ++ zeros) := by
    intro seeds short
    refine ⟨(List.replicate 32 0).take (31 - seeds.flatten.length), ?_⟩
    show List.take 32 _ = _
    rw [List.cons_append, List.take_succ_cons, List.take_append,
      List.take_of_length_le short]
  obtain ⟨leftZeros, leftBytes⟩ := padded left leftShort
  obtain ⟨rightZeros, rightBytes⟩ := padded right rightShort
  have bytes := congrArg List.Vector.toList same
  rw [leftBytes, rightBytes, List.cons.injEq] at bytes
  obtain ⟨count, contents⟩ := bytes
  have length : left.flatten.length % 2 ^ 8 = right.flatten.length % 2 ^ 8 := by
    rw [← UInt8.toNat_ofNat', ← UInt8.toNat_ofNat', count]
  exact (List.append_inj contents (by omega)).1

def AddressDerivation.packed : AddressDerivation where
  create seeds := if seeds.getLast? = some [255] then some (packSeeds seeds.dropLast) else none
  find seeds := (packSeeds seeds, 255)
  create_find seeds := by simp

def ProgramAddresses.packed {κ : Type} (seeds : κ → Seeds)
    (short : ∀ key, (seeds key).flatten.length ≤ 31) : ProgramAddresses seeds where
  derivation := .packed
  collisionFree _ _ same := flatten_eq_of_packSeeds_eq (short _) (short _) same

/-! ## Changing data -/

def setData (ledger : Ledger) (address : Address) (data : List UInt8) : Ledger :=
  Function.update ledger address { ledger address with data := data }

/-- Store new data in an account on behalf of `program`. The runtime compares
the account before and after: a change needs write access and ownership. -/
def store (program : Address) (context : Context) (ledger : Ledger) (address : Address)
    (data : List UInt8) : Except ProgramError Ledger :=
  if data = (ledger address).data then .ok ledger
  else if context.writable address = false then .error (.runtime .readonlyDataModified)
  else if (ledger address).owner ≠ program then
    .error (.runtime .externalAccountDataModified)
  else .ok (setData ledger address data)

section SetData

variable (ledger : Ledger) (address : Address) (data : List UInt8)

@[simp] theorem setData_self :
    setData ledger address data address = { ledger address with data := data } :=
  Function.update_self _ _ _

@[simp] theorem setData_of_ne {other : Address} (different : other ≠ address) :
    setData ledger address data other = ledger other := Function.update_of_ne different _ _

@[simp] theorem setData_owner (other : Address) :
    (setData ledger address data other).owner = (ledger other).owner := by
  by_cases same : other = address
  · subst same
    rw [setData_self]
  · rw [setData_of_ne _ _ _ same]

end SetData

theorem store_eq_ok {program : Address} {context : Context} {ledger result : Ledger}
    {address : Address} {data : List UInt8}
    (stored : store program context ledger address data = .ok result) :
    result = setData ledger address data ∧
      (data ≠ (ledger address).data → (ledger address).owner = program) := by
  unfold store at stored
  split at stored
  case isTrue same =>
    cases stored
    refine ⟨?_, fun different => (different same).elim⟩
    rw [setData, same, Function.update_eq_self]
  case isFalse different =>
    split at stored
    · cases stored
    · split at stored
      · cases stored
      case isFalse owned =>
        cases stored
        exact ⟨rfl, fun _ => by simpa using owned⟩

theorem store_isOk {program : Address} {context : Context} {ledger : Ledger} {address : Address}
    (data : List UInt8) (writable : context.writable address = true)
    (owned : (ledger address).owner = program) :
    store program context ledger address data = .ok (setData ledger address data) := by
  unfold store
  split
  case isTrue same => rw [setData, same, Function.update_eq_self]
  case isFalse => rw [if_neg (by simp [writable]), if_neg (by simp [owned])]

/-! ## Structs in accounts -/

section Structs

variable {α : Type} (layout : Layout α)

def structAt (ledger : Ledger) (address : Address) : Option α :=
  layout.read (ledger address).data

def borrow (ledger : Ledger) (address : Address) : Except ProgramError α :=
  okOr (structAt layout ledger address) (.runtime .panic)

def setStruct (ledger : Ledger) (address : Address) (value : α) : Ledger :=
  setData ledger address (layout.write value (ledger address).data)

def save (program : Address) (context : Context) (ledger : Ledger) (address : Address)
    (value : α) : Except ProgramError Ledger :=
  store program context ledger address (layout.write value (ledger address).data)

variable {layout} {ledger result : Ledger} {address other program : Address}
  {context : Context} {value old : α}

@[simp] theorem structAt_setStruct_self :
    structAt layout (setStruct layout ledger address value) address = some value := by
  rw [structAt, setStruct, setData_self, Layout.read_write]

@[simp] theorem setStruct_of_ne (different : other ≠ address) :
    setStruct layout ledger address value other = ledger other := setData_of_ne _ _ _ different

@[simp] theorem setStruct_owner :
    (setStruct layout ledger address value other).owner = (ledger other).owner :=
  setData_owner _ _ _ _

@[simp] theorem setStruct_lamports :
    (setStruct layout ledger address value other).lamports = (ledger other).lamports := by
  by_cases same : other = address
  · subst same
    rw [setStruct, setData_self]
  · rw [setStruct_of_ne same]

theorem structAt_congr {left right : Ledger} (same : left address = right address) :
    structAt layout left address = structAt layout right address := by
  rw [structAt, structAt, same]

theorem setStruct_length (found : structAt layout ledger address = some old) :
    (setStruct layout ledger address value other).data.length = (ledger other).data.length := by
  by_cases same : other = address
  · subst same
    rw [setStruct, setData_self]
    exact layout.length_write _ _ (Layout.size_le_of_read found)
  · rw [setStruct_of_ne same]

theorem setStruct_self (found : structAt layout ledger address = some old) :
    setStruct layout ledger address old = ledger := by
  rw [setStruct, Layout.write_of_read found, setData, Function.update_eq_self]

theorem save_eq_ok (found : structAt layout ledger address = some old)
    (saved : save layout program context ledger address value = .ok result) :
    result = setStruct layout ledger address value ∧
      (value ≠ old → (ledger address).owner = program) := by
  obtain ⟨same, owned⟩ := store_eq_ok saved
  refine ⟨same, fun changed => owned fun unchanged => changed ?_⟩
  have written := layout.read_write value (ledger address).data
  rw [unchanged] at written
  exact Option.some.inj (written.symm.trans found)

theorem save_isOk (writable : context.writable address = true)
    (owned : (ledger address).owner = program) :
    save layout program context ledger address value =
      .ok (setStruct layout ledger address value) := store_isOk _ writable owned

end Structs

/-! ## Creating accounts -/

/-- `SystemInstruction::CreateAccount` for a program-derived address whose
signature the runtime has already granted. -/
def createAccount (context : Context) (ledger : Ledger) (funder address : Address)
    (lamports space : Nat) (owner : Address) : Except ProgramError Ledger := do
  failIf (context.signer funder = false ∨ context.writable funder = false ∨
    context.writable address = false) (.runtime .privilegeEscalation)
  failIf ((ledger address).lamports ≠ 0 ∨ (ledger address).data ≠ [] ∨
    (ledger address).owner ≠ systemProgram) (.runtime .accountAlreadyInUse)
  failIf ((ledger funder).owner ≠ systemProgram ∨ (ledger funder).data ≠ [] ∨
    (ledger funder).lamports < lamports) (.runtime .insufficientLamports)
  let paid := Function.update ledger funder
    { ledger funder with lamports := (ledger funder).lamports - lamports }
  .ok (Function.update paid address ⟨lamports, owner, List.replicate space 0⟩)

theorem createAccount_eq_ok {context : Context} {ledger result : Ledger}
    {funder address owner : Address} {lamports space : Nat} :
    createAccount context ledger funder address lamports space owner = .ok result ↔
      (context.signer funder = true ∧ context.writable funder = true ∧
        context.writable address = true) ∧
      ledger address = Account.absent ∧
      ((ledger funder).owner = systemProgram ∧ (ledger funder).data = [] ∧
        lamports ≤ (ledger funder).lamports) ∧
      result = Function.update (Function.update ledger funder
        { ledger funder with lamports := (ledger funder).lamports - lamports })
        address ⟨lamports, owner, List.replicate space 0⟩ := by
  have absent : (¬((ledger address).lamports ≠ 0 ∨ (ledger address).data ≠ [] ∨
      (ledger address).owner ≠ systemProgram)) ↔ ledger address = Account.absent := by
    cases ledger address
    simp only [Account.absent, Account.mk.injEq]
    tauto
  simp only [createAccount, bind_eq_ok, failIf_eq_ok, Except.ok.injEq, exists_const, absent]
  constructor
  · rintro ⟨flags, fresh, funded, rfl⟩
    refine ⟨?_, fresh, ?_, rfl⟩
    · simpa using flags
    · simpa [not_or, Nat.not_lt] using funded
  · rintro ⟨flags, fresh, funded, rfl⟩
    refine ⟨?_, fresh, ?_, rfl⟩
    · simp [flags]
    · simp [funded]

end PactNetwork.Solana
