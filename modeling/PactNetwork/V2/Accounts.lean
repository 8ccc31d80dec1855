import PactNetwork.Solana.TokenLedger
import PactNetwork.V2.Pda

/-!
# Account access in the V2 program

How handlers read and write the structs and token accounts they are passed,
and the program's structs as a view of the ledger.
-/

set_option autoImplicit false

namespace PactNetwork.V2

open Solana

def load (α : Type) [Pod α] (ledger : Ledger) (account : Address) : Except ProgramError α :=
  tryFromBytes α (ledger account).data

def write {α : Type} [Pod α] (context : Context) (ledger : Ledger) (account : Address)
    (value : α) : Except ProgramError Ledger :=
  save Pod.layout programId context ledger account value

/-- The fields of a token account, as `token_account` reads them one by one. -/
def readToken (ledger : Ledger) (account : Address) : Except ProgramError TokenAccount := do
  failIf ((ledger account).data.length < TokenAccount.layout.size) .invalidAccountData
  .ok (TokenAccount.layout.decode ((ledger account).data.take TokenAccount.layout.size))

def readDelegate (token : TokenAccount) : Except ProgramError (Option Address) :=
  if token.delegateTag = 0 then .ok none
  else if token.delegateTag = 1 then .ok (some token.delegate)
  else .error .invalidAccountData

/-- The first 64 bytes of a token account, which `deposit` and `withdraw` read
themselves. -/
def readMintOwner (ledger : Ledger) (account : Address) :
    Except ProgramError (Address × Address) := do
  failIf ((ledger account).data.length < 64) ↑PactError.tokenAccountMismatch
  .ok (((Layout.bytes 32).pair (Layout.bytes 32)).decode ((ledger account).data.take 64))

/-- `transfer_pool_signed`: the seeds must derive the pool passed. -/
def transferPoolSigned (crypto : Crypto) (context : Context) (ledger : Ledger)
    (source destination account : Address) (amount : UInt64) (pool : CoveragePool) :
    Except ProgramError Ledger := do
  failIf (crypto.create [ascii "pool", pool.hostnameBytes, [pool.bump]] ≠ some account ∧
    context.signer account = false) (.runtime .privilegeEscalation)
  transfer context ledger source destination account amount

/-- `transfer_user_signed`: the authority has signed the transaction. -/
def transferUserSigned (context : Context) (ledger : Ledger)
    (source destination authority : Address) (amount : UInt64) : Except ProgramError Ledger := do
  failIf (context.signer authority = false) (.runtime .privilegeEscalation)
  transfer context ledger source destination authority amount

/-! ## What the Token Program would read -/

section Tokens

variable {ledger : Ledger} {account : Address} {token : TokenAccount}

theorem readToken_of_tokenAt {found : TokenAccount} (read : readToken ledger account = .ok found)
    (live : tokenAt ledger account = some token) : found = token := by
  simp only [readToken, bind_eq_ok, failIf_eq_ok, exists_const, Except.ok.injEq] at read
  obtain ⟨-, rfl⟩ := read
  rw [(tokenAt_eq_some.mp live).2.1, List.take_of_length_le (by simp), Layout.decode_encode]

theorem readMintOwner_of_tokenAt {mint owner : Address}
    (read : readMintOwner ledger account = .ok (mint, owner))
    (live : tokenAt ledger account = some token) : mint = token.mint ∧ owner = token.owner := by
  simp only [readMintOwner, bind_eq_ok, failIf_eq_ok, exists_const, Except.ok.injEq] at read
  obtain ⟨-, fields⟩ := read
  have front : (TokenAccount.layout.encode token).take 64 =
      ((Layout.bytes 32).pair (Layout.bytes 32)).encode (token.mint, token.owner) := by
    obtain ⟨rest, split⟩ : ∃ rest, TokenAccount.layout.encode token =
        ((Layout.bytes 32).pair (Layout.bytes 32)).encode (token.mint, token.owner) ++ rest :=
      ⟨_, (List.append_assoc token.mint.toList token.owner.toList _).symm⟩
    rw [split]
    exact List.take_left' (Layout.length_encode _ _)
  rw [(tokenAt_eq_some.mp live).2.1, front, Layout.decode_encode] at fields
  exact ⟨(congrArg Prod.fst fields).symm, (congrArg Prod.snd fields).symm⟩

end Tokens

/-! ## The program's structs -/

section Records

variable {α β : Type} [Pod α] [Pod β] {context : Context} {ledger result : Ledger}
  {account other : Address} {value old : α}

def recordAt (α : Type) [Pod α] (ledger : Ledger) (account : Address) : Option α :=
  if (ledger account).owner = programId then (load α ledger account).toOption else none

theorem load_eq_ok :
    load α ledger account = .ok value ↔ (ledger account).data = Pod.layout.encode value ∧
      Pod.tag value = Pod.discriminator α := tryFromBytes_eq_ok

theorem recordAt_eq_some :
    recordAt α ledger account = some value ↔
      (ledger account).owner = programId ∧ load α ledger account = .ok value := by
  unfold recordAt
  split
  case isTrue owned =>
    cases loaded : load α ledger account <;> simp [Except.toOption, owned]
  case isFalse foreign => simp [foreign]

theorem recordAt_congr {left right : Ledger} (same : left account = right account) :
    recordAt α left account = recordAt α right account := by
  simp only [recordAt, load, same]

theorem recordAt_eq_none_of_head (different :
    (ledger account).data.head? ≠ some (Pod.discriminator α)) :
    recordAt α ledger account = none := by
  cases found : recordAt α ledger account with
  | none => rfl
  | some value =>
      obtain ⟨data, tagged⟩ := load_eq_ok.mp (recordAt_eq_some.mp found).2
      refine (different ?_).elim
      rw [data, Pod.head_encode, tagged]

theorem recordAt_eq_none_of_load (loaded : load α ledger account = .ok old)
    (different : Pod.discriminator α ≠ Pod.discriminator β) :
    recordAt β ledger account = none := by
  obtain ⟨data, tagged⟩ := load_eq_ok.mp loaded
  apply recordAt_eq_none_of_head
  rw [data, Pod.head_encode, tagged]
  exact fun same => different (Option.some.inj same)

theorem write_of_layout (sized : (ledger account).data.length = (Pod.layout (α := α)).size)
    (written : write context ledger account value = .ok result) :
    result = Function.update ledger account
        { ledger account with data := Pod.layout.encode value } ∧
      (Pod.layout.encode value ≠ (ledger account).data → (ledger account).owner = programId) := by
  have whole : Pod.layout.write value (ledger account).data = Pod.layout.encode value := by
    rw [Layout.write, ← sized, List.drop_length, List.append_nil]
  obtain ⟨same, owned⟩ := store_eq_ok written
  rw [whole] at same owned
  exact ⟨same, owned⟩

theorem recordAt_write (owned : (ledger account).owner = programId)
    (sized : (ledger account).data.length = (Pod.layout (α := α)).size)
    (tagged : Pod.tag value = Pod.discriminator α)
    (written : write context ledger account value = .ok result) :
    recordAt α result = Function.update (recordAt α ledger) account (some value) := by
  obtain ⟨rfl, -⟩ := write_of_layout sized written
  funext other
  by_cases same : other = account
  · subst same
    rw [Function.update_self, recordAt_eq_some, load_eq_ok]
    simp [owned, tagged]
  · rw [Function.update_of_ne same]
    exact recordAt_congr (Function.update_of_ne same _ _)

theorem recordAt_write_of_ne
    (sized : (ledger account).data.length = (Pod.layout (α := α)).size)
    (tagged : Pod.tag value = Pod.discriminator α)
    (different : Pod.discriminator α ≠ Pod.discriminator β)
    (before : recordAt β ledger account = none)
    (written : write context ledger account value = .ok result) :
    recordAt β result = recordAt β ledger := by
  obtain ⟨rfl, -⟩ := write_of_layout sized written
  funext other
  by_cases same : other = account
  · subst same
    rw [before]
    apply recordAt_eq_none_of_head
    rw [Function.update_self, Pod.head_encode, tagged]
    exact fun equal => different (Option.some.inj equal)
  · exact recordAt_congr (Function.update_of_ne same _ _)

theorem tokenAt_write (owned : (ledger account).owner = programId)
    (sized : (ledger account).data.length = (Pod.layout (α := α)).size)
    (written : write context ledger account value = .ok result) :
    tokenAt result = tokenAt ledger := by
  obtain ⟨rfl, -⟩ := write_of_layout sized written
  funext other
  by_cases same : other = account
  · subst same
    have foreign : programId ≠ tokenProgram := by decide
    rw [tokenAt_eq_none_of_owner, tokenAt_eq_none_of_owner]
    · rw [owned]
      exact foreign
    · rw [Function.update_self]
      show (ledger other).owner ≠ tokenProgram
      rw [owned]
      exact foreign
  · exact tokenAt_congr (Function.update_of_ne same _ _)

end Records

end PactNetwork.V2
