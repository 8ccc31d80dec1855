import PactNetwork.V2.State

/-!
# Addresses and accounts of the V2 program

Derived addresses, the signatures they give, and how handlers read and write
the structs in their accounts.
-/

set_option autoImplicit false

namespace PactNetwork.V2

open Solana

inductive Pda where
  | protocol
  | pool (hostname : List UInt8)
  | vault (pool : Address)
  | position (pool underwriter : Address)
  | policy (pool agent : Address)
  | claim (policy : Address) (callIdHash : Bytes 32)
  deriving DecidableEq

def Pda.seeds : Pda → Seeds
  | .protocol => [ascii "protocol"]
  | .pool hostname => [ascii "pool", hostname]
  | .vault owner => [ascii "vault", owner.toList]
  | .position owner underwriter => [ascii "position", owner.toList, underwriter.toList]
  | .policy owner agent => [ascii "policy", owner.toList, agent.toList]
  | .claim owner callIdHash => [ascii "claim", owner.toList, callIdHash.toList]

/-- The cryptography the program relies on. `find_program_address` is partial:
it panics when no bump works, and collisions are left out by having it defined
only on seeds that do not collide, of which only the concatenation is hashed. -/
structure Crypto where
  sha256 : List UInt8 → Bytes 32
  /-- `create_program_address`. -/
  create : Seeds → Option Address
  /-- `find_program_address`. -/
  find : Seeds → Option (Address × UInt8)
  create_find : ∀ seeds address bump, find seeds = some (address, bump) →
    create (seeds ++ [[bump]]) = some address
  collisionFree : ∀ left right address leftBump rightBump, find left = some (address, leftBump) →
    find right = some (address, rightBump) → left.flatten = right.flatten

namespace Crypto

variable (crypto : Crypto)

def derive (pda : Pda) : Except ProgramError (Address × UInt8) := do
  failIf (∃ seed ∈ pda.seeds, 32 < seed.length) (.runtime .panic)
  okOr (crypto.find pda.seeds) (.runtime .panic)

def Derives (pda : Pda) (address : Address) : Prop :=
  ∃ bump, crypto.derive pda = .ok (address, bump)

def Derived (address : Address) : Prop := ∃ pda, crypto.Derives pda address

variable {crypto}

theorem derive_eq_ok {pda : Pda} {address : Address} {bump : UInt8} :
    crypto.derive pda = .ok (address, bump) ↔
      (∀ seed ∈ pda.seeds, seed.length ≤ 32) ∧ crypto.find pda.seeds = some (address, bump) := by
  simp [derive]

theorem Derives.unique {pda : Pda} {left right : Address} (first : crypto.Derives pda left)
    (second : crypto.Derives pda right) : left = right := by
  obtain ⟨_, found⟩ := first
  obtain ⟨_, again⟩ := second
  exact congrArg Prod.fst (Except.ok.inj (found.symm.trans again))

theorem Derives.inj {left right : Pda} {address : Address} (first : crypto.Derives left address)
    (second : crypto.Derives right address) : left = right := by
  obtain ⟨_, found⟩ := first
  obtain ⟨_, again⟩ := second
  have same := crypto.collisionFree _ _ _ _ _ (derive_eq_ok.mp found).2 (derive_eq_ok.mp again).2
  cases left <;> cases right <;>
    simp [Pda.seeds, ascii, Bytes.append_inj, Bytes.toList_inj] at same ⊢ <;> exact same

/-! ## A derivation to evaluate with -/

theorem mem_of_lookup {table : List (Seeds × Address)} {seeds : Seeds} {address : Address}
    (found : table.lookup seeds = some address) : (seeds, address) ∈ table := by
  obtain ⟨front, back, rfl, -⟩ := List.lookup_eq_some_iff.mp found
  simp

/-- Derivation by a table of different addresses. -/
def ofTable (sha256 : List UInt8 → Bytes 32) (table : List (Seeds × Address))
    (distinct : (table.map Prod.snd).Nodup) : Crypto where
  sha256 := sha256
  create seeds := if seeds.getLast? = some [255] then table.lookup seeds.dropLast else none
  find seeds := (table.lookup seeds).map (·, 255)
  create_find seeds address bump found := by
    obtain ⟨_, listed, same⟩ := Option.map_eq_some_iff.mp found
    cases same
    simpa using listed
  collisionFree left right address _ _ first second := by
    obtain ⟨_, listed, same⟩ := Option.map_eq_some_iff.mp first
    cases same
    obtain ⟨_, again, same⟩ := Option.map_eq_some_iff.mp second
    cases same
    have equal := List.inj_on_of_nodup_map distinct (mem_of_lookup listed) (mem_of_lookup again) rfl
    exact congrArg List.flatten (congrArg Prod.fst equal)

theorem Derived.mem_table {sha256 : List UInt8 → Bytes 32} {table : List (Seeds × Address)}
    {distinct : (table.map Prod.snd).Nodup} {address : Address}
    (derived : (ofTable sha256 table distinct).Derived address) :
    address ∈ table.map Prod.snd := by
  obtain ⟨pda, bump, derives⟩ := derived
  obtain ⟨_, listed, same⟩ := Option.map_eq_some_iff.mp (derive_eq_ok.mp derives).2
  cases same
  exact List.mem_map_of_mem (mem_of_lookup listed)

end Crypto

end PactNetwork.V2
