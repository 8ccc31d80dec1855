import PactNetwork.V2.ProgramBooks

/-!
# What the V2 program guarantees

Pool accounting in every chain that can come about.
-/

set_option autoImplicit false

namespace PactNetwork.V2

open Solana

/-! ## A run to evaluate -/

namespace Demo

def key (first : UInt8) : Address := ⟨first :: List.replicate 31 0, rfl⟩

def authority : Address := key 10
def oracle : Address := key 11
def underwriter : Address := key 12
def agent : Address := key 13
def mint : Address := key 14
def underwriterToken : Address := key 15
def agentToken : Address := key 16
def treasury : Address := key 17
def treasuryToken : Address := key 18
def attacker : Address := key 20
def attackerProgram : Address := key 21
def attackerConfig : Address := key 22
def hostname : List UInt8 := ascii "api"

/-- The addresses of one pool with one underwriter, one policy and two claims. -/
def table : List (Seeds × Address) :=
  [(Pda.protocol.seeds, key 100), ((Pda.pool hostname).seeds, key 101),
   ((Pda.vault (key 101)).seeds, key 102), ((Pda.position (key 101) underwriter).seeds, key 103),
   ((Pda.policy (key 101) agent).seeds, key 104),
   ((Pda.claim (key 104) (buffer 32 [1])).seeds, key 105),
   ((Pda.claim (key 104) (buffer 32 [2])).seeds, key 106)]

def crypto : Crypto := .ofTable (buffer 32) table (by decide)

def token (owner : Address) (amount : UInt64) : TokenAccount where
  mint := mint
  owner := owner
  amount := amount
  delegateTag := 0
  delegate := systemProgram
  state := 1
  isNativeTag := 0
  isNative := 0
  delegatedAmount := 0
  closeAuthorityTag := 0
  closeAuthority := systemProgram

def tokenAccount (token : TokenAccount) : Account :=
  ⟨1000, tokenProgram, TokenAccount.layout.encode token⟩

/-- The agent has delegated to the pool. Another program owns an account with
the bytes of a config that names its own oracle. -/
def accounts : List (Address × Account) :=
  [(deployerPubkey, ⟨1000, systemProgram, []⟩), (authority, ⟨1000, systemProgram, []⟩),
   (oracle, ⟨1000, systemProgram, []⟩), (underwriter, ⟨1000, systemProgram, []⟩),
   (agent, ⟨1000, systemProgram, []⟩),
   (mint, ⟨1000, tokenProgram, List.replicate 45 0 ++ [1] ++ List.replicate 36 0⟩),
   (underwriterToken, tokenAccount (token underwriter 200000000)),
   (agentToken, tokenAccount { token agent 1000000 with
      delegateTag := 1, delegate := key 101, delegatedAmount := 1000000 }),
   (treasuryToken, tokenAccount (token treasury 0)), (attacker, ⟨1000, systemProgram, []⟩),
   (attackerConfig, ⟨1000, attackerProgram, Pod.layout.encode
      (InitializeProtocol.config ⟨attacker, attacker, treasury, mint⟩ 255)⟩)]

def genesis : Chain where
  ledger address := (accounts.lookup address).getD Account.absent
  clock := 0
  payouts := []

theorem genesis_ledger (property : Account → Prop) (absent : property Account.absent)
    (address : Address)
    (listed : ∀ entry ∈ accounts, entry.1 = address → property entry.2) :
    property (genesis.ledger address) := by
  show property ((accounts.lookup address).getD Account.absent)
  cases found : accounts.lookup address with
  | none => exact absent
  | some account =>
      obtain ⟨front, back, split, -⟩ := List.lookup_eq_some_iff.mp found
      exact listed (address, account) (by rw [split]; simp) rfl

theorem genesis_begins : Chain.Genesis crypto genesis where
  vacant address derived := by
    refine genesis_ledger (fun account => account.owner = systemProgram ∧ account.data = [])
      ⟨rfl, rfl⟩ address fun entry member same => ?_
    have apart : ∀ entry ∈ accounts, entry.1 ∉ table.map Prod.snd := by decide
    exact (apart entry member (same ▸ derived.mem_table)).elim
  unowned address := by
    refine genesis_ledger (fun account => account.owner = programId → ∀ byte ∈ account.data,
      byte = 0) (by decide) address fun entry member _ owned => ?_
    have foreign : ∀ entry ∈ accounts, entry.2.owner ≠ programId := by decide
    exact (foreign entry member owned).elim
  unpaid := rfl

def context (signer : Address) (now : Int64) : Context where
  signer address := address = signer
  writable _ := true
  now := now
  minimumBalance _ := 1

def instruction (signer : Address) (now : Int64) (accounts : List Address)
    (data : List UInt8) : Instruction := ⟨context signer now, accounts, data⟩

def run (instructions : List Instruction) (chain : Chain) : Chain :=
  instructions.foldl (Chain.execute crypto) chain

theorem unsigned {signer : Address} (now : Int64) (apart : signer ∉ table.map Prod.snd)
    (address : Address) (derived : crypto.Derived address) :
    (context signer now).signer address = false := by
  refine decide_eq_false ?_
  rintro rfl
  exact apart derived.mem_table

def configure : Instruction :=
  instruction deployerPubkey 0 [key 100, deployerPubkey, systemProgram]
    (0 :: authority.toList ++ oracle.toList ++ treasury.toList ++ mint.toList)

def createPool : Instruction :=
  instruction authority 0
    [key 100, key 101, key 102, mint, authority, systemProgram, tokenProgram, systemProgram]
    ([3, 3, 0, 0, 0] ++ hostname ++ [0, 1] ++ Layout.u64.encode 30000000)

def deposit : Instruction :=
  instruction underwriter 0
    [key 100, key 101, key 102, key 103, underwriterToken, underwriter, tokenProgram,
      systemProgram]
    (4 :: Layout.u64.encode 100000000)

def enableInsurance : Instruction :=
  instruction agent 0 [key 100, key 101, key 104, agentToken, agent, systemProgram]
    ([5, 0, 0, 0, 0] ++ Layout.i64.encode 5000000 ++ List.replicate 32 0 ++ [0, 0, 0])

def settlePremium : Instruction :=
  instruction oracle 10
    [key 100, key 101, key 102, key 104, treasuryToken, agentToken, oracle, tokenProgram]
    (7 :: Layout.u64.encode 10000000)

def submitClaim (config signer claim : Address) (call : UInt8) (payment : UInt64) : Instruction :=
  instruction signer 20
    [config, key 101, key 102, key 104, claim, agentToken, signer, tokenProgram, systemProgram]
    ([10, 1, 0, 0, 0, call, 0] ++ List.replicate 32 0 ++ Layout.i64.encode 20 ++
      List.replicate 6 0 ++ Layout.u64.encode payment)

def withdraw : Instruction :=
  instruction underwriter 1000000
    [key 100, key 101, key 102, key 103, underwriterToken, underwriter, tokenProgram,
      systemProgram]
    (8 :: Layout.u64.encode 40000000)

def setup : List Instruction := [configure, createPool, deposit, enableInsurance]

def insured : Chain := run setup genesis

def settled : Chain :=
  run [settlePremium, submitClaim (key 100) oracle (key 105) 1 500000, withdraw] insured

theorem setup_inOrder : Chain.InOrder crypto genesis.clock setup :=
  ⟨by decide, unsigned 0 (by decide), by decide, unsigned 0 (by decide), by decide,
    unsigned 0 (by decide), by decide, unsigned 0 (by decide), trivial⟩

theorem insured_reached : Chain.Reached crypto insured :=
  Reachable.trans (.start genesis_begins) (Chain.run_execute genesis setup setup_inOrder)

theorem insured_clock : insured.clock = 0 := by
  unfold insured run setup
  simp only [List.foldl_cons, List.foldl_nil]
  exact Chain.execute_clock _ _ _

theorem settled_reached : Chain.Reached crypto settled :=
  Reachable.trans insured_reached (Chain.run_execute insured _
    ⟨by rw [insured_clock]; decide, unsigned 10 (by decide), by decide, unsigned 20 (by decide), by decide,
      unsigned 1000000 (by decide), trivial⟩)

end Demo

/-! ## Accounting -/

variable {crypto : Crypto} {chain : Chain}

/-- In every pool the counters add up, the deposits are those of its positions,
and the vault holds what is available. -/
theorem pool_accounting (reached : Chain.Reached crypto chain) {account : Address}
    {pool : CoveragePool} (stored : recordAt CoveragePool chain.ledger account = some pool) :
    pool.totalAvailable.toNat + pool.totalClaimsPaid.toNat =
      pool.totalDeposited.toNat + pool.totalPremiumsEarned.toNat ∧
    pool.totalDeposited.toNat = ∑ position : Address,
      depositOf account (recordAt UnderwriterPosition chain.ledger position) ∧
    ∃ vault, tokenAt chain.ledger pool.vault = some vault ∧
      pool.totalAvailable.toNat ≤ vault.amount.toNat := by
  obtain ⟨-, -, balanced, deposits, token, held, -, covered⟩ :=
    reached.sound.accounted.pools account pool stored
  exact ⟨balanced, deposits, token, held, covered⟩

/-- After a deposit of 100, a premium of 0.02125, a claim of 0.5 and a withdrawal
of 40 the pool has 59.52125 USDC available. -/
theorem pool_accounting_demo : ∃ pool : CoveragePool, pool.totalAvailable = 59521250 ∧
    pool.totalAvailable.toNat + pool.totalClaimsPaid.toNat =
      pool.totalDeposited.toNat + pool.totalPremiumsEarned.toNat ∧
    pool.totalDeposited.toNat = ∑ position : Address,
      depositOf (Demo.key 101) (recordAt UnderwriterPosition Demo.settled.ledger position) ∧
    ∃ vault, tokenAt Demo.settled.ledger pool.vault = some vault ∧
      pool.totalAvailable.toNat ≤ vault.amount.toNat := by
  have stored : (recordAt CoveragePool Demo.settled.ledger (Demo.key 101)).map
      CoveragePool.totalAvailable = some 59521250 := by decide +kernel
  obtain ⟨pool, found, available⟩ := Option.map_eq_some_iff.mp stored
  exact ⟨pool, available, pool_accounting Demo.settled_reached found⟩

end PactNetwork.V2
