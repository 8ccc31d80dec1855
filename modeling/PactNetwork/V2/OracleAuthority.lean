import PactNetwork.V2.Parameters

/-!
# Who signs for premiums and claims

`settle_premium` and `submit_claim` compare the signer with the oracle of the
config account they are passed, wherever it is and whoever owns it. Where that
account names the oracle of the canonical config, the canonical oracle signs.
-/

set_option autoImplicit false

namespace PactNetwork.V2

open Solana

section Authority

variable (crypto : Crypto)

def OracleSigned (ledger : Ledger) (context : Context) : Prop :=
  ∃ address config, crypto.Derives .protocol address ∧
    recordAt ProtocolConfig ledger address = some config ∧ context.signer config.oracle = true

def Instruction.MovesMoney (instruction : Instruction) : Prop :=
  instruction.data.head? = some 7 ∨ instruction.data.head? = some 10

def NamesOracle (chain : Chain) (instruction : Instruction) : Prop :=
  instruction.MovesMoney → ∀ passed given address config,
    instruction.accounts.head? = some passed →
    load ProtocolConfig chain.ledger passed = .ok given →
    crypto.Derives .protocol address →
    recordAt ProtocolConfig chain.ledger address = some config → given.oracle = config.oracle

/-- A run with the instructions it tried, each with the chain it met. -/
inductive Chain.Run (allowed : Chain → Instruction → Prop) :
    Chain → List (Chain × Instruction) → Prop
  | start {chain : Chain} (begins : Genesis crypto chain) : Run allowed chain []
  | instruction {chain : Chain} {log : List (Chain × Instruction)} (earlier : Run allowed chain log)
      (instruction : Instruction)
      (unsigned : ∀ address, crypto.Derived address →
        instruction.context.signer address = false)
      (forward : chain.clock ≤ instruction.context.now) (met : allowed chain instruction) :
      Run allowed (chain.execute crypto instruction) ((chain, instruction) :: log)
  | outside {chain : Chain} {log : List (Chain × Instruction)} {ledger : Ledger}
      (earlier : Run allowed chain log) (outside : Outside crypto chain.ledger ledger) :
      Run allowed { chain with ledger } log

def Configured (books : Books) : Prop :=
  ∀ account pool, books.pools account = some pool →
    ∃ address config, crypto.Derives .protocol address ∧ books.configs address = some config

variable {crypto} {allowed : Chain → Instruction → Prop} {chain : Chain}
  {log : List (Chain × Instruction)} {now : Int64} {books books' : Books}
  {label : Option SubmitClaim.Payout}

theorem Chain.Run.reached (run : Run crypto allowed chain log) : Reached crypto chain := by
  induction run with
  | start begins => exact .start begins
  | instruction _ instruction unsigned forward _ ih =>
      exact .next ih (.instruction instruction unsigned forward)
  | outside _ outside ih => exact .next ih (.outside outside)

/-! ## The canonical config stays -/

theorem Step.pool_or_config (step : Step crypto now books label books') {account : Address}
    {pool' : CoveragePool} (stored : books'.pools account = some pool') :
    (∃ account pool, books.pools account = some pool) ∨
      ∃ address config, crypto.Derives .protocol address ∧
        books.configs address = some config := by
  cases step with
  | initializeProtocol => exact .inl ⟨account, pool', stored⟩
  | updateConfig => exact .inl ⟨account, pool', stored⟩
  | updateOracle => exact .inl ⟨account, pool', stored⟩
  | outside => exact .inl ⟨account, pool', stored⟩
  | createPool canonical configured => exact .inr ⟨_, _, canonical, configured⟩
  | updateRates found => exact .inl ⟨_, _, found⟩
  | deposit _ _ found => exact .inl ⟨_, _, found⟩
  | withdraw found => exact .inl ⟨_, _, found⟩
  | enableInsurance _ _ found => exact .inl ⟨_, _, found⟩
  | disablePolicy found => exact .inl ⟨_, _, found⟩
  | settlePremium found => exact .inl ⟨_, _, found⟩
  | submitClaim found => exact .inl ⟨_, _, found⟩

theorem Step.configured (step : Step crypto now books label books')
    (configured : Configured crypto books) : Configured crypto books' := by
  intro account pool stored
  have earlier : ∃ address config, crypto.Derives .protocol address ∧
      books.configs address = some config := by
    rcases step.pool_or_config stored with ⟨other, pool, found⟩ | found
    · exact configured other pool found
    · exact found
  obtain ⟨address, config, canonical, found⟩ := earlier
  obtain ⟨config', stays, -⟩ := step.config_frozen canonical found
  exact ⟨address, config', canonical, stays⟩

theorem Chain.Reached.configured (reached : Reached crypto chain) :
    Configured crypto (booksOf chain.ledger) := by
  refine reached.books (Configured crypto) (fun first genesis account pool stored => ?_)
    fun _ _ _ _ configured step => step.configured configured
  cases (genesis.no_record (by decide) account).symm.trans stored

/-! ## Who has signed -/

def SignedFor (ledger : Ledger) (context : Context) (accounts : List Address) : Prop :=
  ∃ passed given account pool, accounts.head? = some passed ∧
    load ProtocolConfig ledger passed = .ok given ∧ context.signer given.oracle = true ∧
    recordAt CoveragePool ledger account = some pool

variable {context : Context} {ledger result : Ledger} {accounts : List Address}
  {data : List UInt8}

theorem SettlePremium.signed
    (accepted : SettlePremium.process crypto context ledger accounts data = .ok result) :
    SignedFor ledger context accounts := by
  unfold SettlePremium.process at accepted
  split at accepted
  case h_1 =>
    simp only [settle, bind_eq_ok, failIf_eq_ok, exists_const, ne_eq, not_not] at accepted
    obtain ⟨-, _, flags, _, -, given, loaded, oracle, _, -, _, -, pool, poolLoaded, -⟩ := accepted
    obtain ⟨signed, poolOwned, -⟩ := checkFlags_eq_ok flags
    exact ⟨_, given, _, pool, rfl, loaded, oracle ▸ signed,
      recordAt_eq_some.mpr ⟨poolOwned, poolLoaded⟩⟩
  case h_2 => cases accepted

theorem SubmitClaim.signed {payout : Payout}
    (accepted : SubmitClaim.process crypto context ledger accounts data = .ok (result, payout)) :
    SignedFor ledger context accounts := by
  unfold SubmitClaim.process at accepted
  split at accepted
  case h_1 =>
    simp only [submit, bind_eq_ok, failIf_eq_ok, exists_const, ne_eq, not_not, Prod.exists]
      at accepted
    obtain ⟨-, -, _, flags, _, -, -, given, loaded, -, oracle, _, -, _, -, pool, poolLoaded, -⟩ :=
      accepted
    obtain ⟨signed, poolOwned, -⟩ := checkFlags_eq_ok flags
    exact ⟨_, given, _, pool, rfl, loaded, oracle ▸ signed,
      recordAt_eq_some.mpr ⟨poolOwned, poolLoaded⟩⟩
  case h_2 => cases accepted

theorem processInstruction_signed {instruction : Instruction}
    (money : instruction.MovesMoney)
    (accepted : processInstruction crypto ledger instruction = .ok (result, label)) :
    SignedFor ledger instruction.context instruction.accounts := by
  unfold processInstruction at accepted
  split at accepted
  case h_1 => cases accepted
  case h_2 value data found =>
    simp only [bind_eq_ok, okOr_eq_ok] at accepted
    obtain ⟨discriminator, parsed, dispatched⟩ := accepted
    rw [Instruction.MovesMoney, found, List.head?_cons, Option.some_inj, Option.some_inj] at money
    rcases money with rfl | rfl
    · cases parsed
      simp only [dispatch, map_eq_ok] at dispatched
      obtain ⟨_, processed, -⟩ := dispatched
      exact SettlePremium.signed processed
    · cases parsed
      simp only [dispatch, map_eq_ok] at dispatched
      obtain ⟨⟨_, _⟩, processed, -⟩ := dispatched
      exact SubmitClaim.signed processed

/-- In every run in which premiums and claims are settled against accounts that
name the canonical oracle, the canonical oracle has signed each of them. -/
theorem oracle_signed (run : Chain.Run crypto (NamesOracle crypto) chain log) :
    ∀ entry ∈ log, entry.2.MovesMoney → ∀ result label,
      processInstruction crypto entry.1.ledger entry.2 = .ok (result, label) →
        OracleSigned crypto entry.1.ledger entry.2.context := by
  induction run with
  | start => exact nofun
  | outside _ _ ih => exact ih
  | @instruction before log earlier instruction _ _ met ih =>
      intro entry member
      rcases List.mem_cons.mp member with rfl | past
      · intro money result label accepted
        obtain ⟨passed, given, account, pool, head, loaded, signed, stored⟩ :=
          processInstruction_signed money accepted
        obtain ⟨address, config, canonical, configured⟩ :=
          earlier.reached.configured account pool stored
        have same := met money passed given address config head loaded canonical configured
        exact ⟨address, config, canonical, configured, same ▸ signed⟩
      · exact ih entry past

theorem namesOracle_of_canonical {instruction : Instruction} {passed : Address}
    (head : instruction.accounts.head? = some passed)
    (canonical : crypto.Derives .protocol passed) : NamesOracle crypto chain instruction := by
  intro _ other given address config same loaded derives stored
  cases head.symm.trans same
  cases canonical.unique derives
  rw [load_stored stored loaded]

theorem Chain.Run.execute_all {first : Chain} {earlier : List (Chain × Instruction)}
    (run : Run crypto allowed first earlier) (instructions : List Instruction)
    (ordered : InOrder crypto first.clock instructions)
    (met : ∀ instruction ∈ instructions, ∀ before, allowed before instruction) :
    ∃ log, Run crypto allowed (instructions.foldl (execute crypto) first) log := by
  induction instructions generalizing first earlier with
  | nil => exact ⟨earlier, run⟩
  | cons instruction rest ih =>
      obtain ⟨forward, unsigned, later⟩ := ordered
      refine ih (.instruction run instruction unsigned forward
        (met instruction List.mem_cons_self first)) ?_
        fun other member => met other (List.mem_cons_of_mem _ member)
      rw [execute_clock]
      exact later

end Authority

/-! ## With and without the condition -/

namespace Demo

theorem canonical : crypto.Derives .protocol (key 100) := ⟨255, by decide⟩

theorem insured_run : ∃ log, Chain.Run crypto (NamesOracle crypto) insured log :=
  Chain.Run.execute_all (.start genesis_begins) setup setup_inOrder
    fun instruction member before money => by
      have others : ∀ instruction ∈ setup, instruction.data.head? ≠ some 7 ∧
          instruction.data.head? ≠ some 10 := by decide
      obtain ⟨premium, claim⟩ := others instruction member
      exact (money.elim premium claim).elim

end Demo

theorem oracle_signed_demo :
    OracleSigned Demo.crypto Demo.insured.ledger Demo.settlePremium.context := by
  obtain ⟨log, run⟩ := Demo.insured_run
  have accepted : (processInstruction Demo.crypto Demo.insured.ledger
      Demo.settlePremium).isOk = true := by decide +kernel
  have forward : Demo.insured.clock ≤ Demo.settlePremium.context.now := by
    rw [Demo.insured_clock]
    decide
  cases processed : processInstruction Demo.crypto Demo.insured.ledger Demo.settlePremium with
  | error error =>
      rw [processed] at accepted
      cases accepted
  | ok value =>
      exact oracle_signed (.instruction run Demo.settlePremium (Demo.unsigned 10 (by decide)) forward
        (namesOracle_of_canonical rfl Demo.canonical)) (Demo.insured, Demo.settlePremium)
        List.mem_cons_self (.inl rfl) value.1 value.2 processed

namespace Demo

def forgedClaim : Instruction := submitClaim attackerConfig attacker (key 105) 1 500000

end Demo

/-- A config account of another program pays a claim that the canonical oracle
has not signed. -/
theorem oracle_bypassed : ¬ ∀ (crypto : Crypto) (chain : Chain) (instruction : Instruction)
    (result : Ledger) (payout : SubmitClaim.Payout), Chain.Reached crypto chain →
    (∀ address, crypto.Derived address → instruction.context.signer address = false) →
    chain.clock ≤ instruction.context.now →
    processInstruction crypto chain.ledger instruction = .ok (result, some payout) →
    0 < payout.refund → OracleSigned crypto chain.ledger instruction.context := by
  intro always
  have accepted : (processInstruction Demo.crypto Demo.insured.ledger
      Demo.forgedClaim).toOption.bind (fun outcome => outcome.2.map fun payout => payout.refund) =
        some 500000 := by decide +kernel
  have forward : Demo.insured.clock ≤ Demo.forgedClaim.context.now := by
    rw [Demo.insured_clock]
    decide
  have stored : (recordAt ProtocolConfig Demo.insured.ledger (Demo.key 100)).map
      ProtocolConfig.oracle = some Demo.oracle := by decide +kernel
  cases processed : processInstruction Demo.crypto Demo.insured.ledger Demo.forgedClaim with
  | error error =>
      rw [processed] at accepted
      cases accepted
  | ok value =>
      rw [processed] at accepted
      obtain ⟨result, label⟩ := value
      obtain ⟨payout, rfl, refund⟩ := Option.map_eq_some_iff.mp accepted
      obtain ⟨address, config, canonical, found, signed⟩ := always Demo.crypto Demo.insured
        Demo.forgedClaim result payout Demo.insured_reached (Demo.unsigned 20 (by decide)) forward
        processed (by rw [refund]; decide)
      cases canonical.unique Demo.canonical
      rw [found, Option.map_some, Option.some_inj] at stored
      rw [stored] at signed
      revert signed
      decide

end PactNetwork.V2
