import PactNetwork.Settler.IndexerPusher
import PactNetwork.V1.AgentAccounts

/-!
# The indexer's mirror of a pool

A chain that settles, a settler that reports what it sent and an indexer that records the
reports. The two balances of a pool move by the same amounts as long as every event
settles as it was requested.
-/

set_option autoImplicit false

namespace PactNetwork.Mirror

open Solana V1

/-! ## The chain's balance -/

def poolBalance (addresses : Addresses) (slug : Slug) (ledger : Ledger) : Int :=
  (structAt CoveragePool.layout ledger (addresses.of (.coveragePool slug))).elim 0 fun pool =>
    (pool.currentBalance.toNat : Int)

/-- Settled as requested: the agent's approval covers the premium, the window and the pool
cover the refund, and the fees are those of the cached recipients. -/
structure Plain (now : Int64) (config : V1Client.EndpointConfig) (fixed : FixedAccounts)
    (event : SettlementEvent) (accounts : EventAccounts) (pool : CoveragePool)
    (endpoint : EndpointConfig) (ledger : Ledger) : Prop where
  poolFound : structAt CoveragePool.layout ledger accounts.coveragePool = some pool
  endpointFound : structAt EndpointConfig.layout ledger accounts.endpointConfig = some endpoint
  preflight : SettleBatch.delegateOk (ledger accounts.agentAta).data fixed.settlementAuth
    event.premiumLamports = true
  fees : ((amounts (SettleBatch.feeShares event.premiumLamports endpoint.recipients)).sum : Int) =
    (Settler.IndexerPusher.cachedFees config event.premiumLamports.toNat).sum
  window : event.refundLamports.toNat ≤ (endpoint.counters.roll now.toInt).cap -
    (endpoint.counters.roll now.toInt).periodRefunds
  covered : event.refundLamports.toNat +
      (amounts (SettleBatch.feeShares event.premiumLamports endpoint.recipients)).sum ≤
    pool.currentBalance.toNat + event.premiumLamports.toNat

/-- What a settler with these cached recipients takes an event to bring the pool of a slug. -/
def expected (config : V1Client.EndpointConfig) (slug : Slug) (event : SettlementEvent) : Int :=
  if event.endpointSlug = slug then
    event.premiumLamports.toNat - event.refundLamports.toNat -
      (Settler.IndexerPusher.cachedFees config event.premiumLamports.toNat).sum
  else 0

section Events

variable {addresses : Addresses} {context : Context} {fixed : FixedAccounts}
  {event : SettlementEvent} {accounts : EventAccounts} {pool pool' : CoveragePool}
  {endpoint endpoint' : EndpointConfig} {before after : Ledger} {status : SettlementStatus}
  {actual : UInt64} {receipt : Receipt} {config : V1Client.EndpointConfig}

theorem Plain.settle_balance (plain : Plain context.now config fixed event accounts pool endpoint
    before) :
    let call := event.call (SettleBatch.feeShares event.premiumLamports endpoint.recipients)
    (Settlement.settle pool.ledger endpoint.counters context.now.toInt call).pool.balance +
        (call.fees.sum + call.refund) = pool.ledger.balance + call.premium := by
  intro call
  have due : call.refund =
      (endpoint.counters.roll context.now.toInt).payable call.refund := by
    have window := plain.window
    show event.refundLamports.toNat = min event.refundLamports.toNat _
    omega
  have within : call.refund + call.fees.sum ≤ pool.ledger.balance + call.premium := plain.covered
  have enough : call.refund ≤ (pool.ledger.collect call).balance := by
    show call.refund ≤ pool.ledger.balance + call.premium - call.fees.sum
    omega
  rw [Settlement.settle_of_covered due enough]
  show pool.ledger.balance + call.premium - call.fees.sum - call.refund + _ = _
  omega

theorem poolBalance_other (effect : SettleBatch.Effect addresses context fixed event accounts pool
      pool' endpoint endpoint' before after status actual receipt)
    (shaped : Shaped addresses before) {slug : Slug} (other : event.endpointSlug ≠ slug) :
    poolBalance addresses slug after = poolBalance addresses slug before := by
  have bound := effect.bound
  obtain ⟨-, data⟩ := effect.contents (addresses.of (.coveragePool slug))
    (by rw [bound.callRecord]; simp) (by rw [bound.coveragePool]; simpa using Ne.symm other)
    (by rw [bound.endpointConfig]; simp) (shaped.foreign _)
  unfold poolBalance structAt
  rw [data]

theorem Plain.poolBalance_eq (plain : Plain context.now config fixed event accounts pool endpoint
      before)
    (effect : SettleBatch.Effect addresses context fixed event accounts pool
      pool' endpoint endpoint' before after status actual receipt) :
    poolBalance addresses event.endpointSlug after =
      poolBalance addresses event.endpointSlug before + (event.premiumLamports.toNat -
        event.refundLamports.toNat -
        (Settler.IndexerPusher.cachedFees config event.premiumLamports.toNat).sum) := by
  have bound := effect.bound
  have poolFound := bound.poolFound
  have poolAfter := effect.poolAfter
  rw [bound.coveragePool] at poolFound poolAfter
  have balances : pool'.ledger.balance +
      ((amounts (SettleBatch.feeShares event.premiumLamports endpoint.recipients)).sum +
        event.refundLamports.toNat) =
      pool.ledger.balance + event.premiumLamports.toNat := by
    cases effect.outcome with
    | inl failed => exact absurd (failed.1.symm.trans plain.preflight) Bool.false_ne_true
    | inr settled =>
        obtain ⟨-, -, -, outcome, settled⟩ := settled
        rw [settled.poolLedger, settled.outcome_eq, settled.shares]
        exact plain.settle_balance
  have fees := plain.fees
  rw [poolBalance, poolBalance, poolFound, poolAfter]
  simp only [CoveragePool.ledger] at balances
  simp only [Option.elim_some]
  omega

end Events

/-! ## A batch -/

section Batches

variable {addresses : Addresses} {context : Context} {before after : Ledger}
  {list : List Address} {data : List UInt8} {receipts : List Receipt}
  {config : V1Client.EndpointConfig}

/-- Each event of the batch that belongs to the pool is plain when its turn comes. -/
def EachPlain (addresses : Addresses) (context : Context) (before : Ledger) (list : List Address)
    (data : List UInt8) (config : V1Client.EndpointConfig) (slug : Slug) : Prop :=
  EachTurn addresses context before list data fun fixed event accounts earlier _ _ =>
    event.endpointSlug = slug →
      ∃ pool endpoint, Plain context.now config fixed event accounts pool endpoint earlier

variable {slug : Slug}

theorem EachPlain.prefix_balance (plain : EachPlain addresses context before list data config slug)
    (shaped : Shaped addresses before) :
    ∃ fixed rest bump events, SettleBatch.takeFixed list = .ok (fixed, rest) ∧
      SettleBatch.checkFixed addresses context before fixed = .ok bump ∧
      SettleBatch.parseEvents data = .ok events ∧
      ∀ count ≤ events.length, ∀ progress,
        (events.take count).foldlM (SettleBatch.settleStep addresses context fixed bump)
            ⟨before, rest, []⟩ = .ok progress →
          Shaped addresses progress.ledger ∧
            poolBalance addresses slug progress.ledger = poolBalance addresses slug before +
              ((events.take count).map (expected config slug)).sum := by
  obtain ⟨fixed, rest, bump, events, taken, checked, parsed, each⟩ := plain
  refine ⟨fixed, rest, bump, events, taken, checked, parsed, fun count within => ?_⟩
  induction count with
  | zero =>
      intro progress turned
      cases turned
      exact ⟨shaped, (add_zero _).symm⟩
  | succ count ih =>
      intro progress turned
      obtain ⟨earlier, later, front, stepped, accounts, receipt, slots, -, plain⟩ :=
        each count within
      obtain ⟨shaped, balance⟩ := ih (Nat.le_of_succ_le within) earlier front
      rw [← List.take_append_getElem within, foldlM_append_eq_ok] at turned
      obtain ⟨middle, same, last⟩ := turned
      cases front.symm.trans same
      obtain ⟨_, same, done⟩ := foldlM_cons_eq_ok.mp last
      cases stepped.symm.trans same
      cases done
      obtain ⟨named, _, _, _, _, _, _, _, slots', -, -, effect⟩ :=
        SettleBatch.settleStep_spec stepped
      cases slots.symm.trans slots'
      have moved : poolBalance addresses slug progress.ledger =
          poolBalance addresses slug earlier.ledger + expected config slug events[count] := by
        by_cases same : events[count].endpointSlug = slug
        · obtain ⟨pool, endpoint, plain⟩ := plain same
          cases effect.bound.poolFound.symm.trans plain.poolFound
          cases effect.bound.endpointFound.symm.trans plain.endpointFound
          rw [← same, plain.poolBalance_eq effect, expected, if_pos rfl]
        · rw [poolBalance_other effect shaped same, expected, if_neg same, add_zero]
      refine ⟨effect.shaped shaped, ?_⟩
      rw [moved, balance, ← List.take_append_getElem within, List.map_append, List.sum_append,
        List.map_singleton, List.sum_singleton, add_assoc]

theorem EachPlain.balance (plain : EachPlain addresses context before list data config slug)
    (shaped : Shaped addresses before)
    (accepted : SettleBatch.process addresses context before list data = .ok (after, receipts))
    {events : List SettlementEvent} (parsed : SettleBatch.parseEvents data = .ok events) :
    poolBalance addresses slug after =
      poolBalance addresses slug before + (events.map (expected config slug)).sum := by
  obtain ⟨fixed, rest, bump, _, taken, checked, parsed', each⟩ := plain.prefix_balance shaped
  cases parsed.symm.trans parsed'
  obtain ⟨fixed', rest', bump', _, taken', checked', parsed', progress, loop, rfl, -⟩ :=
    SettleBatch.process_eq_ok accepted
  cases parsed.symm.trans parsed'
  cases taken.symm.trans taken'
  cases checked.symm.trans checked'
  have turned := each events.length (Nat.le_refl _) progress
  rw [List.take_length] at turned
  exact (turned loop).2

end Batches

/-! ## What is reported of a batch -/

section Reports

open Settler.Paths Settler.IndexerPusher

def gain (slug : String) (dto : Indexer.SettlementEventDto) : Int :=
  (dto.calls.map fun call => if call.endpointSlug = slug then call.column .balance else 0).sum

variable {config : V1Client.EndpointConfig} {name slug : String}

theorem expected_of_reported {event : V1Client.SettlementEvent × Address}
    {call : Indexer.WrapCallEventDto} {slot : SettleBatch.Slot}
    (reported : Reported name config event call)
    (carries : V1Client.Carries event.1 event.2 slot)
    (apart : slugBytes name = slugBytes slug → name = slug) :
    expected config (slugBytes slug) slot.event =
      if call.endpointSlug = slug then call.column .balance else 0 := by
  have bytes : slot.event.endpointSlug = slugBytes name := by
    refine Bytes.toList_inj.mp (carries.slug.trans ?_)
    rw [reported.bytes, List.Vector.toList_length, Nat.sub_self, List.replicate_zero,
      List.append_nil]
  have premium := carries.premiumLamports.trans reported.premiumLamports
  have refund := carries.refundLamports.trans reported.refundLamports
  rw [expected, bytes, reported.endpointSlug]
  by_cases same : name = slug
  · rw [if_pos (congrArg slugBytes same), if_pos same, premium, refund, ← reported.fees]
    rfl
  · rw [if_neg fun bytes => same (apart bytes), if_neg same]

theorem sum_expected {events : List (V1Client.SettlementEvent × Address)}
    {dto : Indexer.SettlementEventDto} {slots : List SettleBatch.Slot}
    (reported : List.Forall₂ (Reported name config) events dto.calls)
    (carried : V1Client.CarriesAll events slots)
    (apart : slugBytes name = slugBytes slug → name = slug) :
    ((slots.map SettleBatch.Slot.event).map (expected config (slugBytes slug))).sum =
      gain slug dto := by
  unfold gain
  generalize dto.calls = calls at reported
  induction carried generalizing calls with
  | nil =>
      cases reported
      rfl
  | cons carries _ ih =>
      cases reported with
      | cons first rest =>
          simp only [List.map_cons, List.sum_cons, expected_of_reported first carries apart,
            ih _ rest]

theorem read_of_reported {deployment : Deployment}
    {events : List (V1Client.SettlementEvent × Address)} {dto : Indexer.SettlementEventDto}
    {ix : V1Client.TransactionInstruction} (few : events.length ≤ 50)
    (reported : List.Forall₂ (Reported name config) events dto.calls)
    (built : V1Client.buildSettleBatchIx (settleBatchParams deployment (events.map Prod.fst)
      (events.map Prod.snd)) = .ok ix) :
    ∃ data slots, ix.data = V1Client.discSettleBatch :: data ∧ V1Client.CarriesAll events slots ∧
      SettleBatch.parseEvents data = .ok (slots.map SettleBatch.Slot.event) := by
  have pairs : (events.map Prod.fst).zip (events.map Prod.snd) = events :=
    (List.zip_of_prod rfl rfl).symm
  have recipients : ∀ event ∈ events, event.1.feeRecipientAtas.length ≤ 8 := by
    intro event member
    obtain ⟨index, inside, rfl⟩ := List.getElem_of_mem member
    exact (List.Forall₂.get reported inside (reported.length_eq ▸ inside)).recipients
  have inRange : ∀ event ∈ events, event.1.InRange := fun event member =>
    Settler.Admission.inRange_of_build built _ (List.mem_map_of_mem member)
  obtain ⟨slots, carried⟩ := V1Client.carried_all inRange
    fun event member => Nat.lt_of_le_of_lt (recipients event member) (by decide)
  let p := settleBatchParams deployment (events.map Prod.fst) (events.map Prod.snd)
  have aligned : p.events.length = p.callRecordPdas.length := by simp [p, settleBatchParams]
  have written := V1Client.CarriesAll.buildSettleBatchIx aligned
    (by simpa only [p, settleBatchParams, pairs] using carried)
    (by simpa [p, settleBatchParams] using few)
  cases written.symm.trans built
  refine ⟨_, slots, rfl, carried, SettleBatch.parseEvents_encodeEvents ?_⟩
  rw [List.length_map, ← carried.length_eq]
  exact few

/-! ## What the indexer records -/

theorem ingest_gain {semantics : Indexer.FailureSemantics} {dto : Indexer.SettlementEventDto}
    {database : Indexer.Database} {result : Indexer.IngestResult}
    (accepted : (Indexer.ingest semantics dto database []).result = .ok result)
    (once : database.newCalls dto.batchNetwork dto.calls = dto.calls) (slug : String) :
    (Indexer.ingest semantics dto database []).database.poolColumn (dto.batchNetwork, slug)
        .balance =
      database.poolColumn (dto.batchNetwork, slug) .balance + gain slug dto := by
  obtain ⟨-, new, written⟩ := Indexer.ingest_undisturbed accepted
  rw [once] at new
  cases written with
  | inl nothing =>
      rw [nothing.2, gain, ← new, nothing.1]
      exact (add_zero _).symm
  | inr recorded =>
      obtain ⟨admits, final⟩ := recorded
      rw [final, (Indexer.additive_poolColumn _ _).applyAll admits, Indexer.weigh_poolColumn _ _
        (new ▸ List.Subset.refl _), new]
      simp only [gain, Prod.mk.injEq, true_and]

end Reports

/-! ## The system -/

section System

open Settler.Batching Settler.Paths Settler.IndexerPusher

/-- A batch on its way: what the settler goes by, what it sends and what it posts. -/
structure Dispatch where
  view : View
  batch : List SettleMessage
  slug : String
  snap : EndpointSnapshot
  ix : V1Client.TransactionInstruction
  shares : List (List Settler.RecipientShare)
  context : Context
  signature : String
  settledAt : Indexer.Timestamp
  body : PushedBody
  posted : Indexer.SettlementEventDto

def Dispatch.instruction (dispatch : Dispatch) : Instruction :=
  ⟨dispatch.context, dispatch.ix.keys.map V1Client.AccountMeta.pubkey, dispatch.ix.data⟩

variable (web3 : Web3) (runtime : Settler.Runtime) (deployment : Deployment)
  (network : String)

/-- The settler made it, on either path, of a batch of the batcher. -/
structure Dispatch.Made (dispatch : Dispatch) : Prop where
  formed : Settler.Admission.Formed runtime dispatch.batch
  single : ∀ data ∈ dispatch.batch.map SettleMessage.data,
    Settler.extractSlug data = .ok dispatch.slug
  cached : Cached web3 deployment dispatch.view.caches
  loaded : ∃ later, loadEndpoint web3 deployment dispatch.view.chain dispatch.view.now
    dispatch.slug dispatch.view.caches = .ok (dispatch.snap, later)
  submits : Submits web3 runtime deployment dispatch.view
    (dispatch.batch.map SettleMessage.data) dispatch.snap dispatch.ix dispatch.shares
  pushed : push runtime dispatch.signature dispatch.settledAt dispatch.batch dispatch.shares =
    .ok dispatch.body
  network : dispatch.body.network = network
  read : dispatch.body.ReadAs runtime dispatch.posted
  unsigned : ∀ pda, dispatch.context.signer (deployment.addresses.of pda) = false

/-- Every event for the pool is plain when its turn comes, and names it in full. -/
structure Dispatch.Plain (slug : String) (chain : Chain) (dispatch : Dispatch) : Prop where
  events : EachPlain deployment.addresses dispatch.context chain.ledger
    dispatch.instruction.accounts dispatch.instruction.data.tail dispatch.snap.config
    (slugBytes slug)
  apart : slugBytes dispatch.slug = slugBytes slug → dispatch.slug = slug

/-- A chain, the indexer of its network, and what is posted but not ingested. -/
structure State where
  chain : Chain
  database : Indexer.Database
  posted : List Indexer.SettlementEventDto

/-- Settlements that meet a condition are posted and ingested once. Between them, anything
may happen that leaves the two balances of the pool. -/
inductive Next (semantics : Indexer.FailureSemantics) (slug : String)
    (condition : Chain → Dispatch → Prop) : State → State → Prop
  | settle {state : State} {dispatch : Dispatch}
      (made : dispatch.Made web3 runtime deployment network)
      (accepted : accepts (processInstruction deployment.addresses state.chain.ledger
        dispatch.instruction))
      (meets : condition state.chain dispatch) :
      Next semantics slug condition state { state with
        chain := state.chain.execute deployment.addresses dispatch.instruction
        posted := dispatch.posted :: state.posted }
  | ingest {state : State} {front back : List Indexer.SettlementEventDto}
      {dto : Indexer.SettlementEventDto} {result : Indexer.IngestResult}
      (waiting : state.posted = front ++ dto :: back)
      (accepted : (Indexer.ingest semantics dto state.database []).result = .ok result)
      (once : state.database.newCalls dto.batchNetwork dto.calls = dto.calls) :
      Next semantics slug condition state { state with
        database := (Indexer.ingest semantics dto state.database []).database
        posted := front ++ back }
  | chain {state : State} {chain : Chain}
      (moves : Chain.Next deployment.addresses state.chain chain)
      (kept : poolBalance deployment.addresses (slugBytes slug) chain.ledger =
        poolBalance deployment.addresses (slugBytes slug) state.chain.ledger) :
      Next semantics slug condition state { state with chain }
  | database {state : State} {database : Indexer.Database}
      (kept : database.poolColumn (network, slug) .balance =
        state.database.poolColumn (network, slug) .balance) :
      Next semantics slug condition state { state with database }

variable {web3 runtime deployment network} {semantics : Indexer.FailureSemantics}
  {slug : String} {condition : Chain → Dispatch → Prop} {start state after : State}

theorem Dispatch.Made.balance {dispatch : Dispatch} (prints : Prints runtime)
    (made : dispatch.Made web3 runtime deployment network) {chain : Chain}
    (shaped : Shaped deployment.addresses chain.ledger)
    (accepted : accepts (processInstruction deployment.addresses chain.ledger
      dispatch.instruction))
    (plain : dispatch.Plain deployment slug chain) :
    poolBalance deployment.addresses (slugBytes slug)
        (chain.execute deployment.addresses dispatch.instruction).ledger =
      poolBalance deployment.addresses (slugBytes slug) chain.ledger +
        gain slug dispatch.posted := by
  obtain ⟨later, found⟩ := made.loaded
  obtain ⟨events, reported, built⟩ := made.submits.reported prints made.formed.nonempty made.single
    made.cached found made.pushed made.read
  have few : events.length ≤ 50 := by
    rw [reported.length_eq, ← made.read.calls.length_eq, length_calls made.pushed]
    exact made.formed.few.trans (by decide)
  obtain ⟨data, slots, tagged, carried, parsed⟩ := read_of_reported few reported built
  obtain ⟨⟨ledger, receipts⟩, accepted⟩ := accepted
  have settled : SettleBatch.process deployment.addresses dispatch.context chain.ledger
      dispatch.instruction.accounts data = .ok (ledger, receipts) := by
    have processed := accepted
    rw [processInstruction, Dispatch.instruction, tagged] at processed
    exact processed
  have plain' := plain.events
  rw [Dispatch.instruction, tagged, List.tail_cons] at plain'
  rw [Chain.execute, accepted]
  exact (plain'.balance shaped settled parsed).trans
    (congrArg _ (sum_expected reported carried plain.apart))

theorem Dispatch.Made.batchNetwork {dispatch : Dispatch}
    (made : dispatch.Made web3 runtime deployment network) :
    dispatch.posted.batchNetwork = network := by
  rw [Indexer.SettlementEventDto.batchNetwork, made.read.network, made.network]
  rfl

/-- What the indexer has recorded since the start and what is still posted for it are
what the chain's balance moved by. -/
structure Mirrors (deployment : Deployment) (network slug : String) (start state : State) :
    Prop where
  sound : Chain.Sound deployment.addresses state.chain
  named : ∀ dto ∈ state.posted, dto.batchNetwork = network
  moved : state.database.poolColumn (network, slug) .balance -
        start.database.poolColumn (network, slug) .balance +
      (state.posted.map (gain slug)).sum =
    poolBalance deployment.addresses (slugBytes slug) state.chain.ledger -
      poolBalance deployment.addresses (slugBytes slug) start.chain.ledger

theorem Mirrors.next (prints : Prints runtime)
    (plain : ∀ chain dispatch, condition chain dispatch →
      dispatch.Plain deployment slug chain)
    (mirrors : Mirrors deployment network slug start state)
    (next : Next web3 runtime deployment network semantics slug condition state after) :
    Mirrors deployment network slug start after := by
  have moved := mirrors.moved
  cases next with
  | @settle dispatch made accepted meets =>
      refine ⟨(Chain.Next.instruction _ made.unsigned).sound mirrors.sound, ?_, ?_⟩
      · exact List.forall_mem_cons.mpr ⟨made.batchNetwork, mirrors.named⟩
      · have balance := made.balance prints mirrors.sound.shaped accepted (plain _ _ meets)
        simp only [List.map_cons, List.sum_cons, balance]
        omega
  | @ingest front back dto result waiting accepted once =>
      have named : dto.batchNetwork = network := mirrors.named dto (by rw [waiting]; simp)
      have recorded := ingest_gain accepted once slug
      rw [named] at recorded
      refine ⟨mirrors.sound, fun other member => mirrors.named other ?_, ?_⟩
      · rw [waiting]
        simp only [List.mem_append, List.mem_cons] at member ⊢
        tauto
      · rw [waiting] at moved
        simp only [List.map_append, List.map_cons, List.sum_append, List.sum_cons] at moved ⊢
        omega
  | chain moves kept =>
      exact ⟨moves.sound mirrors.sound, mirrors.named, by rw [kept]; exact moved⟩
  | database kept =>
      exact ⟨mirrors.sound, mirrors.named, by rw [kept]; exact moved⟩

theorem mirrors_of_run (prints : Prints runtime)
    (reached : Chain.Reached deployment.addresses start.chain) (none : start.posted = [])
    (run : Relation.ReflTransGen (Next web3 runtime deployment network semantics slug
      fun chain dispatch => dispatch.Plain deployment slug chain) start state) :
    Mirrors deployment network slug start state := by
  induction run with
  | refl =>
      refine ⟨reached.sound, fun dto member => ?_, ?_⟩
      · rw [none] at member
        exact absurd member List.not_mem_nil
      · rw [none]
        simp
  | tail _ next ih => exact ih.next prints (fun _ _ meets => meets) next

/-- In a run of plain settlements, each posted and ingested once, the indexer's balance of
the pool moves as the chain's does. -/
theorem mirror_exact (prints : Prints runtime)
    (reached : Chain.Reached deployment.addresses start.chain) (none : start.posted = [])
    (run : Relation.ReflTransGen (Next web3 runtime deployment network semantics slug
      fun chain dispatch => dispatch.Plain deployment slug chain) start state)
    (ingested : state.posted = []) :
    state.database.poolColumn (network, slug) .balance -
        start.database.poolColumn (network, slug) .balance =
      poolBalance deployment.addresses (slugBytes slug) state.chain.ledger -
        poolBalance deployment.addresses (slugBytes slug) start.chain.ledger := by
  have moved := (mirrors_of_run prints reached none run).moved
  rw [ingested, List.map_nil, List.sum_nil, add_zero] at moved
  exact moved

end System

/-! ## A revoked approval -/

namespace MirrorDemo

open Settler.Batching Settler.Paths Settler.IndexerPusher
open PathDemo (key)

def agentAta : Address :=
  ⟨[242, 79, 173, 8, 114, 161, 27, 101, 41, 218, 162, 14, 88, 81, 131, 34, 236, 126, 31, 50, 189,
    21, 135, 20, 180, 57, 204, 54, 201, 196, 156, 152], rfl⟩

def web3 : Web3 :=
  { TransactionDemo.web3 with
    findAssociated owner mint :=
      if owner = key 0 ∧ mint = usdcMainnet then agentAta
      else TransactionDemo.web3.findAssociated owner mint }

def runtime : Settler.Runtime where
  bigInt text :=
    if text.toList.all Char.isDigit then some (Nat.ofDigitChars 10 text.toList 0) else none
  number _ := none
  dateParse _ := none

theorem runtime_prints : Prints runtime where
  number value result read := by
    have read : (if value.repr.toList.all Char.isDigit then
        some (Nat.ofDigitChars 10 value.repr.toList 0 : Int) else none) = some result := read
    rw [Int.repr_eq_if] at read
    by_cases whole : 0 ≤ value
    · rw [if_pos whole, Nat.toList_repr, Nat.ofDigitChars_ten_toDigits] at read
      split at read
      case isTrue =>
        cases read
        exact Int.toNat_of_nonneg whole
      case isFalse => cases read
    · rw [if_neg whole] at read
      simp at read
  bool value := by cases value <;> decide

def deployment : Deployment where
  programId := V1.programId
  usdcMint := usdcMainnet
  settler := SettleBatch.Demo.settler
  addresses := SettleBatch.Demo.addresses

def message : SettleMessage where
  id := "a"
  network := .string "solana-mainnet"
  data := { PathDemo.message with
    endpointSlug := .string "aaaaaaaaaaaaaaaa"
    timestamp := .number 50 }

def view : View where
  chain address := if (Demo.funded.ledger address).data = [] then none
    else some (Demo.funded.ledger address).data
  now := 0
  caches := ⟨fun _ => none, none⟩

theorem built : tokenAt Demo.funded.ledger agentAta = none ∧
    (loadEndpoint web3 deployment view.chain view.now "aaaaaaaaaaaaaaaa"
      view.caches).toOption.isSome ∧
    (submitLegacyDirect web3 runtime deployment view.chain view.now [message.data]
      view.caches).toOption.isSome := by
  decide +kernel

def opened (allowance : UInt64) : Chain where
  ledger := Function.update Demo.funded.ledger agentAta
    (SettleBatch.Demo.tokenAccount (SettleBatch.Demo.token (key 0) 5000 allowance))
  fees := Demo.funded.fees

theorem opened_reached (allowance : UInt64) :
    Chain.Reached deployment.addresses (opened allowance) := by
  refine Demo.funded_reached.next (.outside ⟨fun pda => ?_, ?_⟩)
  · have apart : SettleBatch.Demo.addresses.of pda ≠ agentAta := Demo.derived_ne (by decide) pda
    rw [Function.update_of_ne apart]
    exact ⟨rfl, rfl⟩
  · intro address token pda found exclusive
    have apart : address ≠ agentAta := by
      rintro rfl
      rw [built.1] at found
      cases found
    refine ⟨token, ?_, exclusive, Nat.le_refl _⟩
    rw [← found]
    exact tokenAt_congr (Function.update_of_ne apart _ _)

def shares : List Settler.RecipientShare :=
  [⟨0, "GgBaCs3NCBuZN12kCJgAW63ydqohFkHEdfdEXBPzLHq", 100⟩]

def call : Indexer.WrapCallEventDto where
  callId := "01234567-89ab-cdef-0123-456789abcdef"
  agentPubkey := "11111111111111111111111111111111"
  endpointSlug := "aaaaaaaaaaaaaaaa"
  premiumLamports := 1000
  refundLamports := 0
  latencyMs := 150
  outcome := .ok
  source := none
  verdictSource := none
  payee := none
  resource := none
  ts := 50
  settledAt := 7
  signature := "sig"
  shares := some [⟨0, "GgBaCs3NCBuZN12kCJgAW63ydqohFkHEdfdEXBPzLHq", 100⟩]
  network := some "solana-mainnet"

@[irreducible] def loaded : EndpointSnapshot × Caches := Option.get _ built.2.1

@[irreducible] def submitted :
    V1Client.TransactionInstruction × List (List Settler.RecipientShare) :=
  Option.get _ built.2.2

theorem loadEndpoint_eq : loadEndpoint web3 deployment view.chain view.now "aaaaaaaaaaaaaaaa"
    view.caches = .ok loaded := by
  unfold loaded
  exact toOption_eq_some.mp (Option.some_get built.2.1).symm

theorem submitLegacyDirect_eq : submitLegacyDirect web3 runtime deployment view.chain
    view.now [message.data] view.caches = .ok submitted := by
  unfold submitted
  exact toOption_eq_some.mp (Option.some_get built.2.2).symm

/-- The batch of the one message, on the direct path. -/
def dispatch : Dispatch where
  view := view
  batch := [message]
  slug := "aaaaaaaaaaaaaaaa"
  snap := loaded.1
  ix := submitted.1
  shares := submitted.2
  context := SettleBatch.Demo.context
  signature := "sig"
  settledAt := 7
  body := ⟨"sig", "solana-mainnet", 1, 1000, 0, 7, [pushedCall "sig" 7 message shares]⟩
  posted := ⟨"sig", 1, 1000, 0, 7, [call], some "solana-mainnet"⟩

/-- The one event as the program reads it, and its accounts. -/
def event : SettlementEvent :=
  { SettleBatch.Demo.event 0 1000 0 with
    callId := (Layout.bytes 16).decode
      [1, 35, 69, 103, 137, 171, 205, 239, 1, 35, 69, 103, 137, 171, 205, 239]
    agentOwner := key 0
    latencyMs := 150
    breach := 0 }

def accounts : EventAccounts where
  callRecord := SettleBatch.Demo.addresses.of (.callRecord event.callId)
  coveragePool := SettleBatch.Demo.addresses.of (.coveragePool SettleBatch.Demo.slug)
  poolVault := SettleBatch.Demo.vault
  endpointConfig := SettleBatch.Demo.addresses.of (.endpointConfig SettleBatch.Demo.slug)
  agentAta := agentAta
  feeAtas := [SettleBatch.Demo.treasuryVault]

theorem dispatch_sent :
    push runtime dispatch.signature dispatch.settledAt dispatch.batch dispatch.shares =
        .ok dispatch.body ∧
      dispatch.instruction.accounts = SettleBatch.Demo.fixed.toList ++ accounts.toList ∧
      dispatch.instruction.data = 10 :: SettleBatch.encodeEvents [event] ∧
      (Indexer.ingest .statement dispatch.posted .empty []).result = .ok ⟨1, [call]⟩ ∧
      Indexer.Database.empty.newCalls dispatch.posted.batchNetwork dispatch.posted.calls =
        dispatch.posted.calls := by
  decide +kernel

theorem dispatch_made :
    dispatch.Made web3 runtime deployment "solana-mainnet" where
  formed := by
    refine ⟨List.cons_ne_nil _ _, by decide, ⟨message.key, ?_⟩, ?_⟩
    · exact fun other member => List.mem_singleton.mp member ▸ rfl
    · intro other member
      rw [List.mem_singleton.mp member]
      exact ⟨1000, rfl, by decide⟩
  single data member := List.mem_singleton.mp member ▸ rfl
  cached := .empty
  loaded := ⟨loaded.2, loadEndpoint_eq⟩
  submits := .legacy submitLegacyDirect_eq
  pushed := dispatch_sent.1
  network := rfl
  read := {
    signature := rfl
    network := rfl
    batchSize := rfl
    totalPremiumsLamports := rfl
    totalRefundsLamports := rfl
    ts := rfl
    calls := .cons ⟨rfl, rfl, rfl, rfl, rfl, rfl, rfl, rfl⟩ .nil }
  unsigned := Demo.unsigned [] []

def start (allowance : UInt64) : State := ⟨opened allowance, .empty, []⟩

def finish (allowance : UInt64) : State where
  chain := (opened allowance).execute deployment.addresses dispatch.instruction
  database := (Indexer.ingest .statement dispatch.posted .empty []).database
  posted := []

theorem start_finish (allowance : UInt64) {condition : Chain → Dispatch → Prop}
    (accepted : accepts (processInstruction deployment.addresses (opened allowance).ledger
      dispatch.instruction)) (meets : condition (opened allowance) dispatch) :
    Relation.ReflTransGen (Next web3 runtime deployment "solana-mainnet" .statement
      "aaaaaaaaaaaaaaaa" condition) (start allowance) (finish allowance) := by
  obtain ⟨-, -, -, recorded, fresh⟩ := dispatch_sent
  exact .tail (.single (.settle dispatch_made accepted meets))
    (@Next.ingest _ _ _ _ _ _ _ ⟨_, _, [dispatch.posted]⟩ [] [] _ _ rfl recorded fresh)

theorem paid :
    accepts (processInstruction deployment.addresses (opened 5000).ledger dispatch.instruction) ∧
      SettleBatch.delegateOk ((opened 5000).ledger accounts.agentAta).data
        SettleBatch.Demo.fixed.settlementAuth event.premiumLamports = true ∧
      ((structAt CoveragePool.layout (opened 5000).ledger accounts.coveragePool).any
        fun pool =>
          (structAt EndpointConfig.layout (opened 5000).ledger accounts.endpointConfig).any
            fun endpoint => decide
              (((amounts (SettleBatch.feeShares event.premiumLamports
                  endpoint.recipients)).sum : Int) =
                  (cachedFees loaded.1.config event.premiumLamports.toNat).sum ∧
                event.refundLamports.toNat + (amounts (SettleBatch.feeShares event.premiumLamports
                    endpoint.recipients)).sum ≤
                  pool.currentBalance.toNat + event.premiumLamports.toNat)) = true := by
  decide +kernel

theorem event_plain : ∃ pool endpoint, Plain dispatch.context.now dispatch.snap.config
    SettleBatch.Demo.fixed event accounts pool endpoint (opened 5000).ledger := by
  obtain ⟨-, preflight, checks⟩ := paid
  obtain ⟨pool, poolFound, checks⟩ := (Option.any_eq_true _ _).mp checks
  obtain ⟨endpoint, endpointFound, checks⟩ := (Option.any_eq_true _ _).mp checks
  obtain ⟨fees, covered⟩ := of_decide_eq_true checks
  exact ⟨pool, endpoint, poolFound, endpointFound, preflight, fees, Nat.zero_le _, covered⟩

theorem opened_plain : dispatch.Plain deployment "aaaaaaaaaaaaaaaa" (opened 5000) where
  apart _ := rfl
  events := by
    obtain ⟨⟨ledger, receipts⟩, accepted⟩ := paid.1
    obtain ⟨-, listed, written, -⟩ := dispatch_sent
    rw [processInstruction, written] at accepted
    have settled : SettleBatch.process deployment.addresses dispatch.context (opened 5000).ledger
        dispatch.instruction.accounts (SettleBatch.encodeEvents [event]) =
        .ok (ledger, receipts) := accepted
    obtain ⟨fixed, rest, bump, events, taken, checked, parsed, progress, loop, -, -⟩ :=
      SettleBatch.process_eq_ok settled
    cases (SettleBatch.parseEvents_encodeEvents (by decide)).symm.trans parsed
    obtain ⟨later, stepped, -⟩ := foldlM_cons_eq_ok.mp loop
    obtain ⟨named, receipt, _, _, _, _, _, _, slots, appended, -, -⟩ :=
      SettleBatch.settleStep_spec stepped
    have tail : dispatch.instruction.data.tail = SettleBatch.encodeEvents [event] := by
      rw [written, List.tail_cons]
    rw [tail]
    refine ⟨fixed, rest, bump, [event], taken, checked, parsed, fun index inside => ?_⟩
    obtain rfl : index = 0 := Nat.lt_one_iff.mp inside
    refine ⟨_, later, rfl, stepped, named, receipt, slots, appended, fun _ => ?_⟩
    rw [listed] at taken
    cases taken
    obtain ⟨rfl, -⟩ := Prod.mk.inj (Except.ok.inj slots)
    exact event_plain

theorem mirror_exact_paid :
    (finish 5000).database.poolColumn ("solana-mainnet", "aaaaaaaaaaaaaaaa") .balance -
        (start 5000).database.poolColumn ("solana-mainnet", "aaaaaaaaaaaaaaaa") .balance =
      poolBalance deployment.addresses (slugBytes "aaaaaaaaaaaaaaaa")
          (finish 5000).chain.ledger -
        poolBalance deployment.addresses (slugBytes "aaaaaaaaaaaaaaaa") (start 5000).chain.ledger :=
  mirror_exact runtime_prints (opened_reached 5000) rfl
    (start_finish 5000 paid.1 opened_plain) rfl

/-- Without an approval the chain takes nothing, and the indexer adds a premium. -/
theorem unpaid_mirrored :
    ¬∀ (start state : State), Chain.Reached deployment.addresses start.chain → start.posted = [] →
      Relation.ReflTransGen (Next web3 runtime deployment "solana-mainnet" .statement
        "aaaaaaaaaaaaaaaa" fun _ _ => True) start state → state.posted = [] →
      state.database.poolColumn ("solana-mainnet", "aaaaaaaaaaaaaaaa") .balance -
          start.database.poolColumn ("solana-mainnet", "aaaaaaaaaaaaaaaa") .balance =
        poolBalance deployment.addresses (slugBytes "aaaaaaaaaaaaaaaa") state.chain.ledger -
          poolBalance deployment.addresses (slugBytes "aaaaaaaaaaaaaaaa") start.chain.ledger := by
  intro claim
  have moved : accepts (processInstruction deployment.addresses (opened 0).ledger
        dispatch.instruction) ∧
      (finish 0).database.poolColumn ("solana-mainnet", "aaaaaaaaaaaaaaaa") .balance = 900 ∧
      poolBalance deployment.addresses (slugBytes "aaaaaaaaaaaaaaaa")
        (finish 0).chain.ledger = 500 ∧
      poolBalance deployment.addresses (slugBytes "aaaaaaaaaaaaaaaa")
        (start 0).chain.ledger = 500 := by
    decide +kernel
  obtain ⟨accepted, recorded, kept, funded⟩ := moved
  have same := claim (start 0) (finish 0) (opened_reached 0) rfl (start_finish 0 accepted trivial)
    rfl
  have none : (start 0).database.poolColumn ("solana-mainnet", "aaaaaaaaaaaaaaaa") .balance = 0 :=
    rfl
  rw [recorded, none, kept, funded] at same
  exact absurd same (by decide)

end MirrorDemo

end PactNetwork.Mirror
