import PactNetwork.Settler.Admission
import PactNetwork.Solana.Transaction

/-!
# The size of a settlement

The transactions that both settle paths make of a batch, their accounts, and whether
they fit into a packet.
-/

set_option autoImplicit false

namespace PactNetwork.Settler.Paths

open Solana V1Client Batching
open Admission (Formed formed_of_sent)

/-! ## From instructions to a transaction -/

def mentioned (payer : Address) (instructions : List TransactionInstruction) : List Address :=
  payer :: instructions.flatMap fun ix => ix.programId :: ix.keys.map AccountMeta.pubkey

def signers (payer : Address) (instructions : List TransactionInstruction) : List Address :=
  payer :: instructions.flatMap fun ix =>
    (ix.keys.filter AccountMeta.isSigner).map AccountMeta.pubkey

/-- A transaction carries some instructions on behalf of its payer. -/
structure Compiles (payer : Address) (instructions : List TransactionInstruction)
    (transaction : Transaction) : Prop where
  listed : ∀ key, key ∈ transaction.message.accountKeys ↔ key ∈ mentioned payer instructions
  distinct : transaction.message.accountKeys.Nodup
  signed : transaction.signatures.length = (signers payer instructions).dedup.length
  compiled : List.Forall₂ (fun ix compiled =>
      transaction.message.accountKeys[compiled.programIdIndex.toNat]? = some ix.programId ∧
      List.Forall₂ (fun key index =>
        transaction.message.accountKeys[index.toNat]? = some key.pubkey) ix.keys compiled.accounts ∧
      compiled.data = ix.data) instructions transaction.message.instructions

/-- What the paths use of web3.js to make and sign a transaction. -/
structure Web3Transactions where
  computeBudgetProgram : Address
  setComputeUnitLimit : (units : Nat) → TransactionInstruction
  setComputeUnitPrice : (microLamports : Nat) → TransactionInstruction
  /-- `Transaction.add` and the compilation for a payer and a recent blockhash. -/
  compile : Address → Bytes 32 → List TransactionInstruction → Option Transaction
  limit_programId : ∀ units, (setComputeUnitLimit units).programId = computeBudgetProgram
  limit_keys : ∀ units, (setComputeUnitLimit units).keys = []
  limit_data : ∀ units, (setComputeUnitLimit units).data.length = 5
  price_programId : ∀ microLamports,
    (setComputeUnitPrice microLamports).programId = computeBudgetProgram
  price_keys : ∀ microLamports, (setComputeUnitPrice microLamports).keys = []
  price_data : ∀ microLamports, (setComputeUnitPrice microLamports).data.length = 9
  compiles : ∀ {payer blockhash instructions transaction},
    compile payer blockhash instructions = some transaction →
      Compiles payer instructions transaction
  /-- An index is a byte. -/
  compilable : ∀ payer blockhash instructions,
    (mentioned payer instructions).dedup.length ≤ 256 →
      (compile payer blockhash instructions).isSome

section Transactions

variable (library : Web3Transactions) (deployment : Deployment) (blockhash : Bytes 32)

def legacyTransaction (ix : TransactionInstruction) : Option Transaction :=
  library.compile deployment.settler blockhash
    [library.setComputeUnitLimit 1000000, library.setComputeUnitPrice 5000, ix]

/-- The transaction of `SolanaAdapter.submitSettleBatch`. -/
def adapterTransaction (ix : TransactionInstruction) : Option Transaction :=
  library.compile deployment.settler blockhash [ix]

end Transactions

/-! ## Accounts -/

section Accounts

variable (web3 : Web3) (deployment : Deployment)

/-- The accounts of a batch of one endpoint: programs that are called beside the
network's own, the fixed accounts, those of the endpoint, and two for each message. -/
def roster (programs : List Address) (hydrated : Hydrated) (batch : List Parsed) : List Address :=
  programs ++
    [deployment.settler, deployment.addresses.of .settlementAuthority, tokenProgram,
      systemProgram, deployment.addresses.of .protocolConfig, deployment.programId,
      hydrated.coveragePoolPda, hydrated.poolVault, hydrated.endpointConfigPda] ++
    hydrated.feeRecipientAtas ++
    batch.flatMap fun parsed =>
      [deployment.addresses.of (.callRecord parsed.callId),
        web3.findAssociated parsed.agentOwner deployment.usdcMint]

theorem mem_roster {programs : List Address} {hydrated : Hydrated} {batch : List Parsed}
    {key : Address} :
    key ∈ roster web3 deployment programs hydrated batch ↔
      key ∈ programs ∨
      key ∈ [deployment.settler, deployment.addresses.of .settlementAuthority, tokenProgram,
        systemProgram, deployment.addresses.of .protocolConfig] ∨
      key = deployment.programId ∨
      key ∈ [hydrated.coveragePoolPda, hydrated.poolVault, hydrated.endpointConfigPda] ∨
      key ∈ hydrated.feeRecipientAtas ∨
      key ∈ batch.flatMap fun parsed =>
        [deployment.addresses.of (.callRecord parsed.callId),
          web3.findAssociated parsed.agentOwner deployment.usdcMint] := by
  simp only [roster, List.mem_append, List.mem_cons, List.not_mem_nil, or_false, or_assoc]

theorem length_roster (programs : List Address) (hydrated : Hydrated) (batch : List Parsed) :
    (roster web3 deployment programs hydrated batch).length =
      programs.length + 9 + hydrated.feeRecipientAtas.length + 2 * batch.length := by
  have pairs : (batch.flatMap fun parsed =>
      [deployment.addresses.of (.callRecord parsed.callId),
        web3.findAssociated parsed.agentOwner deployment.usdcMint]).length = 2 * batch.length := by
    rw [List.length_flatMap]
    simp [Nat.mul_comm]
  rw [roster, List.length_append, List.length_append, List.length_append, pairs]
  rfl

def batchParams (slug : String) (hydrated : Hydrated) (batch : List Parsed) : SettleBatchParams :=
  settleBatchParams deployment
    (batch.map fun parsed => (parsed.event web3 deployment slug hydrated).1)
    (batch.map fun parsed => (parsed.event web3 deployment slug hydrated).2)

variable {web3 deployment} {slug : String} {hydrated : Hydrated} {batch : List Parsed}
  {ix : TransactionInstruction}

theorem built_shape (few : batch.length ≤ 50) (recipients : hydrated.feeRecipientAtas.length ≤ 8)
    (built : buildSettleBatchIx (batchParams web3 deployment slug hydrated batch) = .ok ix) :
    ix.programId = deployment.programId ∧
      ix.keys = fixedKeys deployment.settler (deployment.addresses.of .settlementAuthority)
          (deployment.addresses.of .protocolConfig) ++
        batch.flatMap (fun parsed => eventKeys (parsed.event web3 deployment slug hydrated).1
          (parsed.event web3 deployment slug hydrated).2) ∧
      ix.data.length = 3 + batch.length * settleEventBytes := by
  let p := batchParams web3 deployment slug hydrated batch
  have aligned : p.events.length = p.callRecordPdas.length := by
    simp [p, batchParams, settleBatchParams]
  have count : p.events.length = batch.length := by
    simp [p, batchParams, settleBatchParams]
  have member : ∀ pair ∈ p.events.zip p.callRecordPdas, pair.1 ∈ p.events :=
    fun pair inside => (List.of_mem_zip inside).1
  have sized : ∀ ev ∈ p.events, ev.feeRecipientAtas.length ≤ 8 := by
    intro ev inside
    obtain ⟨parsed, -, rfl⟩ := List.mem_map.mp inside
    exact recipients
  obtain ⟨slots, carried⟩ := carried_all
    (fun pair inside => Admission.inRange_of_build built _ (member pair inside))
    fun pair inside => Nat.lt_of_le_of_lt (sized _ (member pair inside)) (by decide)
  have slotted : slots.length = batch.length := by
    rw [← carried.length_eq, List.length_zip, ← aligned, Nat.min_self, count]
  have same := (carried.buildSettleBatchIx aligned (count ▸ few)).symm.trans built
  cases same
  refine ⟨rfl, ?_, ?_⟩
  · show _ ++ (List.zipWith eventKeys (batch.map _) (batch.map _)).flatten = _
    rw [List.zipWith_map, List.zipWith_self, List.flatMap_def]
    rfl
  · rw [V1.SettleBatch.encodeEvents, List.length_cons, List.length_append, length_leBytes,
      Layout.length_flatMap_encode, List.length_map, slotted]
    show 2 + batch.length * settleEventBytes + 1 = _
    omega

theorem mem_eventKeys {parsed : Parsed} {key : Address} :
    key ∈ (eventKeys (parsed.event web3 deployment slug hydrated).1
        (parsed.event web3 deployment slug hydrated).2).map AccountMeta.pubkey ↔
      key ∈ [deployment.addresses.of (.callRecord parsed.callId), hydrated.coveragePoolPda,
          hydrated.poolVault, hydrated.endpointConfigPda,
          web3.findAssociated parsed.agentOwner deployment.usdcMint] ++
        hydrated.feeRecipientAtas := by
  have same : (eventKeys (parsed.event web3 deployment slug hydrated).1
      (parsed.event web3 deployment slug hydrated).2).map AccountMeta.pubkey =
      [deployment.addresses.of (.callRecord parsed.callId), hydrated.coveragePoolPda,
          hydrated.poolVault, hydrated.endpointConfigPda,
          web3.findAssociated parsed.agentOwner deployment.usdcMint] ++
        hydrated.feeRecipientAtas := by
    rw [eventKeys, List.map_append, List.map_map]
    exact congrArg _ (List.map_id _)
  rw [same]

section Shaped

variable {others : List TransactionInstruction} {programs : List Address}
  (programId : ix.programId = deployment.programId)
  (keys : ix.keys = fixedKeys deployment.settler (deployment.addresses.of .settlementAuthority)
      (deployment.addresses.of .protocolConfig) ++
    batch.flatMap fun parsed => eventKeys (parsed.event web3 deployment slug hydrated).1
      (parsed.event web3 deployment slug hydrated).2)

include keys

theorem length_keys :
    ix.keys.length = 5 + batch.length * (5 + hydrated.feeRecipientAtas.length) := by
  have each : batch.map (fun parsed => (eventKeys (parsed.event web3 deployment slug hydrated).1
      (parsed.event web3 deployment slug hydrated).2).length) =
      batch.map fun _ => 5 + hydrated.feeRecipientAtas.length := by
    refine List.map_congr_left fun parsed _ => ?_
    rw [eventKeys, List.length_append, List.length_map]
    rfl
  rw [keys, List.length_append, List.length_flatMap, each, List.map_const',
    List.sum_replicate_nat]
  rfl

theorem signers_eq (plain : ∀ other ∈ others, other.keys = []) :
    (signers deployment.settler (others ++ [ix])).dedup = [deployment.settler] := by
  have unsigned : (batch.flatMap fun parsed =>
      eventKeys (parsed.event web3 deployment slug hydrated).1
        (parsed.event web3 deployment slug hydrated).2).filter AccountMeta.isSigner = [] := by
    refine List.filter_eq_nil_iff.mpr fun key member => ?_
    obtain ⟨parsed, -, listed⟩ := List.mem_flatMap.mp member
    cases List.mem_append.mp listed with
    | inl fixed =>
        simp only [List.mem_cons, List.not_mem_nil, or_false] at fixed
        rcases fixed with rfl | rfl | rfl | rfl | rfl <;> exact Bool.false_ne_true
    | inr recipient =>
        obtain ⟨fa, -, rfl⟩ := List.mem_map.mp recipient
        exact Bool.false_ne_true
  have silent : others.flatMap (fun ix =>
      (ix.keys.filter AccountMeta.isSigner).map AccountMeta.pubkey) = [] := by
    refine List.flatMap_eq_nil_iff.mpr fun other member => ?_
    rw [plain other member]
    rfl
  rw [signers, List.flatMap_append, silent, List.nil_append, List.flatMap_singleton, keys,
    List.filter_append, unsigned]
  simp [fixedKeys]

include programId

theorem mem_mentioned_iff (nonempty : batch ≠ []) (plain : ∀ other ∈ others, other.keys = [])
    (called : ∀ key, key ∈ programs ↔ ∃ other ∈ others, other.programId = key) (key : Address) :
    key ∈ mentioned deployment.settler (others ++ [ix]) ↔
      key ∈ roster web3 deployment programs hydrated batch := by
  have beside : key ∈ (others.flatMap fun ix => ix.programId :: ix.keys.map AccountMeta.pubkey) ↔
      key ∈ programs := by
    rw [called, List.mem_flatMap]
    refine exists_congr fun other => and_congr_right fun member => ?_
    rw [plain other member]
    simp [eq_comm]
  obtain ⟨first, rest, rfl⟩ := List.exists_cons_of_ne_nil nonempty
  have events : key ∈ ((first :: rest).flatMap fun parsed =>
        eventKeys (parsed.event web3 deployment slug hydrated).1
          (parsed.event web3 deployment slug hydrated).2).map AccountMeta.pubkey ↔
      key ∈ [hydrated.coveragePoolPda, hydrated.poolVault, hydrated.endpointConfigPda] ∨
        key ∈ hydrated.feeRecipientAtas ∨
        key ∈ (first :: rest).flatMap fun parsed =>
          [deployment.addresses.of (.callRecord parsed.callId),
            web3.findAssociated parsed.agentOwner deployment.usdcMint] := by
    rw [List.map_flatMap, List.mem_flatMap]
    simp only [mem_eventKeys, List.mem_append, List.mem_flatMap, List.mem_cons, List.not_mem_nil,
      or_false]
    constructor
    · rintro ⟨parsed, member, (same | same | same | same | same) | recipient⟩
      · exact .inr (.inr ⟨parsed, member, .inl same⟩)
      · exact .inl (.inl same)
      · exact .inl (.inr (.inl same))
      · exact .inl (.inr (.inr same))
      · exact .inr (.inr ⟨parsed, member, .inr same⟩)
      · exact .inr (.inl recipient)
    · rintro ((same | same | same) | recipient | ⟨parsed, member, same | same⟩)
      · exact ⟨first, .inl rfl, .inl (.inr (.inl same))⟩
      · exact ⟨first, .inl rfl, .inl (.inr (.inr (.inl same)))⟩
      · exact ⟨first, .inl rfl, .inl (.inr (.inr (.inr (.inl same))))⟩
      · exact ⟨first, .inl rfl, .inr recipient⟩
      · exact ⟨parsed, member, .inl (.inl same)⟩
      · exact ⟨parsed, member, .inl (.inr (.inr (.inr (.inr same))))⟩
  have fixed : (fixedKeys deployment.settler (deployment.addresses.of .settlementAuthority)
      (deployment.addresses.of .protocolConfig)).map AccountMeta.pubkey =
        [deployment.settler, deployment.addresses.of .settlementAuthority, tokenProgram,
          systemProgram, deployment.addresses.of .protocolConfig] := rfl
  have payer : key = deployment.settler → key ∈ [deployment.settler,
      deployment.addresses.of .settlementAuthority, tokenProgram, systemProgram,
      deployment.addresses.of .protocolConfig] := fun same => same ▸ List.mem_cons_self
  rw [mentioned, List.flatMap_append, List.flatMap_singleton, List.mem_cons, List.mem_append,
    beside, List.mem_cons, programId, keys, List.map_append, List.mem_append, events, fixed,
    mem_roster]
  constructor
  · rintro (same | called | own | base | endpoint | recipient | message)
    · exact .inr (.inl (payer same))
    · exact .inl called
    · exact .inr (.inr (.inl own))
    · exact .inr (.inl base)
    · exact .inr (.inr (.inr (.inl endpoint)))
    · exact .inr (.inr (.inr (.inr (.inl recipient))))
    · exact .inr (.inr (.inr (.inr (.inr message))))
  · rintro (called | base | own | others)
    · exact .inr (.inl called)
    · exact .inr (.inr (.inr (.inl base)))
    · exact .inr (.inr (.inl own))
    · exact .inr (.inr (.inr (.inr others)))

end Shaped

end Accounts

/-! ## Sizes -/

section Sizes

variable {web3 : Web3} {library : Web3Transactions} {deployment : Deployment}
  {blockhash : Bytes 32} {slug : String} {hydrated : Hydrated} {batch : List Parsed}
  {ix : TransactionInstruction} {transaction : Transaction}

theorem Compiles.sizes {payer : Address} {instructions : List TransactionInstruction}
    (compiles : Compiles payer instructions transaction)
    (short : ∀ ix ∈ instructions, ix.keys.length < 128) :
    transaction.message.instructions.map (fun compiled => compiled.serialize.length) =
      instructions.map fun ix =>
        2 + ix.keys.length + (compactU16 ix.data.length).length + ix.data.length := by
  have sized := (List.forall₂_and_left _ _).mpr ⟨short, compiles.compiled⟩
  refine (List.forall₂_eq_eq_eq ▸ List.forall₂_map_left_iff.mpr (List.forall₂_map_right_iff.mpr
    (sized.imp fun ix compiled both => ?_)) : _ = _).symm
  obtain ⟨short, -, accounts, data⟩ := both
  rw [CompiledInstruction.length_serialize (accounts.length_eq ▸ short), data, ← accounts.length_eq]

variable (built : buildSettleBatchIx (batchParams web3 deployment slug hydrated batch) = .ok ix)
  (nonempty : batch ≠ []) (few : batch.length ≤ maxBatchSize)
  (recipients : hydrated.feeRecipientAtas.length ≤ 8)

include built nonempty few recipients

theorem settlement_size {others : List TransactionInstruction} {programs : List Address}
    (plain : ∀ other ∈ others, other.keys = []) (small : others.length ≤ 2)
    (single : programs.length ≤ 1)
    (called : ∀ key, key ∈ programs ↔ ∃ other ∈ others, other.programId = key)
    (compiles : Compiles deployment.settler (others ++ [ix]) transaction) :
    transaction.serialize.length = 102 +
      (roster web3 deployment programs hydrated batch).dedup.length * 32 +
      ((others.map fun ix => 2 + (compactU16 ix.data.length).length + ix.data.length).sum +
        (10 + batch.length * (5 + hydrated.feeRecipientAtas.length) +
          (compactU16 (3 + batch.length * settleEventBytes)).length +
          batch.length * settleEventBytes)) := by
  have limit : maxBatchSize = 3 := rfl
  obtain ⟨programId, keys, data⟩ := built_shape (by omega) recipients built
  have wide : batch.length * (5 + hydrated.feeRecipientAtas.length) ≤ 3 * 13 :=
    Nat.mul_le_mul few (by omega)
  have counted := length_keys keys
  have accounts : transaction.message.accountKeys.length =
      (roster web3 deployment programs hydrated batch).dedup.length := by
    refine ((List.perm_ext_iff_of_nodup compiles.distinct (List.nodup_dedup _)).mpr
      fun key => ?_).length_eq
    rw [compiles.listed, List.mem_dedup]
    exact mem_mentioned_iff programId keys nonempty plain called key
  have bounded := (List.dedup_sublist (roster web3 deployment programs hydrated batch)).length_le
  rw [length_roster] at bounded
  have sized := compiles.sizes fun other member => by
    cases List.mem_append.mp member with
    | inl before =>
        rw [plain other before]
        decide
    | inr last =>
        rw [List.mem_singleton.mp last]
        omega
  have number : transaction.message.instructions.length = others.length + 1 := by
    rw [← compiles.compiled.length_eq, List.length_append, List.length_singleton]
  have before : others.map (fun ix =>
        2 + ix.keys.length + (compactU16 ix.data.length).length + ix.data.length) =
      others.map fun ix => 2 + (compactU16 ix.data.length).length + ix.data.length := by
    refine List.map_congr_left fun other member => ?_
    rw [plain other member]
    rfl
  rw [Transaction.length_serialize (compiles.signed.trans (congrArg List.length
      (signers_eq keys plain))) (by omega) (by omega), sized, accounts, List.map_append, before,
    List.sum_append, List.map_singleton, List.sum_singleton, counted, data]
  omega

theorem legacy_fits_iff (compiled : legacyTransaction library deployment blockhash ix =
    some transaction) :
    transaction.serialize.length ≤ Transaction.packetDataSize ↔
      ¬(batch.length = 3 ∧ hydrated.feeRecipientAtas.length = 8 ∧
        (roster web3 deployment [library.computeBudgetProgram] hydrated batch).Nodup) := by
  have limit : maxBatchSize = 3 := rfl
  have size := @settlement_size _ _ _ _ _ _ _ built nonempty few recipients
    [library.setComputeUnitLimit 1000000, library.setComputeUnitPrice 5000]
    [library.computeBudgetProgram] (by simp [library.limit_keys, library.price_keys])
    (Nat.le_refl 2) (Nat.le_refl 1)
    (by simp [library.limit_programId, library.price_programId, eq_comm])
    (library.compiles compiled)
  have counted := length_roster web3 deployment [library.computeBudgetProgram] hydrated batch
  have sublist := List.dedup_sublist
    (roster web3 deployment [library.computeBudgetProgram] hydrated batch)
  have full : (roster web3 deployment [library.computeBudgetProgram] hydrated batch).Nodup ↔
      (roster web3 deployment [library.computeBudgetProgram] hydrated batch).dedup.length =
        (roster web3 deployment [library.computeBudgetProgram] hydrated batch).length :=
    List.dedup_eq_self.symm.trans ⟨congrArg List.length, sublist.eq_of_length⟩
  have bounded := sublist.length_le
  have width : settleEventBytes = 104 := rfl
  have packet : Transaction.packetDataSize = 1232 := rfl
  have short : ∀ {value : Nat}, value < 128 → (compactU16 value).length = 1 :=
    length_compactU16_short
  have long : ∀ {value : Nat}, 128 ≤ value → value < 128 * 128 → (compactU16 value).length = 2 :=
    length_compactU16_long
  rw [List.length_singleton] at counted
  rw [full, size, packet]
  simp only [List.map_cons, List.map_nil, library.limit_data, library.price_data,
    short (show 5 < 128 by decide), short (show 9 < 128 by decide), List.sum_cons, List.sum_nil]
  have cases : batch.length = 1 ∨ batch.length = 2 ∨ batch.length = 3 := by
    have some_ := List.length_pos_iff.mpr nonempty
    omega
  rcases cases with one | two | three
  · rw [one, width, short (by decide)]
    omega
  · rw [two, width, long (by decide) (by decide)]
    omega
  · rw [three, width, long (by decide) (by decide)]
    omega

theorem adapter_fits (compiled : adapterTransaction library deployment blockhash ix =
    some transaction) : transaction.serialize.length ≤ Transaction.packetDataSize := by
  have limit : maxBatchSize = 3 := rfl
  have size := @settlement_size _ _ _ _ _ _ _ built nonempty few recipients [] []
    (by simp) (Nat.zero_le 2) (Nat.zero_le 1) (by simp) (library.compiles compiled)
  have counted := length_roster web3 deployment [] hydrated batch
  have bounded := (List.dedup_sublist (roster web3 deployment [] hydrated batch)).length_le
  have width : settleEventBytes = 104 := rfl
  have packet : Transaction.packetDataSize = 1232 := rfl
  have prefixed : (compactU16 (3 + batch.length * 104)).length ≤ 2 := by
    by_cases short : 3 + batch.length * 104 < 128
    · rw [length_compactU16_short short]
      decide
    · rw [length_compactU16_long (Nat.not_lt.mp short) (by omega)]
  have wide : batch.length * (5 + hydrated.feeRecipientAtas.length) ≤ 3 * 13 :=
    Nat.mul_le_mul few (by omega)
  rw [List.length_nil] at counted
  rw [size, packet, width, List.map_nil, List.sum_nil]
  omega

end Sizes

/-! ## What the caches hold -/

def Caches.invalidate (caches : Caches) (slugs : List String) : Caches where
  endpointCache slug := if slug ∈ slugs then none else caches.endpointCache slug
  treasuryVault := none

/-- The caches that loading, and dropping what was loaded, can leave. -/
inductive Cached (web3 : Web3) (deployment : Deployment) : Caches → Prop
  | empty : Cached web3 deployment ⟨fun _ => none, none⟩
  | endpoint {chain : Accounts} {now : Int} {slug : String} {caches later : Caches}
      {snap : EndpointSnapshot} (cached : Cached web3 deployment caches)
      (loaded : loadEndpoint web3 deployment chain now slug caches = .ok (snap, later)) :
      Cached web3 deployment later
  | treasury {chain : Accounts} {caches later : Caches} {vault : Address}
      (cached : Cached web3 deployment caches)
      (loaded : requireTreasuryVault web3 deployment chain caches = .ok (vault, later)) :
      Cached web3 deployment later
  | invalidated {caches : Caches} (slugs : List String) (cached : Cached web3 deployment caches) :
      Cached web3 deployment (caches.invalidate slugs)

section Loading

variable {web3 : Web3} {runtime : Runtime} {deployment : Deployment} {chain : Accounts} {now : Int}
  {slug : String} {caches later : Caches} {snap : EndpointSnapshot}

theorem counted_of_read (read : readEndpoint web3 deployment chain now slug = .ok snap) :
    snap.config.feeRecipientCount ≤ 8 := by
  simp only [readEndpoint, decodeEndpointConfig, needBytes, decodeFeeRecipientArray, bind_eq_ok,
    okOr_eq_ok, failIf_eq_ok, exists_const, Except.ok.injEq] at read
  obtain ⟨_, -, _, -, _, ⟨-, _, ⟨few, -⟩, rfl⟩, _, -, _, -, rfl⟩ := read
  exact Nat.le_of_not_lt few

theorem loadEndpoint_cases
    (loaded : loadEndpoint web3 deployment chain now slug caches = .ok (snap, later)) :
    (caches.endpointCache slug = some snap ∧ later = caches) ∨
      (readEndpoint web3 deployment chain now slug = .ok snap ∧
        later = { caches with
          endpointCache := Function.update caches.endpointCache slug (some snap) }) := by
  unfold loadEndpoint at loaded
  cases found : caches.fresh now slug with
  | some fresh =>
      rw [found] at loaded
      cases loaded
      exact .inl ⟨(Option.filter_eq_some_iff.mp found).1, rfl⟩
  | none =>
      rw [found] at loaded
      simp only [bind_eq_ok, Except.ok.injEq, Prod.mk.injEq] at loaded
      obtain ⟨snapshot, read, rfl, rfl⟩ := loaded
      exact .inr ⟨read, rfl⟩

theorem Cached.counted (cached : Cached web3 deployment caches)
    (stored : caches.endpointCache slug = some snap) : snap.config.feeRecipientCount ≤ 8 := by
  induction cached generalizing slug snap with
  | empty => cases stored
  | @endpoint _ _ other _ _ _ cached loaded ih =>
      cases loadEndpoint_cases loaded with
      | inl kept =>
          obtain ⟨-, rfl⟩ := kept
          exact ih stored
      | inr read =>
          obtain ⟨read, rfl⟩ := read
          by_cases same : slug = other
          · subst same
            cases (Function.update_self _ _ _).symm.trans stored
            exact counted_of_read read
          · exact ih ((Function.update_of_ne same _ _).symm.trans stored)
  | treasury cached loaded ih =>
      unfold requireTreasuryVault at loaded
      split at loaded
      case h_1 =>
        cases loaded
        exact ih stored
      case h_2 =>
        simp only [bind_eq_ok, Except.ok.injEq, Prod.mk.injEq] at loaded
        obtain ⟨_, -, -, rfl⟩ := loaded
        exact ih stored
  | invalidated slugs cached ih =>
      unfold Caches.invalidate at stored
      dsimp only at stored
      split at stored
      case isTrue => cases stored
      case isFalse => exact ih stored

theorem Cached.loaded (cached : Cached web3 deployment caches)
    (found : loadEndpoint web3 deployment chain now slug caches = .ok (snap, later)) :
    snap.config.feeRecipientCount ≤ 8 := by
  cases loadEndpoint_cases found with
  | inl kept => exact cached.counted kept.1
  | inr read => exact counted_of_read read.1

/-! ## Whom a batch pays -/

variable (web3 deployment chain) in
/-- The accounts of an endpoint's recipients, as the caches have the treasury's. -/
def recipientAtas (caches : Caches) (config : EndpointConfig) : Except ClientError (List Address) :=
  (config.feeRecipients.take config.feeRecipientCount).mapM fun recipient =>
    (resolveRecipient web3 deployment chain recipient caches).map Prod.fst

variable (web3 deployment chain) in
def PaysAs (caches later : Caches) : Prop :=
  ∀ recipient, (resolveRecipient web3 deployment chain recipient later).map Prod.fst =
    (resolveRecipient web3 deployment chain recipient caches).map Prod.fst

theorem PaysAs.recipientAtas (pays : PaysAs web3 deployment chain caches later)
    (config : EndpointConfig) :
    Paths.recipientAtas web3 deployment chain later config =
      Paths.recipientAtas web3 deployment chain caches config := by
  rw [Paths.recipientAtas, Paths.recipientAtas, funext pays]

theorem resolveRecipient_pays {recipient : FeeRecipient} {dest : Address}
    (resolved : resolveRecipient web3 deployment chain recipient caches = .ok (dest, later)) :
    PaysAs web3 deployment chain caches later := by
  intro other
  unfold resolveRecipient requireTreasuryVault at resolved
  split at resolved
  case isFalse =>
    simp only [bind_eq_ok, Except.ok.injEq, Prod.mk.injEq] at resolved
    obtain ⟨_, -, -, rfl⟩ := resolved
    rfl
  case isTrue =>
    split at resolved
    case h_1 =>
      cases resolved
      rfl
    case h_2 uncached =>
      simp only [bind_eq_ok, Except.ok.injEq, Prod.mk.injEq] at resolved
      obtain ⟨vault, loaded, rfl, rfl⟩ := resolved
      unfold resolveRecipient requireTreasuryVault
      split
      case isTrue =>
        rw [uncached, loaded]
        rfl
      case isFalse =>
        cases newPublicKey web3 other.destination <;> rfl

theorem feeShares_recipients {premium : Int} {recipients : List FeeRecipient}
    {shares : List RecipientShare}
    (paid : feeShares web3 deployment chain premium recipients caches = .ok (shares, later)) :
    ∃ dests, recipients.mapM (fun recipient =>
        (resolveRecipient web3 deployment chain recipient caches).map Prod.fst) = .ok dests ∧
      shares.map RecipientShare.pubkey = dests.map (fun dest => web3.toBase58 dest.toList) ∧
      PaysAs web3 deployment chain caches later := by
  induction recipients generalizing caches shares with
  | nil =>
      cases paid
      exact ⟨[], rfl, rfl, fun _ => rfl⟩
  | cons recipient recipients ih =>
      simp only [feeShares, bind_eq_ok, Prod.exists, Except.ok.injEq, Prod.mk.injEq] at paid
      obtain ⟨dest, middle, resolved, rest, _, others, rfl, rfl⟩ := paid
      have pays := resolveRecipient_pays resolved
      obtain ⟨dests, named, keys, later⟩ := ih others
      rw [funext pays] at named
      refine ⟨dest :: dests, ?_, by rw [List.map_cons, List.map_cons, keys],
        fun other => (later other).trans (pays other)⟩
      rw [List.mapM_cons, resolved, named]
      rfl

theorem legacyEvent_spec {snapshots : List (String × EndpointSnapshot)} {data : MessageData}
    {found : LegacyEvent} (single : extractSlug data = .ok slug)
    (looked : snapshots.lookup slug = some snap)
    (built : legacyEvent web3 runtime deployment chain snapshots data caches =
      .ok (found, later)) :
    ∃ parsed recipients, parse web3 runtime data = .ok parsed ∧
      recipientAtas web3 deployment chain caches snap.config = .ok recipients ∧
      (found.event, found.callRecordPda) =
        parsed.event web3 deployment slug (snap.hydrated recipients) ∧
      PaysAs web3 deployment chain caches later := by
  simp only [legacyEvent, single, looked, okOr_some, ok_bind, bind_eq_ok, Prod.exists,
    Except.ok.injEq, Prod.mk.injEq] at built
  obtain ⟨callId, named, agent, owned, premium, paid, refund, owed, latency, took, timestamp,
    stamped, shares, _, shared, atas, keyed, rfl, rfl⟩ := built
  simp only [computeFeeSharesForEvent, bind_eq_ok, failIf_eq_ok, exists_const] at shared
  obtain ⟨dests, resolved, keys, pays⟩ := feeShares_recipients shared.2
  cases keyed.symm.trans (newPublicKey_shares keys)
  refine ⟨⟨callId, agent, premium, refund, latency,
    breachFromOutcome (data.outcome.orElse (.string "ok")).toStr, timestamp⟩, atas, ?_, resolved,
    rfl, pays⟩
  simp only [parse, named, owned, paid, owed, took, stamped, ok_bind]

theorem legacyEvents_spec {snapshots : List (String × EndpointSnapshot)}
    {batch : List MessageData} {events : List LegacyEvent} {recipients : List Address}
    (single : ∀ data ∈ batch, extractSlug data = .ok slug)
    (looked : snapshots.lookup slug = some snap)
    (paid : recipientAtas web3 deployment chain caches snap.config = .ok recipients)
    (built : legacyEvents web3 runtime deployment chain snapshots batch caches =
      .ok (events, later)) :
    ∃ messages, List.Forall₂ (fun data parsed => parse web3 runtime data = .ok parsed) batch
        messages ∧
      events.map (fun event => (event.event, event.callRecordPda)) =
        messages.map fun parsed =>
          parsed.event web3 deployment slug (snap.hydrated recipients) := by
  induction batch generalizing caches events with
  | nil =>
      cases built
      exact ⟨[], .nil, rfl⟩
  | cons data batch ih =>
      simp only [legacyEvents, bind_eq_ok, Prod.exists, Except.ok.injEq, Prod.mk.injEq] at built
      obtain ⟨first, middle, one, rest, _, others, rfl, rfl⟩ := built
      obtain ⟨parsed, dests, read, resolved, event, pays⟩ :=
        legacyEvent_spec (single data List.mem_cons_self) looked one
      cases paid.symm.trans resolved
      obtain ⟨messages, later, mapped⟩ :=
        ih (fun other member => single other (List.mem_cons_of_mem _ member))
          ((pays.recipientAtas snap.config).trans paid) others
      refine ⟨parsed :: messages, .cons read later, ?_⟩
      rw [List.map_cons, List.map_cons, mapped, event]

variable (web3 runtime deployment chain now) in
structure Gathered (caches : Caches) (batch : List MessageData) (slug : String)
    (hydrated : Hydrated) (messages : List Parsed) : Prop where
  single : ∀ data ∈ batch, extractSlug data = .ok slug
  parsed : List.Forall₂ (fun data parsed => parse web3 runtime data = .ok parsed) batch messages
  hydrated : ∃ snap later recipients,
    loadEndpoint web3 deployment chain now slug caches = .ok (snap, later) ∧
      recipientAtas web3 deployment chain caches snap.config = .ok recipients ∧
      hydrated = snap.hydrated recipients

theorem legacy_gathered {batch : List MessageData} {ix : TransactionInstruction}
    {shares : List (List RecipientShare)} (nonempty : batch ≠ [])
    (single : ∀ data ∈ batch, extractSlug data = .ok slug)
    (submitted : submitLegacyDirect web3 runtime deployment chain now batch caches =
      .ok (ix, shares)) :
    ∃ hydrated messages,
      Gathered web3 runtime deployment chain now caches batch slug hydrated messages ∧
      buildSettleBatchIx (batchParams web3 deployment slug hydrated messages) = .ok ix := by
  obtain ⟨first, rest, rfl⟩ := List.exists_cons_of_ne_nil nonempty
  obtain ⟨snap, later, loaded⟩ : ∃ snap later,
      loadEndpoint web3 deployment chain now slug caches = .ok (snap, later) := by
    cases loaded : loadEndpoint web3 deployment chain now slug caches with
    | ok found => exact ⟨found.1, found.2, rfl⟩
    | error failure =>
        simp only [submitLegacyDirect, slugs_of_single single, ok_bind, List.length_cons,
          eraseDups_replicate, loadSnapshots, loaded] at submitted
        cases submitted
  simp only [submitLegacyDirect, slugs_of_single single, ok_bind, List.length_cons,
    eraseDups_replicate, loadSnapshots, loaded, bind_eq_ok, Prod.exists, Except.ok.injEq,
    Prod.mk.injEq] at submitted
  obtain ⟨events, _, collected, ix, built, rfl, -⟩ := submitted
  have looked : [(slug, snap)].lookup slug = some snap := by simp
  have same : PaysAs web3 deployment chain caches later := by
    intro recipient
    have vault : later.treasuryVault = caches.treasuryVault := by
      cases loadEndpoint_cases loaded with
      | inl kept => rw [kept.2]
      | inr read => rw [read.2]
    unfold resolveRecipient requireTreasuryVault
    rw [vault]
    split
    case isTrue =>
      split
      case h_1 => rfl
      case h_2 => cases loadTreasuryVault web3 deployment chain <;> rfl
    case isFalse => cases newPublicKey web3 recipient.destination <;> rfl
  obtain ⟨recipients, paid⟩ : ∃ recipients,
      recipientAtas web3 deployment chain later snap.config = .ok recipients := by
    simp only [legacyEvents, bind_eq_ok, Prod.exists] at collected
    obtain ⟨_, _, one, -⟩ := collected
    obtain ⟨_, recipients, -, resolved, -⟩ :=
      legacyEvent_spec (single first List.mem_cons_self) looked one
    exact ⟨recipients, resolved⟩
  obtain ⟨messages, parsed, mapped⟩ := legacyEvents_spec single looked paid collected
  refine ⟨snap.hydrated recipients, messages, ⟨single, parsed, snap, later, recipients, loaded,
    (same.recipientAtas snap.config).symm.trans paid, rfl⟩, ?_⟩
  have events_ : events.map LegacyEvent.event =
      messages.map fun parsed =>
        (parsed.event web3 deployment slug (snap.hydrated recipients)).1 := by
    have first := congrArg (List.map Prod.fst) mapped
    rwa [List.map_map, List.map_map] at first
  have records : events.map LegacyEvent.callRecordPda =
      messages.map fun parsed =>
        (parsed.event web3 deployment slug (snap.hydrated recipients)).2 := by
    have second := congrArg (List.map Prod.snd) mapped
    rwa [List.map_map, List.map_map] at second
  rw [events_, records] at built
  exact built

theorem adapter_gathered {batch : List MessageData} {ix : TransactionInstruction}
    (nonempty : batch ≠ []) (single : ∀ data ∈ batch, extractSlug data = .ok slug)
    (submitted : submitViaAdapter web3 runtime deployment chain now batch caches = .ok ix) :
    ∃ hydrated messages, hydrated.feeRecipientAtas.length ≤ 8 ∧
      messages.length = batch.length ∧
      buildSettleBatchIx (batchParams web3 deployment slug hydrated messages) = .ok ix := by
  obtain ⟨first, rest, rfl⟩ := List.exists_cons_of_ne_nil nonempty
  simp only [submitViaAdapter, submitSettleBatch, List.head?_cons, okOr_some, ok_bind,
    single first List.mem_cons_self, bind_eq_ok, mapM_eq_ok] at submitted
  obtain ⟨_, -, sent, mapped, hydrated, read, events, completed, built⟩ := submitted
  have few : hydrated.feeRecipientAtas.length ≤ 8 := by
    obtain ⟨snapshot, onChain, -, dests, paid, rfl⟩ := (@hydrate_iff _ _ _ now _ _).mp read
    simp only [payees, bind_eq_ok, failIf_eq_ok, exists_const, mapM_eq_ok] at paid
    have sized := paid.2.length_eq
    rw [List.length_take] at sized
    have counted := counted_of_read onChain
    simp only [EndpointSnapshot.hydrated]
    omega
  obtain ⟨messages, parsed, same⟩ := forall₂_comp.mpr
    ((forall₂_comp.mp ⟨sent, mapped, completed⟩).imp fun data event both =>
      (adapterEvent_iff.mp both).imp fun parsed found => ⟨found.1, found.2.2⟩)
  have events_ : messages.map (fun parsed => parsed.event web3 deployment slug hydrated) = events :=
    List.forall₂_eq_eq_eq ▸ List.forall₂_map_left_iff.mpr same
  refine ⟨hydrated, messages, few, parsed.length_eq.symm, ?_⟩
  rw [← events_, List.map_map, List.map_map] at built
  exact built

end Loading

/-! ## Batches in packets -/

section Batches

variable {web3 : Web3} {runtime : Runtime} {deployment : Deployment} {chain : Accounts} {now : Int}
  {caches : Caches} {blockhash : Bytes 32}

variable (web3 runtime deployment chain now) in
/-- Three messages about an endpoint with eight recipients, and no two of the accounts
that the transaction names are one. -/
def Overfull (library : Web3Transactions) (caches : Caches) (batch : List MessageData) : Prop :=
  ∃ slug hydrated messages,
    Gathered web3 runtime deployment chain now caches batch slug hydrated messages ∧
    batch.length = 3 ∧ hydrated.feeRecipientAtas.length = 8 ∧
    (roster web3 deployment [library.computeBudgetProgram] hydrated messages).Nodup

theorem Gathered.unique {batch : List MessageData} {slug slug' : String}
    {hydrated hydrated' : Hydrated} {messages messages' : List Parsed} (nonempty : batch ≠ [])
    (gathered : Gathered web3 runtime deployment chain now caches batch slug hydrated messages)
    (gathered' : Gathered web3 runtime deployment chain now caches batch slug' hydrated'
      messages') : hydrated' = hydrated ∧ messages' = messages := by
  obtain ⟨first, rest, rfl⟩ := List.exists_cons_of_ne_nil nonempty
  cases (gathered.single first List.mem_cons_self).symm.trans
    (gathered'.single first List.mem_cons_self)
  obtain ⟨snap, later, recipients, loaded, paid, rfl⟩ := gathered.hydrated
  obtain ⟨snap', later', recipients', loaded', paid', rfl⟩ := gathered'.hydrated
  cases loaded.symm.trans loaded'
  cases paid.symm.trans paid'
  exact ⟨rfl, Except.ok.inj
    ((mapM_eq_ok.mpr gathered'.parsed).symm.trans (mapM_eq_ok.mpr gathered.parsed))⟩

theorem compilable_of_built {library : Web3Transactions} {slug : String} {hydrated : Hydrated}
    {messages : List Parsed} {ix : TransactionInstruction}
    {others : List TransactionInstruction} {programs : List Address}
    (built : buildSettleBatchIx (batchParams web3 deployment slug hydrated messages) = .ok ix)
    (nonempty : messages ≠ []) (few : messages.length ≤ maxBatchSize)
    (recipients : hydrated.feeRecipientAtas.length ≤ 8)
    (plain : ∀ other ∈ others, other.keys = []) (single : programs.length ≤ 1)
    (called : ∀ key, key ∈ programs ↔ ∃ other ∈ others, other.programId = key) :
    ∃ transaction, library.compile deployment.settler blockhash (others ++ [ix]) =
      some transaction := by
  have limit : maxBatchSize = 3 := rfl
  obtain ⟨programId, keys, -⟩ := built_shape (by omega) recipients built
  have same : (mentioned deployment.settler (others ++ [ix])).dedup.Perm
      (roster web3 deployment programs hydrated messages).dedup :=
    (List.perm_ext_iff_of_nodup (List.nodup_dedup _) (List.nodup_dedup _)).mpr fun key => by
      rw [List.mem_dedup, List.mem_dedup]
      exact mem_mentioned_iff programId keys nonempty plain called key
  have bounded := (List.dedup_sublist (roster web3 deployment programs hydrated messages)).length_le
  rw [length_roster, ← same.length_eq] at bounded
  exact Option.isSome_iff_exists.mp (library.compilable _ _ _ (by omega))

/-- A batch that was sent out fits into a packet on the adapter path, and on the direct
path exactly if it is not overfull. -/
theorem batch_fits_iff (library : Web3Transactions)
    (cached : Cached web3 deployment caches) {world : World} (reached : Reached runtime world)
    {call : Call} (sent : call ∈ world.calls) :
    let batch := call.messages.map SettleMessage.data
    (∀ ix shares,
      submitLegacyDirect web3 runtime deployment chain now batch caches = .ok (ix, shares) →
        ∃ transaction, legacyTransaction library deployment blockhash ix = some transaction ∧
          (transaction.serialize.length ≤ Transaction.packetDataSize ↔
            ¬Overfull web3 runtime deployment chain now library caches batch)) ∧
    ∀ ix, submitViaAdapter web3 runtime deployment chain now batch caches = .ok ix →
      ∃ transaction, adapterTransaction library deployment blockhash ix = some transaction ∧
        transaction.serialize.length ≤ Transaction.packetDataSize := by
  intro batch
  have formed := formed_of_sent reached sent
  have nonempty : batch ≠ [] := fun empty => formed.nonempty (List.map_eq_nil_iff.mp empty)
  have few : batch.length ≤ maxBatchSize := by
    rw [List.length_map]
    exact formed.few
  obtain ⟨first, rest, listed⟩ := List.exists_cons_of_ne_nil formed.nonempty
  have member : first ∈ call.messages := listed ▸ List.mem_cons_self
  constructor
  · intro ix shares submitted
    obtain ⟨slug, named⟩ : ∃ slug, extractSlug first.data = .ok slug := by
      have read := (bind_eq_ok _ _ _).mp submitted
      obtain ⟨slugs, read, -⟩ := read
      exact accepts_of_mapM read (List.mem_map_of_mem member)
    have single := formed.single member named
    obtain ⟨hydrated, messages, gathered, built⟩ := legacy_gathered nonempty single submitted
    have length := gathered.parsed.length_eq
    have some_ : messages ≠ [] := by
      rintro rfl
      exact nonempty (List.length_eq_zero_iff.mp length)
    have recipients : hydrated.feeRecipientAtas.length ≤ 8 := by
      obtain ⟨snap, later, recipients, loaded, paid, rfl⟩ := gathered.hydrated
      have sized := (mapM_eq_ok.mp paid).length_eq
      have counted := cached.loaded loaded
      rw [List.length_take] at sized
      simp only [EndpointSnapshot.hydrated]
      omega
    obtain ⟨transaction, compiled⟩ := @compilable_of_built web3 deployment blockhash library slug
      hydrated messages ix [library.setComputeUnitLimit 1000000, library.setComputeUnitPrice 5000]
      [library.computeBudgetProgram] built some_ (length ▸ few) recipients
      (by simp [library.limit_keys, library.price_keys]) (Nat.le_refl 1)
      (by simp [library.limit_programId, library.price_programId, eq_comm])
    refine ⟨transaction, compiled, ?_⟩
    rw [legacy_fits_iff built some_ (length ▸ few) recipients compiled, not_iff_not]
    constructor
    · rintro ⟨three, eight, apart⟩
      exact ⟨slug, hydrated, messages, gathered, length.trans three, eight, apart⟩
    · rintro ⟨slug', hydrated', messages', gathered', three, eight, apart⟩
      obtain ⟨rfl, rfl⟩ := gathered.unique nonempty gathered'
      exact ⟨length.symm.trans three, eight, apart⟩
  · intro ix submitted
    obtain ⟨slug, named⟩ : ∃ slug, extractSlug first.data = .ok slug := by
      have read := (bind_eq_ok _ _ _).mp submitted
      obtain ⟨head, found, read⟩ := read
      obtain ⟨slug, named, -⟩ := (bind_eq_ok _ _ _).mp read
      have same : head = first.data := by
        have found := (okOr_eq_ok _ _ _).mp found
        rw [List.head?_map, listed] at found
        exact (Option.some.inj found).symm
      exact ⟨slug, same ▸ named⟩
    obtain ⟨hydrated, messages, recipients, length, built⟩ :=
      adapter_gathered nonempty (formed.single member named) submitted
    have some_ : messages ≠ [] := by
      rintro rfl
      exact nonempty (List.length_eq_zero_iff.mp length.symm)
    obtain ⟨transaction, compiled⟩ := @compilable_of_built web3 deployment blockhash library slug
      hydrated messages ix [] [] built some_ (length ▸ few) recipients (by simp) (Nat.zero_le 1)
      (by simp)
    exact ⟨transaction, compiled, adapter_fits built some_ (length ▸ few) recipients compiled⟩

end Batches

namespace TransactionDemo

open PathDemo (key zeros)

/-! ### Keys and transactions to evaluate with -/

def base58 : List (Address × Pubkey) :=
  [(key 0, "11111111111111111111111111111111"),
    (key 1, "4vJ9JU1bJJE96FWSJKvHsmmFADCg4gpZQff4P3bkLKi"),
    (key 2, "8qbHbw2BbbTHBW1sbeqakYXVKRQM8Ne7pLK7m6CVfeR"),
    (key 3, "CktRuQ2mttgRGkXJtyksdKHjUdc2C4TgDzyB98oEzy8"),
    (key 4, "GgBaCs3NCBuZN12kCJgAW63ydqohFkHEdfdEXBPzLHq"),
    (key 5, "LbUiWL3xVV8hTFYBVdbTNrpDo41NKS6o3LHHuDzjfcY"),
    (key 6, "QWmroo4YnnMqYW3cnxWkFdaTxGD3P7vMSzwMHGbUzwF"),
    (key 7, "US517G5965aydkZ46HS38QLi7UQiSojurfbQfKCELFx"),
    (key 8, "YMN9Qj5jPNp7j14VPcML1B6xGgcPWVZUGLFU3Mnyfaf"),
    (key 9, "cGfHiC6Kgg3FpFZvgwGcswsCRtp4aBP2fzuXRQPizuN"),
    (key 10, "gBxS1f6uyyGPuW5MzGBukidSb71jdsCb5fZaoSzULE5"),
    (key 11, "k7FaK87WHGVXzkaoHb7CdVPgkKDQhZ29VLDeBVbDfYn"),
    (key 12, "p2Yicb86aZig616Eav2VWG9vuXR5mEqhtzshZYBxzsV")]

def toBase58 (bytes : List UInt8) : Pubkey :=
  match base58.find? (fun entry => entry.1.toList = bytes) with
  | some entry => entry.2
  | none => PathDemo.toBase58 bytes

def publicKey (text : String) : Option Address :=
  match base58.find? (fun entry => entry.2 = text) with
  | some entry => some entry.1
  | none => PathDemo.publicKey text

theorem find_name : ∀ entry ∈ base58,
    base58.find? (fun other => other.2 = entry.2) = some entry := by
  decide +kernel

theorem find_known : ∀ entry ∈ PathDemo.base58, entry ∈ base58 := by
  decide +kernel

theorem short_name : ∀ entry ∈ base58, entry.2.length < 64 := by
  decide +kernel

theorem publicKey_toBase58 (address : Address) :
    publicKey (toBase58 address.toList) = some address := by
  unfold toBase58
  cases found : base58.find? (fun entry => entry.1.toList = address.toList) with
  | some entry =>
      have same : entry.1.toList = address.toList := by simpa using List.find?_some found
      unfold publicKey
      rw [find_name entry (List.mem_of_find?_eq_some found)]
      exact congrArg some (Bytes.toList_inj.mp same)
  | none =>
      have unknown : PathDemo.base58.find? (fun entry => entry.1.toList = address.toList) = none :=
        List.find?_eq_none.mpr fun entry member =>
          List.find?_eq_none.mp found entry (find_known entry member)
      have spelled : PathDemo.toBase58 address.toList =
          String.ofList (address.toList.flatMap byteHex) := by
        rw [PathDemo.toBase58, unknown]
      have fresh : base58.find? (fun entry => entry.2 = PathDemo.toBase58 address.toList) =
          none := by
        rw [List.find?_eq_none]
        intro entry member same
        have short := short_name entry member
        rw [of_decide_eq_true same, spelled] at short
        simp [byteHex, List.length_flatMap] at short
      dsimp only [publicKey]
      rw [fresh]
      exact PathDemo.publicKey_toBase58 address

def findAssociated (owner mint : Address) : Address :=
  if owner = key 0 then PathDemo.web3.findAssociated owner mint
  else if owner = key 1 then
    ⟨[115, 146, 124, 209, 161, 162, 238, 107, 59, 130, 143, 137, 180, 0, 217, 34, 116, 160,
    159, 164, 45, 180, 165, 174, 195, 56, 108, 207, 175, 173, 86, 48], rfl⟩
  else
    ⟨[7, 202, 232, 196, 30, 117, 77, 113, 74, 113, 32, 123, 120, 204, 61, 102, 26, 30, 137,
    228, 67, 221, 199, 234, 210, 246, 119, 164, 2, 166, 49, 152], rfl⟩

def web3 : Web3 where
  publicKey := publicKey
  toBase58 := toBase58
  isOnCurve address := [0, 1, 3, 6, 9, 10, 11, 12].any fun byte => address = key byte
  findAssociated := findAssociated
  publicKey_toBase58 := publicKey_toBase58

def computeBudget : Address :=
  ⟨[3, 6, 70, 111, 229, 33, 23, 50, 255, 236, 173, 186, 114, 195, 155, 231, 188, 140, 229, 187, 197,
    247, 18, 107, 44, 67, 155, 58, 64, 0, 0, 0], rfl⟩

def writable (payer : Address) (instructions : List TransactionInstruction) (key : Address) :
    Bool :=
  key = payer || instructions.any fun ix => ix.keys.any fun other =>
    other.isWritable && other.pubkey = key

/-- The payer, the other accounts that are written, and those that are only read. -/
def accountKeys (payer : Address) (instructions : List TransactionInstruction) : List Address :=
  let keys := payer :: (mentioned payer instructions).dedup.erase payer
  keys.filter (writable payer instructions) ++
    keys.filter fun key => !writable payer instructions key

def indexOf (keys : List Address) (key : Address) : UInt8 := UInt8.ofNat (keys.idxOf key)

def compile (payer : Address) (blockhash : Bytes 32) (instructions : List TransactionInstruction) :
    Option Transaction :=
  let keys := accountKeys payer instructions
  let signing := (signers payer instructions).dedup
  if keys.length ≤ 256 then
    some ⟨signing.map fun _ => zeros 64,
      { numRequiredSignatures := UInt8.ofNat signing.length
        numReadonlySignedAccounts := UInt8.ofNat
          (signing.filter fun key => !writable payer instructions key).length
        numReadonlyUnsignedAccounts := UInt8.ofNat
          (keys.filter fun key =>
            !writable payer instructions key && !signing.any (· = key)).length
        accountKeys := keys
        recentBlockhash := blockhash
        instructions := instructions.map fun ix =>
          ⟨indexOf keys ix.programId, ix.keys.map fun key => indexOf keys key.pubkey, ix.data⟩ }⟩
  else none

theorem accountKeys_perm (payer : Address) (instructions : List TransactionInstruction) :
    (accountKeys payer instructions).Perm (mentioned payer instructions).dedup := by
  have present : payer ∈ (mentioned payer instructions).dedup :=
    List.mem_dedup.mpr List.mem_cons_self
  exact (List.filter_append_perm _ _).trans (List.perm_cons_erase present).symm

theorem get_indexOf {keys : List Address} {key : Address} (member : key ∈ keys)
    (few : keys.length ≤ 256) : keys[(indexOf keys key).toNat]? = some key := by
  have inside := List.idxOf_lt_length_of_mem member
  have bytes : UInt8.size = 256 := rfl
  rw [indexOf, UInt8.toNat_ofNat_of_lt' (by omega), List.getElem?_eq_getElem inside,
    List.getElem_idxOf]

theorem compile_compiles {payer : Address} {blockhash : Bytes 32}
    {instructions : List TransactionInstruction} {transaction : Transaction}
    (compiled : compile payer blockhash instructions = some transaction) :
    Compiles payer instructions transaction := by
  have perm := accountKeys_perm payer instructions
  have listed : ∀ key, key ∈ accountKeys payer instructions ↔ key ∈ mentioned payer instructions :=
    fun key => perm.mem_iff.trans List.mem_dedup
  unfold compile at compiled
  dsimp only at compiled
  split at compiled
  case isFalse => cases compiled
  case isTrue few =>
    cases compiled
    refine ⟨listed, perm.nodup_iff.mpr (List.nodup_dedup _), List.length_map _, ?_⟩
    refine List.forall₂_map_right_iff.mpr (List.forall₂_same.mpr fun ix member => ⟨?_, ?_, rfl⟩)
    · refine get_indexOf ((listed _).mpr (List.mem_cons_of_mem _ ?_)) few
      exact List.mem_flatMap.mpr ⟨ix, member, List.mem_cons_self⟩
    · refine List.forall₂_map_right_iff.mpr (List.forall₂_same.mpr fun key inside => ?_)
      refine get_indexOf ((listed _).mpr (List.mem_cons_of_mem _ ?_)) few
      exact List.mem_flatMap.mpr
        ⟨ix, member, List.mem_cons_of_mem _ (List.mem_map_of_mem inside)⟩

def library : Web3Transactions where
  computeBudgetProgram := computeBudget
  setComputeUnitLimit units := ⟨computeBudget, [], 2 :: leBytes 4 units⟩
  setComputeUnitPrice microLamports := ⟨computeBudget, [], 3 :: leBytes 8 microLamports⟩
  compile := compile
  limit_programId _ := rfl
  limit_keys _ := rfl
  limit_data units := by rw [List.length_cons, length_leBytes]
  price_programId _ := rfl
  price_keys _ := rfl
  price_data microLamports := by rw [List.length_cons, length_leBytes]
  compiles := compile_compiles
  compilable payer blockhash instructions few := by
    rw [← (accountKeys_perm payer instructions).length_eq] at few
    rw [compile, if_pos few]
    rfl

/-! ### Three messages -/

def affiliate (byte : UInt8) : V1.FeeRecipient := ⟨1, zeros 7, key byte, 100, zeros 6⟩

def endpoint : V1.EndpointConfig :=
  { PathDemo.endpoint 0 8 with
    feeRecipients := ⟨PathDemo.treasuryRecipient :: [5, 6, 7, 8, 10, 11, 12].map affiliate, rfl⟩ }

def message (id callId agent : String) : SettleMessage where
  id := id
  network := .undefined
  data := { PathDemo.message with
    callId := .string callId
    agentPubkey := .string agent }

def messages : List SettleMessage :=
  [message "a" "00000000-0000-0000-0000-000000000001" "11111111111111111111111111111111",
    message "b" "00000000-0000-0000-0000-000000000002"
      "4vJ9JU1bJJE96FWSJKvHsmmFADCg4gpZQff4P3bkLKi",
    message "c" "00000000-0000-0000-0000-000000000003"
      "cGfHiC6Kgg3FpFZvgwGcswsCRtp4aBP2fzuXRQPizuN"]

def world : World :=
  (.setFlushCallback :: messages.map Turn.push).foldl (Turn.apply PathDemo.runtime)
    World.constructed

theorem world_reached : Reached PathDemo.runtime world :=
  Reachable.replay _ (.start rfl) ⟨trivial, trivial, trivial, trivial, trivial⟩

theorem sent : Call.mk messages none ∈ world.calls := by decide +kernel

def caches : Caches := ⟨fun _ => none, none⟩

def chain : Accounts := PathDemo.chain endpoint

/-- The direct path's transaction of the three is too large for a packet. -/
theorem crowded_exceeds :
    ¬∀ world call caches chain now ix shares transaction, Reached PathDemo.runtime world →
      call ∈ world.calls → Cached web3 PathDemo.deployment caches →
      submitLegacyDirect web3 PathDemo.runtime PathDemo.deployment chain now
          (call.messages.map SettleMessage.data) caches = .ok (ix, shares) →
        legacyTransaction library PathDemo.deployment (zeros 32) ix = some transaction →
          transaction.serialize.length ≤ Transaction.packetDataSize := by
  intro fits
  have size : ((submitLegacyDirect web3 PathDemo.runtime PathDemo.deployment chain 0
      (messages.map SettleMessage.data) caches).toOption.bind fun sent =>
        (legacyTransaction library PathDemo.deployment (zeros 32) sent.1).map fun transaction =>
          transaction.serialize.length) = some 1253 := by decide +kernel
  cases submitted : submitLegacyDirect web3 PathDemo.runtime PathDemo.deployment chain 0
      (messages.map SettleMessage.data) caches with
  | error failure =>
      rw [submitted] at size
      cases size
  | ok built =>
      obtain ⟨ix, shares⟩ := built
      rw [submitted] at size
      obtain ⟨transaction, compiled, long⟩ := Option.map_eq_some_iff.mp size
      have short := fits world _ caches chain 0 ix shares transaction world_reached sent .empty
        submitted compiled
      rw [long] at short
      revert short
      decide

/-- The adapter path's transaction of the same three fits. -/
theorem batch_fits_adapter : ∃ ix transaction,
    submitViaAdapter web3 PathDemo.runtime PathDemo.deployment chain 0
        (messages.map SettleMessage.data) caches = .ok ix ∧
      adapterTransaction library PathDemo.deployment (zeros 32) ix = some transaction ∧
      transaction.serialize.length ≤ Transaction.packetDataSize := by
  have fits := (@batch_fits_iff web3 PathDemo.runtime PathDemo.deployment chain 0 caches (zeros 32)
    library .empty world world_reached _ sent).2
  have built : (submitViaAdapter web3 PathDemo.runtime PathDemo.deployment chain 0
      (messages.map SettleMessage.data) caches).isOk = true := by decide +kernel
  cases submitted : submitViaAdapter web3 PathDemo.runtime PathDemo.deployment chain 0
      (messages.map SettleMessage.data) caches with
  | error failure =>
      rw [submitted] at built
      cases built
  | ok ix =>
      obtain ⟨transaction, compiled, small⟩ := fits ix submitted
      exact ⟨ix, transaction, rfl, compiled, small⟩

end TransactionDemo

end PactNetwork.Settler.Paths
