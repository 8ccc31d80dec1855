import PactNetwork.V1Client.State

/-!
# The client reads the program's accounts

Every decoder returns, field by field, the struct whose bytes it is given.
-/

set_option autoImplicit false

namespace PactNetwork.V1Client

open Solana

/-! ## Reading fields -/

/-- Bytes that are fields of known sizes, one after another. -/
structure Fields (bytes : List UInt8) (parts : List (List UInt8)) (sizes : List Nat) : Prop where
  flatten : bytes = parts.flatten
  lengths : parts.map List.length = sizes

namespace Fields

variable {bytes part : List UInt8} {parts : List (List UInt8)} {sizes : List Nat}
  {offset width : Nat}

theorem slice (fields : Fields bytes parts sizes) (index : Nat) (here : parts[index]? = some part)
    (place : (sizes.take index).sum = offset) (wide : sizes[index]? = some width) :
    slice bytes offset width = part := by
  have length : part.length = width := by
    rw [← fields.lengths, List.getElem?_map, here] at wide
    exact Option.some.inj wide
  rw [fields.flatten, ← length]
  refine slice_flatten here ?_
  rw [List.map_take, fields.lengths, place]

theorem uint (fields : Fields bytes parts sizes) (index : Nat) {number : Nat}
    (here : parts[index]? = some (leBytes width number))
    (place : (sizes.take index).sum = offset) (wide : sizes[index]? = some width)
    (small : number < 256 ^ width) : getUint width bytes offset = number := by
  rw [getUint, fields.slice index here place wide, leNat_leBytes, Nat.mod_eq_of_lt small]

theorem bigint (fields : Fields bytes parts sizes) (index : Nat) {number : UInt64}
    (here : parts[index]? = some (leBytes 8 number.toNat))
    (place : (sizes.take index).sum = offset) (wide : sizes[index]? = some 8) :
    (getUint 8 bytes offset : Int) = number.toNat :=
  congrArg Nat.cast (fields.uint index here place wide number.toNat_lt)

theorem int (fields : Fields bytes parts sizes) (index : Nat) {number : Int64}
    (here : parts[index]? = some (leBytes 8 number.toUInt64.toNat))
    (place : (sizes.take index).sum = offset) (wide : sizes[index]? = some 8) :
    getBigInt64 bytes offset = number.toInt := by
  have signed : number.toInt = if 2 * number.toUInt64.toNat < 2 ^ 64
      then (number.toUInt64.toNat : Int) else number.toUInt64.toNat - 2 ^ 64 :=
    BitVec.toInt_eq_toNat_cond number.toBitVec
  unfold getBigInt64
  dsimp only
  rw [fields.uint index here place wide number.toUInt64.toNat_lt, signed]
  split <;> split <;> omega

theorem pubkey (fields : Fields bytes parts sizes) (toBase58 : List UInt8 → Pubkey) (index : Nat)
    (here : parts[index]? = some part) (place : (sizes.take index).sum = offset)
    (wide : sizes[index]? = some 32) : readPubkey toBase58 bytes offset = toBase58 part :=
  congrArg toBase58 (fields.slice index here place wide)

end Fields

/-! ## The recipients -/

section Recipients

variable (toBase58 : List UInt8 → Pubkey)

def FeeRecipient.ofProgram (entry : V1.FeeRecipient) : FeeRecipient where
  kind := entry.kind.toNat
  destination := toBase58 entry.destination.toList
  bps := entry.bps.toNat

theorem decodeFeeRecipient_eq {bytes : List UInt8} {offset : Nat} {entry : V1.FeeRecipient}
    (here : slice bytes offset feeRecipientLen = V1.FeeRecipient.layout.encode entry)
    (known : entry.kind.toNat ≤ 2) :
    decodeFeeRecipient toBase58 bytes offset = .ok (FeeRecipient.ofProgram toBase58 entry) := by
  have fields : Fields (slice bytes offset feeRecipientLen) [leBytes 1 entry.kind.toNat,
      entry.pad0.toList, entry.destination.toList, leBytes 2 entry.bps.toNat, entry.pad1.toList]
      [1, 7, 32, 2, 6] := by
    constructor
    · rw [here]
      simp only [List.flatten_cons, List.flatten_nil, List.append_nil]
      rfl
    · simp
  have long : offset + feeRecipientLen ≤ bytes.length :=
    le_length_of_slice (by rw [here, Layout.length_encode]; rfl) (by decide)
  have kind : getUint 1 bytes offset = entry.kind.toNat := by
    have read := fields.uint 0 rfl rfl rfl entry.kind.toNat_lt
    rwa [getUint, slice_slice (by decide)] at read
  have destination : slice bytes (offset + 8) 32 = entry.destination.toList := by
    have read := fields.slice 2 rfl rfl rfl
    rwa [slice_slice (by decide)] at read
  have bps : getUint 2 bytes (offset + 40) = entry.bps.toNat := by
    have read := fields.uint 3 rfl rfl rfl entry.bps.toNat_lt
    rwa [getUint, slice_slice (by decide)] at read
  unfold decodeFeeRecipient
  rw [failIf_of_not (Nat.not_lt.mpr long), ok_bind]
  dsimp only
  rw [kind, failIf_of_not (Nat.not_lt.mpr known), ok_bind, readPubkey, destination, bps]
  rfl

/-- At most eight recipients, each of a known kind. -/
structure ValidRecipients (count : UInt8) (recipients : V1.FeeRecipients) : Prop where
  few : count.toNat ≤ 8
  known : ∀ entry ∈ recipients.toList.take count.toNat,
    ∃ kind : V1.FeeRecipientKind, entry.kind = kind.toU8

theorem mapM_range' {ε β : Type} (read : Nat → Except ε β) {values : List β} (start : Nat)
    (each : ∀ i (below : i < values.length), read (start + i) = .ok values[i]) :
    (List.range' start values.length).mapM read = .ok values := by
  induction values generalizing start with
  | nil => rfl
  | cons value values ih =>
      have first : read start = .ok value := each 0 (Nat.zero_lt_succ _)
      have others := ih (start + 1) fun i below => by
        rw [Nat.add_assoc, Nat.add_comm 1 i]
        exact each (i + 1) (Nat.succ_lt_succ below)
      rw [List.length_cons, List.range'_succ, List.mapM_cons, first, others]
      rfl

theorem decodeFeeRecipientArray_eq {bytes : List UInt8} {base : Nat} {count : UInt8}
    {recipients : V1.FeeRecipients}
    (here : slice bytes base 384 = V1.feeRecipientsLayout.encode recipients)
    (valid : ValidRecipients count recipients) :
    decodeFeeRecipientArray toBase58 bytes base count.toNat =
      .ok ((recipients.toList.take count.toNat).map (FeeRecipient.ofProgram toBase58)) := by
  have few := valid.few
  have length : ((recipients.toList.take count.toNat).map
      (FeeRecipient.ofProgram toBase58)).length = count.toNat := by
    rw [List.length_map, List.length_take, List.Vector.toList_length, Nat.min_eq_left few]
  have each : ∀ i (below : i < ((recipients.toList.take count.toNat).map
      (FeeRecipient.ofProgram toBase58)).length),
      decodeFeeRecipient toBase58 bytes (base + (0 + i) * feeRecipientLen) =
        .ok ((recipients.toList.take count.toNat).map (FeeRecipient.ofProgram toBase58))[i] := by
    intro i below
    have small : i < recipients.toList.length := by rw [List.Vector.toList_length]; omega
    have member : recipients.toList[i] ∈ recipients.toList.take count.toNat :=
      List.mem_take_iff_getElem.mpr ⟨i, by omega, rfl⟩
    obtain ⟨kind, named⟩ := valid.known _ member
    rw [List.getElem_map, List.getElem_take, Nat.zero_add]
    refine decodeFeeRecipient_eq toBase58 ?_ (by rw [named]; cases kind <;> decide)
    rw [← slice_slice, here]
    · exact slice_flatMap_encode V1.FeeRecipient.layout (List.getElem?_eq_getElem small)
    · rw [feeRecipientLen]
      omega
  have decoded := mapM_range'
    (fun i => decodeFeeRecipient toBase58 bytes (base + i * feeRecipientLen)) 0 each
  rw [length, ← List.range_eq_range'] at decoded
  rw [decodeFeeRecipientArray, failIf_of_not (show ¬count.toNat > maxFeeRecipients from
    Nat.not_lt.mpr few), ok_bind, decoded]

end Recipients

/-! ## The accounts -/

section Accounts

variable (toBase58 : List UInt8 → Pubkey)

theorem needBytes_encode {α : Type} (decoder : String) (layout : Layout α) (value : α) :
    needBytes decoder layout.size (layout.encode value) = .ok () :=
  failIf_of_not (by rw [layout.length_encode]; exact lt_irrefl _)

def CoveragePool.ofProgram (pool : V1.CoveragePool) : CoveragePool where
  bump := pool.bump.toNat
  authority := toBase58 pool.authority.toList
  usdcMint := toBase58 pool.usdcMint.toList
  usdcVault := toBase58 pool.usdcVault.toList
  endpointSlug := pool.endpointSlug.toList
  totalDeposits := pool.totalDeposits.toNat
  totalPremiums := pool.totalPremiums.toNat
  totalRefunds := pool.totalRefunds.toNat
  currentBalance := pool.currentBalance.toNat
  createdAt := pool.createdAt.toInt

theorem decodeCoveragePool_encode (pool : V1.CoveragePool) :
    decodeCoveragePool toBase58 (V1.CoveragePool.layout.encode pool) =
      .ok (CoveragePool.ofProgram toBase58 pool) := by
  have fields : Fields (V1.CoveragePool.layout.encode pool) [leBytes 1 pool.bump.toNat,
      pool.padding0.toList, pool.authority.toList, pool.usdcMint.toList, pool.usdcVault.toList,
      pool.endpointSlug.toList, leBytes 8 pool.totalDeposits.toNat,
      leBytes 8 pool.totalPremiums.toNat, leBytes 8 pool.totalRefunds.toNat,
      leBytes 8 pool.currentBalance.toNat, leBytes 8 pool.createdAt.toUInt64.toNat]
      [1, 7, 32, 32, 32, 16, 8, 8, 8, 8, 8] := by
    constructor
    · simp only [List.flatten_cons, List.flatten_nil, List.append_nil]
      rfl
    · simp
  have long := needBytes_encode "decodeCoveragePool" V1.CoveragePool.layout pool
  rw [V1.CoveragePool.layout_size] at long
  rw [decodeCoveragePool, long, ok_bind, Except.ok.injEq, CoveragePool.ofProgram,
    CoveragePool.mk.injEq]
  exact ⟨fields.uint 0 rfl rfl rfl pool.bump.toNat_lt, fields.pubkey toBase58 2 rfl rfl rfl,
    fields.pubkey toBase58 3 rfl rfl rfl, fields.pubkey toBase58 4 rfl rfl rfl,
    fields.slice 5 rfl rfl rfl, fields.bigint 6 rfl rfl rfl, fields.bigint 7 rfl rfl rfl,
    fields.bigint 8 rfl rfl rfl, fields.bigint 9 rfl rfl rfl, fields.int 10 rfl rfl rfl⟩

def EndpointConfig.ofProgram (endpoint : V1.EndpointConfig) : EndpointConfig where
  bump := endpoint.bump.toNat
  paused := endpoint.paused ≠ 0
  slug := endpoint.slug.toList
  flatPremiumLamports := endpoint.flatPremiumLamports.toNat
  percentBps := endpoint.percentBps.toNat
  slaLatencyMs := endpoint.slaLatencyMs.toNat
  imputedCostLamports := endpoint.imputedCostLamports.toNat
  exposureCapPerHourLamports := endpoint.exposureCapPerHourLamports.toNat
  currentPeriodStart := endpoint.currentPeriodStart.toInt
  currentPeriodRefunds := endpoint.currentPeriodRefunds.toNat
  totalCalls := endpoint.totalCalls.toNat
  totalBreaches := endpoint.totalBreaches.toNat
  totalPremiums := endpoint.totalPremiums.toNat
  totalRefunds := endpoint.totalRefunds.toNat
  lastUpdated := endpoint.lastUpdated.toInt
  coveragePool := toBase58 endpoint.coveragePool.toList
  feeRecipientCount := endpoint.feeRecipientCount.toNat
  feeRecipients := endpoint.recipients.map (FeeRecipient.ofProgram toBase58)

theorem flag_iff (flag : UInt8) : flag.toNat ≠ 0 ↔ flag ≠ 0 :=
  not_congr ⟨fun zero => UInt8.toNat_inj.mp zero, fun zero => by rw [zero]; rfl⟩

theorem decodeEndpointConfig_encode (endpoint : V1.EndpointConfig)
    (valid : ValidRecipients endpoint.feeRecipientCount endpoint.feeRecipients) :
    decodeEndpointConfig toBase58 (V1.EndpointConfig.layout.encode endpoint) =
      .ok (EndpointConfig.ofProgram toBase58 endpoint) := by
  have fields : Fields (V1.EndpointConfig.layout.encode endpoint) [leBytes 1 endpoint.bump.toNat,
      leBytes 1 endpoint.paused.toNat, endpoint.padding0.toList, endpoint.slug.toList,
      leBytes 8 endpoint.flatPremiumLamports.toNat, leBytes 2 endpoint.percentBps.toNat,
      endpoint.padding1.toList, leBytes 4 endpoint.slaLatencyMs.toNat, endpoint.padding2.toList,
      leBytes 8 endpoint.imputedCostLamports.toNat,
      leBytes 8 endpoint.exposureCapPerHourLamports.toNat,
      leBytes 8 endpoint.currentPeriodStart.toUInt64.toNat,
      leBytes 8 endpoint.currentPeriodRefunds.toNat, leBytes 8 endpoint.totalCalls.toNat,
      leBytes 8 endpoint.totalBreaches.toNat, leBytes 8 endpoint.totalPremiums.toNat,
      leBytes 8 endpoint.totalRefunds.toNat, leBytes 8 endpoint.lastUpdated.toUInt64.toNat,
      endpoint.coveragePool.toList, leBytes 1 endpoint.feeRecipientCount.toNat,
      endpoint.padding3.toList, V1.feeRecipientsLayout.encode endpoint.feeRecipients]
      [1, 1, 6, 16, 8, 2, 6, 4, 4, 8, 8, 8, 8, 8, 8, 8, 8, 8, 32, 1, 7, 384] := by
    constructor
    · simp only [List.flatten_cons, List.flatten_nil, List.append_nil]
      rfl
    · simp only [List.map_cons, List.map_nil, length_leBytes, List.Vector.toList_length,
        Layout.length_encode]
      rfl
  have long := needBytes_encode "decodeEndpointConfig" V1.EndpointConfig.layout endpoint
  rw [V1.EndpointConfig.layout_size] at long
  have paused : getUint 1 (V1.EndpointConfig.layout.encode endpoint) 1 = endpoint.paused.toNat :=
    fields.uint 1 rfl rfl rfl endpoint.paused.toNat_lt
  have count : getUint 1 (V1.EndpointConfig.layout.encode endpoint) 152 =
      endpoint.feeRecipientCount.toNat :=
    fields.uint 19 rfl rfl rfl endpoint.feeRecipientCount.toNat_lt
  have recipients : slice (V1.EndpointConfig.layout.encode endpoint) 160 384 =
      V1.feeRecipientsLayout.encode endpoint.feeRecipients := fields.slice 21 rfl rfl rfl
  rw [decodeEndpointConfig, long, ok_bind]
  dsimp only
  rw [count, decodeFeeRecipientArray_eq toBase58 recipients valid, ok_bind,
    Except.ok.injEq, EndpointConfig.ofProgram, EndpointConfig.mk.injEq, paused]
  exact ⟨fields.uint 0 rfl rfl rfl endpoint.bump.toNat_lt, decide_eq_decide.mpr (flag_iff _),
    fields.slice 3 rfl rfl rfl, fields.bigint 4 rfl rfl rfl,
    fields.uint 5 rfl rfl rfl endpoint.percentBps.toNat_lt,
    fields.uint 7 rfl rfl rfl endpoint.slaLatencyMs.toNat_lt, fields.bigint 9 rfl rfl rfl,
    fields.bigint 10 rfl rfl rfl, fields.int 11 rfl rfl rfl, fields.bigint 12 rfl rfl rfl,
    fields.bigint 13 rfl rfl rfl, fields.bigint 14 rfl rfl rfl, fields.bigint 15 rfl rfl rfl,
    fields.bigint 16 rfl rfl rfl, fields.int 17 rfl rfl rfl, fields.pubkey toBase58 18 rfl rfl rfl,
    rfl, rfl⟩

def CallRecord.ofProgram (record : V1.CallRecord) : CallRecord where
  bump := record.bump.toNat
  breach := record.breach ≠ 0
  settlementStatus := record.settlementStatus.toNat
  callId := record.callId.toList
  agent := toBase58 record.agent.toList
  endpointSlug := record.endpointSlug.toList
  premiumLamports := record.premiumLamports.toNat
  refundLamports := record.refundLamports.toNat
  actualRefundLamports := record.actualRefundLamports.toNat
  latencyMs := record.latencyMs.toNat
  timestamp := record.timestamp.toInt

theorem decodeCallRecord_encode (record : V1.CallRecord) {status : V1.SettlementStatus}
    (known : record.settlementStatus = status.toU8) :
    decodeCallRecord toBase58 (V1.CallRecord.layout.encode record) =
      .ok (CallRecord.ofProgram toBase58 record) := by
  have fields : Fields (V1.CallRecord.layout.encode record) [leBytes 1 record.bump.toNat,
      leBytes 1 record.breach.toNat, leBytes 1 record.settlementStatus.toNat,
      record.padding0.toList, record.callId.toList, record.agent.toList,
      record.endpointSlug.toList, leBytes 8 record.premiumLamports.toNat,
      leBytes 8 record.refundLamports.toNat, leBytes 8 record.actualRefundLamports.toNat,
      leBytes 4 record.latencyMs.toNat, record.padding1.toList,
      leBytes 8 record.timestamp.toUInt64.toNat] [1, 1, 1, 5, 16, 32, 16, 8, 8, 8, 4, 4, 8] := by
    constructor
    · simp only [List.flatten_cons, List.flatten_nil, List.append_nil]
      rfl
    · simp
  have long := needBytes_encode "decodeCallRecord" V1.CallRecord.layout record
  rw [V1.CallRecord.layout_size] at long
  have breach : getUint 1 (V1.CallRecord.layout.encode record) 1 = record.breach.toNat :=
    fields.uint 1 rfl rfl rfl record.breach.toNat_lt
  have stamped : getUint 1 (V1.CallRecord.layout.encode record) 2 =
      record.settlementStatus.toNat :=
    fields.uint 2 rfl rfl rfl record.settlementStatus.toNat_lt
  have small : ¬record.settlementStatus.toNat > 3 := by
    rw [known]
    cases status <;> decide
  rw [decodeCallRecord, long, ok_bind]
  dsimp only
  rw [stamped, failIf_of_not small, ok_bind, Except.ok.injEq, CallRecord.ofProgram,
    CallRecord.mk.injEq, breach]
  exact ⟨fields.uint 0 rfl rfl rfl record.bump.toNat_lt, decide_eq_decide.mpr (flag_iff _), rfl,
    fields.slice 4 rfl rfl rfl, fields.pubkey toBase58 5 rfl rfl rfl, fields.slice 6 rfl rfl rfl,
    fields.bigint 7 rfl rfl rfl, fields.bigint 8 rfl rfl rfl, fields.bigint 9 rfl rfl rfl,
    fields.uint 10 rfl rfl rfl record.latencyMs.toNat_lt, fields.int 12 rfl rfl rfl⟩

def SettlementAuthority.ofProgram (authority : V1.SettlementAuthority) : SettlementAuthority where
  bump := authority.bump.toNat
  signer := toBase58 authority.signer.toList
  setAt := authority.setAt.toInt

theorem decodeSettlementAuthority_encode (authority : V1.SettlementAuthority) :
    decodeSettlementAuthority toBase58 (V1.SettlementAuthority.layout.encode authority) =
      .ok (SettlementAuthority.ofProgram toBase58 authority) := by
  have fields : Fields (V1.SettlementAuthority.layout.encode authority)
      [leBytes 1 authority.bump.toNat, authority.padding0.toList, authority.signer.toList,
        leBytes 8 authority.setAt.toUInt64.toNat] [1, 7, 32, 8] := by
    constructor
    · simp only [List.flatten_cons, List.flatten_nil, List.append_nil]
      rfl
    · simp
  have long := needBytes_encode "decodeSettlementAuthority" V1.SettlementAuthority.layout authority
  rw [V1.SettlementAuthority.layout_size] at long
  rw [decodeSettlementAuthority, long, ok_bind, Except.ok.injEq, SettlementAuthority.ofProgram,
    SettlementAuthority.mk.injEq]
  exact ⟨fields.uint 0 rfl rfl rfl authority.bump.toNat_lt, fields.pubkey toBase58 2 rfl rfl rfl,
    fields.int 3 rfl rfl rfl⟩

def Treasury.ofProgram (treasury : V1.Treasury) : Treasury where
  bump := treasury.bump.toNat
  authority := toBase58 treasury.authority.toList
  usdcVault := toBase58 treasury.usdcVault.toList
  setAt := treasury.setAt.toInt

theorem decodeTreasury_encode (treasury : V1.Treasury) :
    decodeTreasury toBase58 (V1.Treasury.layout.encode treasury) =
      .ok (Treasury.ofProgram toBase58 treasury) := by
  have fields : Fields (V1.Treasury.layout.encode treasury) [leBytes 1 treasury.bump.toNat,
      treasury.padding0.toList, treasury.authority.toList, treasury.usdcVault.toList,
      leBytes 8 treasury.setAt.toUInt64.toNat] [1, 7, 32, 32, 8] := by
    constructor
    · simp only [List.flatten_cons, List.flatten_nil, List.append_nil]
      rfl
    · simp
  have long := needBytes_encode "decodeTreasury" V1.Treasury.layout treasury
  rw [V1.Treasury.layout_size] at long
  rw [decodeTreasury, long, ok_bind, Except.ok.injEq, Treasury.ofProgram, Treasury.mk.injEq]
  exact ⟨fields.uint 0 rfl rfl rfl treasury.bump.toNat_lt, fields.pubkey toBase58 2 rfl rfl rfl,
    fields.pubkey toBase58 3 rfl rfl rfl, fields.int 4 rfl rfl rfl⟩

def ProtocolConfig.ofProgram (config : V1.ProtocolConfig) : ProtocolConfig where
  bump := config.bump.toNat
  authority := toBase58 config.authority.toList
  usdcMint := toBase58 config.usdcMint.toList
  maxTotalFeeBps := config.maxTotalFeeBps.toNat
  defaultFeeRecipientCount := config.defaultFeeRecipientCount.toNat
  paused := config.paused.toNat
  defaultFeeRecipients := (config.defaultFeeRecipients.toList.take
    config.defaultFeeRecipientCount.toNat).map (FeeRecipient.ofProgram toBase58)

theorem decodeProtocolConfig_encode (config : V1.ProtocolConfig)
    (valid : ValidRecipients config.defaultFeeRecipientCount config.defaultFeeRecipients) :
    decodeProtocolConfig toBase58 (V1.ProtocolConfig.layout.encode config) =
      .ok (ProtocolConfig.ofProgram toBase58 config) := by
  have fields : Fields (V1.ProtocolConfig.layout.encode config) [leBytes 1 config.bump.toNat,
      config.padding0.toList, config.authority.toList, config.usdcMint.toList,
      leBytes 2 config.maxTotalFeeBps.toNat, leBytes 1 config.defaultFeeRecipientCount.toNat,
      leBytes 1 config.paused.toNat, config.padding1.toList,
      V1.feeRecipientsLayout.encode config.defaultFeeRecipients]
      [1, 7, 32, 32, 2, 1, 1, 4, 384] := by
    constructor
    · simp only [List.flatten_cons, List.flatten_nil, List.append_nil]
      rfl
    · simp only [List.map_cons, List.map_nil, length_leBytes, List.Vector.toList_length,
        Layout.length_encode]
      rfl
  have long := needBytes_encode "decodeProtocolConfig" V1.ProtocolConfig.layout config
  rw [V1.ProtocolConfig.layout_size] at long
  have count : getUint 1 (V1.ProtocolConfig.layout.encode config) 74 =
      config.defaultFeeRecipientCount.toNat :=
    fields.uint 5 rfl rfl rfl config.defaultFeeRecipientCount.toNat_lt
  have recipients : slice (V1.ProtocolConfig.layout.encode config) 80 384 =
      V1.feeRecipientsLayout.encode config.defaultFeeRecipients := fields.slice 8 rfl rfl rfl
  rw [decodeProtocolConfig, long, ok_bind]
  dsimp only
  rw [count, decodeFeeRecipientArray_eq toBase58 recipients valid, ok_bind,
    Except.ok.injEq, ProtocolConfig.ofProgram, ProtocolConfig.mk.injEq]
  exact ⟨fields.uint 0 rfl rfl rfl config.bump.toNat_lt, fields.pubkey toBase58 2 rfl rfl rfl,
    fields.pubkey toBase58 3 rfl rfl rfl, fields.uint 4 rfl rfl rfl config.maxTotalFeeBps.toNat_lt,
    rfl, fields.uint 6 rfl rfl rfl config.paused.toNat_lt, rfl⟩

/-- The client reads back every account the program can store. -/
theorem accounts_decoded :
    (∀ pool, decodeCoveragePool toBase58 (V1.CoveragePool.layout.encode pool) =
      .ok (CoveragePool.ofProgram toBase58 pool)) ∧
    (∀ endpoint : V1.EndpointConfig,
      ValidRecipients endpoint.feeRecipientCount endpoint.feeRecipients →
        decodeEndpointConfig toBase58 (V1.EndpointConfig.layout.encode endpoint) =
          .ok (EndpointConfig.ofProgram toBase58 endpoint)) ∧
    (∀ record : V1.CallRecord, (∃ status : V1.SettlementStatus,
        record.settlementStatus = status.toU8) →
      decodeCallRecord toBase58 (V1.CallRecord.layout.encode record) =
        .ok (CallRecord.ofProgram toBase58 record)) ∧
    (∀ treasury, decodeTreasury toBase58 (V1.Treasury.layout.encode treasury) =
      .ok (Treasury.ofProgram toBase58 treasury)) ∧
    (∀ authority,
      decodeSettlementAuthority toBase58 (V1.SettlementAuthority.layout.encode authority) =
        .ok (SettlementAuthority.ofProgram toBase58 authority)) ∧
    ∀ config : V1.ProtocolConfig,
      ValidRecipients config.defaultFeeRecipientCount config.defaultFeeRecipients →
        decodeProtocolConfig toBase58 (V1.ProtocolConfig.layout.encode config) =
          .ok (ProtocolConfig.ofProgram toBase58 config) := by
  refine ⟨decodeCoveragePool_encode toBase58, decodeEndpointConfig_encode toBase58, ?_,
    decodeTreasury_encode toBase58, decodeSettlementAuthority_encode toBase58,
    decodeProtocolConfig_encode toBase58⟩
  intro record known
  obtain ⟨status, stamped⟩ := known
  exact decodeCallRecord_encode toBase58 record stamped

end Accounts

namespace StateDemo

def toBase58 (_ : List UInt8) : Pubkey := "11111111111111111111111111111111"

def zeros (size : Nat) : Bytes size := List.Vector.replicate size 0

/-- A paused endpoint with one recipient and extreme counters. -/
def endpoint : V1.EndpointConfig where
  bump := 255
  paused := 1
  padding0 := zeros 6
  slug := zeros 16
  flatPremiumLamports := 2 ^ 64 - 1
  percentBps := 65535
  padding1 := List.Vector.replicate 6 7
  slaLatencyMs := 2 ^ 32 - 1
  padding2 := zeros 4
  imputedCostLamports := 0
  exposureCapPerHourLamports := 2 ^ 64 - 1
  currentPeriodStart := -1
  currentPeriodRefunds := 2 ^ 63
  totalCalls := 1
  totalBreaches := 1
  totalPremiums := 2
  totalRefunds := 3
  lastUpdated := -2 ^ 63
  coveragePool := zeros 32
  feeRecipientCount := 1
  padding3 := zeros 7
  feeRecipients := ⟨⟨2, zeros 7, zeros 32, 10000, zeros 6⟩ ::
    List.replicate 7 ⟨9, zeros 7, zeros 32, 1, zeros 6⟩, rfl⟩

def record : V1.CallRecord where
  bump := 254
  breach := 1
  settlementStatus := 3
  padding0 := zeros 5
  callId := List.Vector.replicate 16 5
  agent := zeros 32
  endpointSlug := zeros 16
  premiumLamports := 2 ^ 64 - 1
  refundLamports := 2 ^ 64 - 1
  actualRefundLamports := 0
  latencyMs := 2 ^ 32 - 1
  padding1 := zeros 4
  timestamp := -1

def config : V1.ProtocolConfig where
  bump := 253
  padding0 := zeros 7
  authority := zeros 32
  usdcMint := zeros 32
  maxTotalFeeBps := 3000
  defaultFeeRecipientCount := 0
  paused := 0
  padding1 := zeros 4
  defaultFeeRecipients := List.Vector.replicate 8 V1.FeeRecipient.zero

end StateDemo

open StateDemo in
theorem accounts_decoded_extremes :
    decodeEndpointConfig toBase58 (V1.EndpointConfig.layout.encode endpoint) =
        .ok (EndpointConfig.ofProgram toBase58 endpoint) ∧
      decodeCallRecord toBase58 (V1.CallRecord.layout.encode record) =
        .ok (CallRecord.ofProgram toBase58 record) ∧
      decodeProtocolConfig toBase58 (V1.ProtocolConfig.layout.encode config) =
        .ok (ProtocolConfig.ofProgram toBase58 config) := by
  obtain ⟨-, endpoints, records, -, -, configs⟩ := accounts_decoded toBase58
  refine ⟨endpoints endpoint ⟨by decide, ?_⟩, records record ⟨.exposureCapClamped, rfl⟩,
    configs config ⟨by decide, nofun⟩⟩
  intro entry member
  rw [List.mem_singleton.mp member]
  exact ⟨.affiliatePda, rfl⟩

end PactNetwork.V1Client
