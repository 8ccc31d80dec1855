import PactNetwork.V1.Fee

/-!
# Protocol administration

The singletons: `initialize_protocol_config`, `initialize_treasury`,
`initialize_settlement_authority` and `pause_protocol`.
-/

set_option autoImplicit false

namespace PactNetwork.V1

open Solana

section Handlers

variable (addresses : Addresses) (context : Context)

/-- Create the account of `pda` for the program and write its struct. The payer
is the first address. -/
def createStruct {α : Type} (layout : Layout α) (ledger : Ledger) (payer account : Address)
    (value : α) : Except ProgramError Ledger := do
  let ledger ← createAccount context ledger payer account (context.minimumBalance layout.size)
    layout.size programId
  save layout programId context ledger account value

def requireAuthority (ledger : Ledger) (protocolConfig authority : Address) :
    Except ProgramError ProtocolConfig := do
  let config ← okOr (structAt ProtocolConfig.layout ledger protocolConfig)
    ↑PactError.protocolConfigNotInitialized
  failIf (config.authority ≠ authority) (↑PactError.unauthorizedAuthority)
  .ok config

/-! ## initialize_protocol_config -/

namespace InitializeProtocolConfig

/-- `max_total_fee_bps`, or its default when absent. -/
def maxTotalFeeBps (data : List UInt8) : UInt16 :=
  if data[0]? = some 1 then Layout.u16.decode ((data.drop 1).take 2) else defaultMaxTotalFeeBps

/-- The default template: at most eight entries, and a treasury entry unless
there are none. -/
def parseTemplate (data : List UInt8) : Except ProgramError (List FeeRecipient) := do
  let count := ((data[3]?).getD 0).toNat
  failIf (count > maxFeeRecipients) (↑PactError.feeRecipientArrayTooLong)
  failIf (data.length ≠ 4 + count * FeeRecipient.layout.size) .invalidInstructionData
  failIf (maxTotalFeeBps data > absoluteFeeBpsCap) (↑PactError.feeBpsExceedsCap)
  let (entries, sumBps) ←
    Fee.parseEntries [] false 0 (FeeRecipient.layout.decodeArray count (data.drop 4))
  failIf (sumBps > absoluteFeeBpsCap.toNat) (↑PactError.feeBpsSumOver10k)
  failIf (sumBps > (maxTotalFeeBps data).toNat) (↑PactError.feeBpsExceedsCap)
  if count > 0 then do
    Fee.checkTreasury entries
    .ok entries
  else .ok entries

def config (addresses : Addresses) (authority mint : Address) (data : List UInt8)
    (entries : List FeeRecipient) : ProtocolConfig where
  bump := addresses.bump .protocolConfig
  padding0 := List.Vector.replicate 7 0
  authority := authority
  usdcMint := mint
  maxTotalFeeBps := maxTotalFeeBps data
  defaultFeeRecipientCount := (data[3]?).getD 0
  paused := 0
  padding1 := List.Vector.replicate 4 0
  defaultFeeRecipients := Fee.padEntries entries

theorem parseTemplate_spec {data : List UInt8} {entries : List FeeRecipient}
    (parsed : parseTemplate data = .ok entries) (addresses : Addresses)
    (authority mint : Address) :
    let stored := config addresses authority mint data entries
    stored.maxTotalFeeBps.toNat ≤ 10000 ∧ Fee.WithinBounds
      (stored.defaultFeeRecipients.toList.take stored.defaultFeeRecipientCount.toNat)
      stored.maxTotalFeeBps.toNat := by
  intro stored
  simp only [parseTemplate, bind_eq_ok, failIf_eq_ok, exists_const, Prod.exists, gt_iff_lt,
    Nat.not_lt, maxFeeRecipients] at parsed
  obtain ⟨small, -, cap, list, sumBps, loop, -, within, last⟩ := parsed
  have kept : list = entries := by
    split at last
    · simp only [bind_eq_ok, Except.ok.injEq] at last
      obtain ⟨_, -, same⟩ := last
      exact same
    · exact Except.ok.inj last
  subst kept
  obtain ⟨length, sum⟩ := Fee.parseEntries_spec loop
  rw [Layout.length_decodeArray, List.length_nil, Nat.zero_add] at length
  have take : stored.defaultFeeRecipients.toList.take stored.defaultFeeRecipientCount.toNat =
      list := by
    show (Fee.padEntries list).toList.take ((data[3]?).getD 0).toNat = list
    rw [← length]
    exact Fee.take_padEntries (by omega)
  rw [UInt16.lt_iff_toNat_lt, Nat.not_lt] at cap
  simp only [List.map_nil, List.sum_nil, Nat.add_zero, Nat.zero_add] at sum
  rw [take]
  refine ⟨cap, by omega, ?_⟩
  show _ ≤ (maxTotalFeeBps data).toNat
  omega

theorem parseTemplate_known {data : List UInt8} {entries : List FeeRecipient}
    (parsed : parseTemplate data = .ok entries) :
    Fee.Known ((data[3]?).getD 0) (Fee.padEntries entries) := by
  simp only [parseTemplate, bind_eq_ok, failIf_eq_ok, exists_const, Prod.exists, gt_iff_lt,
    Nat.not_lt, maxFeeRecipients] at parsed
  obtain ⟨small, -, -, list, sumBps, loop, -, -, last⟩ := parsed
  have kept : list = entries := by
    split at last
    · simp only [bind_eq_ok, Except.ok.injEq] at last
      obtain ⟨_, -, same⟩ := last
      exact same
    · exact Except.ok.inj last
  subst kept
  obtain ⟨length, -⟩ := Fee.parseEntries_spec loop
  rw [Layout.length_decodeArray, List.length_nil, Nat.zero_add] at length
  exact Fee.known_padEntries length small
    (Fee.parseEntries_known loop fun _ member => absurd member List.not_mem_nil)

def process (ledger : Ledger) (accounts : List Address) (data : List UInt8) :
    Except ProgramError Ledger :=
  match accounts with
  | authority :: protocolConfig :: mint :: systemProgram :: _ => do
      failIf (data.length < 4) .invalidInstructionData
      failIf (systemProgram ≠ Solana.systemProgram) .incorrectProgramId
      failIf (context.signer authority = false) .missingRequiredSignature
      failIf (context.writable authority = false ∨ context.writable protocolConfig = false)
        .invalidAccountData
      failIf (mint ≠ usdcMainnet ∧ mint ≠ usdcDevnet) (↑PactError.feeRecipientInvalidUsdcMint)
      failIf (protocolConfig ≠ addresses.of .protocolConfig) .invalidSeeds
      failIf ((ledger protocolConfig).data ≠ []) .accountAlreadyInitialized
      let entries ← parseTemplate data
      createStruct context ProtocolConfig.layout ledger authority protocolConfig
        (config addresses authority mint data entries)
  | _ => .error .notEnoughAccountKeys

end InitializeProtocolConfig

/-! ## initialize_treasury -/

namespace InitializeTreasury

def treasury (addresses : Addresses) (now : Int64) (authority vault : Address) : Treasury where
  bump := addresses.bump .treasury
  padding0 := List.Vector.replicate 7 0
  authority := authority
  usdcVault := vault
  setAt := now

def process (ledger : Ledger) (accounts : List Address) : Except ProgramError Ledger :=
  match accounts with
  | authority :: protocolConfig :: treasury :: vault :: mint :: systemProgram :: tokenProgram ::
      _ => do
      failIf (systemProgram ≠ Solana.systemProgram) .incorrectProgramId
      failIf (tokenProgram ≠ Solana.tokenProgram) .incorrectProgramId
      failIf (context.signer authority = false) .missingRequiredSignature
      failIf (context.writable authority = false ∨ context.writable treasury = false ∨
        context.writable vault = false) .invalidAccountData
      verifyProtocolConfig addresses ledger protocolConfig
      let config ← requireAuthority ledger protocolConfig authority
      failIf (config.usdcMint ≠ mint) (↑PactError.feeRecipientInvalidUsdcMint)
      failIf (treasury ≠ addresses.of .treasury) .invalidSeeds
      failIf ((ledger treasury).data ≠ []) .accountAlreadyInitialized
      let ledger ← createAccount context ledger authority treasury
        (context.minimumBalance Treasury.layout.size) Treasury.layout.size programId
      let ledger ← initializeAccount3 context ledger vault mint treasury
      save Treasury.layout programId context ledger treasury
        (InitializeTreasury.treasury addresses context.now authority vault)
  | _ => .error .notEnoughAccountKeys

end InitializeTreasury

/-! ## initialize_settlement_authority -/

namespace InitializeSettlementAuthority

def settlementAuthority (addresses : Addresses) (now : Int64) (data : List UInt8) :
    SettlementAuthority where
  bump := addresses.bump .settlementAuthority
  padding0 := List.Vector.replicate 7 0
  signer := (Layout.bytes 32).decode data
  setAt := now

def process (ledger : Ledger) (accounts : List Address) (data : List UInt8) :
    Except ProgramError Ledger :=
  match accounts with
  | authority :: protocolConfig :: settlementAuth :: systemProgram :: _ => do
      failIf (data.length ≠ 32) .invalidInstructionData
      failIf (systemProgram ≠ Solana.systemProgram) .incorrectProgramId
      failIf (context.signer authority = false) .missingRequiredSignature
      failIf (context.writable authority = false ∨ context.writable settlementAuth = false)
        .invalidAccountData
      verifyProtocolConfig addresses ledger protocolConfig
      let _ ← requireAuthority ledger protocolConfig authority
      failIf (settlementAuth ≠ addresses.of .settlementAuthority) .invalidSeeds
      failIf ((ledger settlementAuth).data ≠ []) .accountAlreadyInitialized
      createStruct context SettlementAuthority.layout ledger authority settlementAuth
        (settlementAuthority addresses context.now data)
  | _ => .error .notEnoughAccountKeys

end InitializeSettlementAuthority

/-! ## pause_protocol -/

namespace PauseProtocol

def process (ledger : Ledger) (accounts : List Address) (data : List UInt8) :
    Except ProgramError Ledger :=
  match accounts with
  | authority :: protocolConfig :: _ => do
      failIf (data.length ≠ 1) .invalidInstructionData
      failIf (context.signer authority = false) .missingRequiredSignature
      failIf (context.writable protocolConfig = false) .invalidAccountData
      verifyProtocolConfig addresses ledger protocolConfig
      let config ← requireAuthority ledger protocolConfig authority
      save ProtocolConfig.layout programId context ledger protocolConfig
        { config with paused := (data[0]?).getD 0 }
  | _ => .error .notEnoughAccountKeys

end PauseProtocol

end Handlers

end PactNetwork.V1
