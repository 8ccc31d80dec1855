import PactNetwork.V1.ProgramBooks
import PactNetwork.V1Client.WireFormat

/-!
# Partial configuration updates

`buildUpdateEndpointConfigIx` of the TypeScript client, and the handler it is
sent to. Absent fields stay zero in the body, so that the flags the handler
reads are the ones the client set.
-/

set_option autoImplicit false

namespace PactNetwork.V1Client

open Solana

/-! ## The builder -/

structure UpdateEndpointConfigParams where
  programId : Option Address
  authority : Address
  protocolConfig : Address
  endpointConfig : Address
  flatPremiumLamports : Option Int
  percentBps : Option Int
  slaLatencyMs : Option Int
  imputedCostLamports : Option Int
  exposureCapPerHourLamports : Option Int
  deriving DecidableEq

def discUpdateEndpointConfig : UInt8 := 3

def writeField (width : Nat) (body : List UInt8) (off : Nat) :
    Option Int → Except ClientError (List UInt8)
  | none => .ok body
  | some value => writeUInt width (blit body off [1]) value (off + 1)

def buildUpdateEndpointConfigIx (p : UpdateEndpointConfigParams) :
    Except ClientError TransactionInstruction := do
  let body := List.replicate 35 0
  let body ← writeField 8 body 0 p.flatPremiumLamports
  let body ← writeField 2 body 9 p.percentBps
  let body ← writeField 4 body 12 p.slaLatencyMs
  let body ← writeField 8 body 17 p.imputedCostLamports
  let body ← writeField 8 body 26 p.exposureCapPerHourLamports
  let data := blit (List.replicate (1 + 35) 0) 0 [discUpdateEndpointConfig]
  .ok ⟨p.programId.getD V1.programId,
    [⟨p.authority, true, false⟩, ⟨p.protocolConfig, false, false⟩, ⟨p.endpointConfig, false, true⟩],
    blit data 1 body⟩

def updateEndpointConfig (addresses : V1.Addresses) (context : Context) (chain : V1.Chain)
    (p : UpdateEndpointConfigParams) : V1.Chain :=
  match buildUpdateEndpointConfigIx p with
  | .ok ix => chain.execute addresses ⟨context, ix.keys.map AccountMeta.pubkey, ix.data⟩
  | .error _ => chain

/-! ## One field -/

section Field

variable {α : Type} {toNat : α → Nat} {width : Nat} {value : Option Int} {field : UInt8 × α}

def Fits (width : Nat) (value : Option Int) : Prop :=
  ∀ given ∈ value, 0 ≤ given ∧ given < 256 ^ width

/-- The flag and the number of the wire say what was given. -/
inductive Announces (toNat : α → Nat) : Option Int → UInt8 × α → Prop
  | absent {number : α} (zero : toNat number = 0) : Announces toNat none (0, number)
  | present {given : Int} {number : α} (same : (toNat number : Int) = given) :
      Announces toNat (some given) (1, number)

/-- The stored number is replaced by the one given, if one is. -/
inductive Updated (toNat : α → Nat) (stored : α) : Option Int → α → Prop
  | kept : Updated toNat stored none stored
  | set {given : Int} {number : α} (same : (toNat number : Int) = given) :
      Updated toNat stored (some given) number

theorem Fits.announced (fits : Fits width value)
    (number : ∀ n, n < 256 ^ width → ∃ number : α, toNat number = n) :
    ∃ field, Announces toNat value field := by
  cases value with
  | none =>
      obtain ⟨zero, same⟩ := number 0 (Nat.pow_pos (by decide))
      exact ⟨(0, zero), .absent same⟩
  | some given =>
      obtain ⟨lower, upper⟩ := fits given rfl
      have small : given.toNat < 256 ^ width := by
        have : (given.toNat : Int) < ((256 ^ width : Nat) : Int) := by
          rw [Int.toNat_of_nonneg lower]
          exact_mod_cast upper
        exact_mod_cast this
      obtain ⟨number, same⟩ := number given.toNat small
      exact ⟨(1, number), .present (by rw [same, Int.toNat_of_nonneg lower])⟩

theorem leBytes_zero (width : Nat) : leBytes width 0 = List.replicate width 0 := by
  induction width with
  | zero => rfl
  | succ width ih =>
      rw [leBytes, Nat.zero_div, ih]
      rfl

theorem Announces.writeField (announces : Announces toNat value field) (width : Nat)
    (small : toNat field.2 < 256 ^ width) (written : List UInt8) {off zeros : Nat}
    (place : off = written.length) (room : 1 + width ≤ zeros) :
    V1Client.writeField width (written ++ List.replicate zeros 0) off value =
      .ok (written ++ (field.1 :: leBytes width (toNat field.2)) ++
        List.replicate (zeros - (1 + width)) 0) := by
  have flat := List.append_nil written
  cases announces with
  | absent zero =>
      have skipped := skip_zeros written [] (1 + width) room
      rw [flat, List.nil_append] at skipped
      rw [V1Client.writeField, zero, leBytes_zero, ← List.replicate_succ, Nat.add_comm width, skipped]
  | @present given number same =>
      have flag : blit (written ++ [] ++ List.replicate zeros 0) off [1] =
          written ++ ([] ++ [1]) ++ List.replicate (zeros - 1) 0 := blit_next written [] [1] place
      have tail : blit (written ++ [1] ++ List.replicate (zeros - 1) 0) (off + 1)
          (leBytes width (toNat number)) = written ++ ([1] ++ leBytes width (toNat number)) ++
            List.replicate (zeros - 1 - (leBytes width (toNat number)).length) 0 :=
        blit_next written [1] _ (by rw [place, List.length_singleton])
      rw [flat] at flag
      rw [V1Client.writeField, flag, writeUInt_eq width same small, List.nil_append, tail,
        length_leBytes, Nat.sub_sub]
      rfl

theorem Announces.choose (announces : Announces toNat value field) (stored : α) :
    Updated toNat stored value (V1.UpdateEndpointConfig.choose field stored) := by
  cases announces with
  | absent zero => exact .kept
  | present same => exact .set same

theorem fits_of_writeField {body written : List UInt8} {off : Nat}
    (accepted : V1Client.writeField width body off value = .ok written) : Fits width value := by
  cases value with
  | none => exact fun given member => absurd member (Option.not_mem_none given)
  | some value =>
      simp only [V1Client.writeField, writeUInt, bind_eq_ok, failIf_eq_ok, exists_const] at accepted
      obtain ⟨inside, -⟩ := accepted
      rintro given ⟨⟩
      omega

end Field

/-! ## The instruction -/

structure UpdateEndpointConfigParams.InRange (p : UpdateEndpointConfigParams) : Prop where
  flatPremiumLamports : Fits 8 p.flatPremiumLamports
  percentBps : Fits 2 p.percentBps
  slaLatencyMs : Fits 4 p.slaLatencyMs
  imputedCostLamports : Fits 8 p.imputedCostLamports
  exposureCapPerHourLamports : Fits 8 p.exposureCapPerHourLamports

/-- The arguments of the handler say what the client was given. -/
structure UpdateEndpointConfigParams.Sends (p : UpdateEndpointConfigParams)
    (args : V1.UpdateEndpointConfig.Args) : Prop where
  flatPremiumLamports : Announces UInt64.toNat p.flatPremiumLamports args.flatPremiumLamports
  percentBps : Announces UInt16.toNat p.percentBps args.percentBps
  slaLatencyMs : Announces UInt32.toNat p.slaLatencyMs args.slaLatencyMs
  imputedCostLamports : Announces UInt64.toNat p.imputedCostLamports args.imputedCostLamports
  exposureCapPerHourLamports :
    Announces UInt64.toNat p.exposureCapPerHourLamports args.exposureCapPerHourLamports

section Instruction

variable {p : UpdateEndpointConfigParams}

theorem UpdateEndpointConfigParams.InRange.said (inRange : p.InRange) : ∃ args, p.Sends args := by
  have u64 : ∀ n, n < 256 ^ 8 → ∃ number : UInt64, number.toNat = n := fun n small =>
    ⟨UInt64.ofNat n, UInt64.toNat_ofNat_of_lt' small⟩
  have u32 : ∀ n, n < 256 ^ 4 → ∃ number : UInt32, number.toNat = n := fun n small =>
    ⟨UInt32.ofNat n, UInt32.toNat_ofNat_of_lt' small⟩
  have u16 : ∀ n, n < 256 ^ 2 → ∃ number : UInt16, number.toNat = n := fun n small =>
    ⟨UInt16.ofNat n, UInt16.toNat_ofNat_of_lt' small⟩
  obtain ⟨flatPremiumLamports, flat⟩ := inRange.flatPremiumLamports.announced u64
  obtain ⟨percentBps, percent⟩ := inRange.percentBps.announced u16
  obtain ⟨slaLatencyMs, latency⟩ := inRange.slaLatencyMs.announced u32
  obtain ⟨imputedCostLamports, imputed⟩ := inRange.imputedCostLamports.announced u64
  obtain ⟨exposureCapPerHourLamports, cap⟩ := inRange.exposureCapPerHourLamports.announced u64
  exact ⟨⟨flatPremiumLamports, percentBps, slaLatencyMs, imputedCostLamports,
    exposureCapPerHourLamports⟩, flat, percent, latency, imputed, cap⟩

theorem UpdateEndpointConfigParams.inRange_of_build
    (built : accepts (buildUpdateEndpointConfigIx p)) : p.InRange := by
  obtain ⟨ix, built⟩ := built
  simp only [buildUpdateEndpointConfigIx, bind_eq_ok] at built
  obtain ⟨body, flat, body, percent, body, latency, body, imputed, body, cap, -⟩ := built
  exact ⟨fits_of_writeField flat, fits_of_writeField percent, fits_of_writeField latency,
    fits_of_writeField imputed, fits_of_writeField cap⟩

theorem blit_after {data : List UInt8} (body : data.length = 35) :
    blit (blit (List.replicate (1 + 35) 0) 0 [discUpdateEndpointConfig]) 1 data =
      discUpdateEndpointConfig :: data := by
  have first : blit (List.replicate (1 + 35) 0) 0 [discUpdateEndpointConfig] =
      [discUpdateEndpointConfig] ++ [] ++ List.replicate 35 0 := rfl
  rw [first, blit_next [discUpdateEndpointConfig] [] data (show 1 = _ from rfl), body]
  exact List.append_nil _

theorem encode_flagged {α : Type} (number : Layout α) (field : UInt8 × α) :
    (Layout.u8.pair number).encode field = field.1 :: number.encode field.2 := by
  have parts : (Layout.u8.pair number).encode field =
      Layout.u8.encode field.1 ++ number.encode field.2 := rfl
  rw [parts, Layout.encode_u8, List.singleton_append]

theorem UpdateEndpointConfigParams.Sends.build {args : V1.UpdateEndpointConfig.Args}
    (sends : p.Sends args) :
    buildUpdateEndpointConfigIx p = .ok ⟨p.programId.getD V1.programId,
      [⟨p.authority, true, false⟩, ⟨p.protocolConfig, false, false⟩,
        ⟨p.endpointConfig, false, true⟩],
      discUpdateEndpointConfig :: V1.UpdateEndpointConfig.Args.layout.encode args⟩ := by
  have body : [] ++ (args.flatPremiumLamports.1 :: leBytes 8 args.flatPremiumLamports.2.toNat) ++
      (args.percentBps.1 :: leBytes 2 args.percentBps.2.toNat) ++
      (args.slaLatencyMs.1 :: leBytes 4 args.slaLatencyMs.2.toNat) ++
      (args.imputedCostLamports.1 :: leBytes 8 args.imputedCostLamports.2.toNat) ++
      (args.exposureCapPerHourLamports.1 ::
        leBytes 8 args.exposureCapPerHourLamports.2.toNat) ++ List.replicate 0 0 =
      V1.UpdateEndpointConfig.Args.layout.encode args := by
    have fields : V1.UpdateEndpointConfig.Args.layout.encode args =
        (Layout.u8.pair Layout.u64).encode args.flatPremiumLamports ++
          ((Layout.u8.pair Layout.u16).encode args.percentBps ++
            ((Layout.u8.pair Layout.u32).encode args.slaLatencyMs ++
              ((Layout.u8.pair Layout.u64).encode args.imputedCostLamports ++
                (Layout.u8.pair Layout.u64).encode args.exposureCapPerHourLamports))) := rfl
    rw [fields]
    simp only [encode_flagged, List.nil_append, List.append_assoc, List.replicate_zero, List.append_nil]
    rfl
  unfold buildUpdateEndpointConfigIx
  dsimp only
  rw [← List.nil_append (List.replicate 35 0),
    sends.flatPremiumLamports.writeField 8 args.flatPremiumLamports.2.toNat_lt, ok_bind,
    sends.percentBps.writeField 2 args.percentBps.2.toNat_lt, ok_bind,
    sends.slaLatencyMs.writeField 4 args.slaLatencyMs.2.toNat_lt, ok_bind,
    sends.imputedCostLamports.writeField 8 args.imputedCostLamports.2.toNat_lt, ok_bind,
    sends.exposureCapPerHourLamports.writeField 8 args.exposureCapPerHourLamports.2.toNat_lt,
    ok_bind]
  · rw [body, blit_after]
    exact V1.UpdateEndpointConfig.Args.layout.length_encode args
  all_goals simp

end Instruction

/-! ## The update -/

/-- What the handler asks of the chain before it writes. -/
structure UpdateEndpointConfigParams.Permitted (p : UpdateEndpointConfigParams)
    (addresses : V1.Addresses) (context : Context) (ledger : Ledger) : Prop where
  signed : context.signer p.authority = true
  writable : context.writable p.endpointConfig = true
  canonical : p.protocolConfig = addresses.of .protocolConfig ∧
    (ledger p.protocolConfig).owner = V1.programId
  authority : ∃ config, structAt V1.ProtocolConfig.layout ledger p.protocolConfig = some config ∧
    config.authority = p.authority
  owned : (ledger p.endpointConfig).owner = V1.programId
  stored : ∃ stored, structAt V1.EndpointConfig.layout ledger p.endpointConfig = some stored

/-- The fields given are replaced, the time is set, and the rest is kept. -/
structure UpdateEndpointConfigParams.Updates (p : UpdateEndpointConfigParams) (now : Int64)
    (stored updated : V1.EndpointConfig) : Prop where
  flatPremiumLamports : Updated UInt64.toNat stored.flatPremiumLamports p.flatPremiumLamports
    updated.flatPremiumLamports
  percentBps : Updated UInt16.toNat stored.percentBps p.percentBps updated.percentBps
  slaLatencyMs : Updated UInt32.toNat stored.slaLatencyMs p.slaLatencyMs updated.slaLatencyMs
  imputedCostLamports : Updated UInt64.toNat stored.imputedCostLamports p.imputedCostLamports
    updated.imputedCostLamports
  exposureCapPerHourLamports : Updated UInt64.toNat stored.exposureCapPerHourLamports
    p.exposureCapPerHourLamports updated.exposureCapPerHourLamports
  lastUpdated : updated.lastUpdated = now
  others : { stored with
    flatPremiumLamports := updated.flatPremiumLamports
    percentBps := updated.percentBps
    slaLatencyMs := updated.slaLatencyMs
    imputedCostLamports := updated.imputedCostLamports
    exposureCapPerHourLamports := updated.exposureCapPerHourLamports
    lastUpdated := updated.lastUpdated } = updated

section Update

variable {p : UpdateEndpointConfigParams} {args : V1.UpdateEndpointConfig.Args}
  {addresses : V1.Addresses} {context : Context} {ledger result : Ledger}

theorem UpdateEndpointConfigParams.Sends.updates (sends : p.Sends args)
    (stored : V1.EndpointConfig) (now : Int64) :
    p.Updates now stored (V1.UpdateEndpointConfig.apply stored args now) where
  flatPremiumLamports := sends.flatPremiumLamports.choose _
  percentBps := sends.percentBps.choose _
  slaLatencyMs := sends.slaLatencyMs.choose _
  imputedCostLamports := sends.imputedCostLamports.choose _
  exposureCapPerHourLamports := sends.exposureCapPerHourLamports.choose _
  lastUpdated := rfl
  others := rfl

def processUpdate (p : UpdateEndpointConfigParams) (args : V1.UpdateEndpointConfig.Args)
    (addresses : V1.Addresses) (context : Context) (ledger : Ledger) :
    Except ProgramError Ledger :=
  V1.UpdateEndpointConfig.process addresses context ledger
    [p.authority, p.protocolConfig, p.endpointConfig]
    (V1.UpdateEndpointConfig.Args.layout.encode args)

theorem processUpdate_of_permitted (permitted : p.Permitted addresses context ledger) :
    ∃ stored, structAt V1.EndpointConfig.layout ledger p.endpointConfig = some stored ∧
      processUpdate p args addresses context ledger =
        .ok (setStruct V1.EndpointConfig.layout ledger p.endpointConfig
          (V1.UpdateEndpointConfig.apply stored args context.now)) := by
  obtain ⟨stored, found⟩ := permitted.stored
  obtain ⟨config, configured, authority⟩ := permitted.authority
  have length := V1.UpdateEndpointConfig.Args.layout.length_encode args
  have decoded := V1.UpdateEndpointConfig.Args.layout.decode_encode args
  refine ⟨stored, found, ?_⟩
  simp only [processUpdate, V1.UpdateEndpointConfig.process, V1.requireAuthority, bind_eq_ok,
    failIf_eq_ok, exists_const, okOr_eq_ok, V1.verifyProtocolConfig, V1.verifyCanonical_eq_ok]
  refine ⟨not_not.mpr length, by rw [permitted.signed]; decide,
    by rw [permitted.writable]; decide, permitted.canonical, config,
    ⟨config, configured, not_not.mpr authority, rfl⟩, stored, found, ?_⟩
  rw [decoded]
  exact save_isOk permitted.writable permitted.owned

theorem permitted_of_processUpdate
    (accepted : processUpdate p args addresses context ledger = .ok result) :
    p.Permitted addresses context ledger ∨ result = ledger := by
  simp only [processUpdate, V1.UpdateEndpointConfig.process, V1.requireAuthority, bind_eq_ok,
    failIf_eq_ok, exists_const, okOr_eq_ok, V1.verifyProtocolConfig,
    V1.verifyCanonical_eq_ok] at accepted
  obtain ⟨-, signed, writable, canonical, -, ⟨config, configured, authority, -⟩, stored, found,
    saved⟩ := accepted
  obtain ⟨rfl, owned⟩ := save_eq_ok found saved
  by_cases same : V1.UpdateEndpointConfig.apply stored
      (V1.UpdateEndpointConfig.Args.layout.decode
        (V1.UpdateEndpointConfig.Args.layout.encode args)) context.now = stored
  · right
    rw [same, setStruct_self found]
  · left
    exact {
      signed := Bool.of_not_eq_false signed
      writable := Bool.of_not_eq_false writable
      canonical
      authority := ⟨config, configured, not_not.mp authority⟩
      owned := owned same
      stored := ⟨stored, found⟩ }

theorem UpdateEndpointConfigParams.Sends.execute (sends : p.Sends args) (chain : V1.Chain) :
    updateEndpointConfig addresses context chain p =
      match processUpdate p args addresses context chain.ledger with
      | .ok ledger => ⟨ledger, chain.fees⟩
      | .error _ => chain := by
  let instruction : V1.Instruction := ⟨context, [p.authority, p.protocolConfig, p.endpointConfig],
    discUpdateEndpointConfig :: V1.UpdateEndpointConfig.Args.layout.encode args⟩
  have handled : V1.processInstruction addresses chain.ledger instruction =
      (processUpdate p args addresses context chain.ledger).map (·, []) := rfl
  have sent : updateEndpointConfig addresses context chain p =
      chain.execute addresses instruction := by
    rw [updateEndpointConfig, sends.build]
    rfl
  rw [sent, V1.Chain.execute, handled]
  cases processUpdate p args addresses context chain.ledger with
  | ok ledger => rfl
  | error error => rfl

end Update

end PactNetwork.V1Client
