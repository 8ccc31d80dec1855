import PactNetwork.Evm.Solvency

/-!
# When the settler accepts an event

Past the hard reverts nothing stops an event whose sums have room, as long as the settler
holds its roles and the pool's tokens cover the ledger.
-/

set_option autoImplicit false

namespace PactNetwork.Evm

variable {τ : Type} {usdc : Erc20 τ} {deployment : Deployment}

/-- The settler may call the hooks of the pool and of the registry. -/
structure Wired (deployment : Deployment) (world : World τ) : Prop where
  pool : world.pool.settlerRole deployment.settler = true
  registry : world.registry.settlerRole deployment.settler = true

section Steps

variable {world : World τ} {slug : Slug} {amount : UInt64}

theorem onlyRole_of {role : Address → Bool} {sender : Address} (held : role sender = true) :
    onlyRole role sender = .ok () := failIf_of_not (by simp [held])

theorem ckAdd_isOk {left right : UInt64} (room : left.toNat + right.toNat < 2 ^ 64) :
    ∃ result, ckAdd left right = .ok result := by
  obtain ⟨result, sum⟩ := checkedAdd_isSome left right room
  exact ⟨result, okOr_eq_ok _ _ _ |>.mpr sum⟩

theorem ckSub_isOk {left right : UInt64} (covered : right.toNat ≤ left.toNat) :
    ∃ result, ckSub left right = .ok result := by
  obtain ⟨result, difference⟩ := checkedSub_isSome left right covered
  exact ⟨result, okOr_eq_ok _ _ _ |>.mpr difference⟩

theorem PactPool.payout_isOk {target : Address} (wired : Wired deployment world)
    (live : target ≠ zeroAddress)
    (funds : amount.toNat ≤ usdc.balanceOf world.token deployment.pool) :
    ∃ result, payout usdc deployment world deployment.settler target amount = .ok result := by
  have moves : (usdc.transfer world.token deployment.pool target amount.toNat).isSome :=
    (usdc.transfer_isSome world.token deployment.pool target amount.toNat).mpr
      ⟨deployment.pool_ne_zero, live, funds⟩
  obtain ⟨token, moved⟩ := Option.isSome_iff_exists.mp moves
  exact ⟨{ world with token }, by simp [payout, onlyRole_of wired.pool, moved]⟩

theorem PactPool.creditPremium_isOk (wired : Wired deployment world)
    (registered : world.registry.registered slug = true)
    (balance : (world.pool.pools slug).ledger.balance + amount.toNat < 2 ^ 64)
    (premiums : (world.pool.pools slug).ledger.premiums + amount.toNat < 2 ^ 64) :
    ∃ result, creditPremium world deployment.settler slug amount = .ok result := by
  obtain ⟨currentBalance, sum⟩ := ckAdd_isOk balance
  obtain ⟨totalPremiums, total⟩ := ckAdd_isOk premiums
  have known : ¬world.registry.registered slug = false := by simp [registered]
  exact ⟨_, by
    simp only [creditPremium, onlyRole_of wired.pool, failIf_of_not known, sum, total, ok_bind]
    rfl⟩

theorem PactPool.debitForFees_isOk (wired : Wired deployment world)
    (registered : world.registry.registered slug = true)
    (covered : amount.toNat ≤ (world.pool.pools slug).ledger.balance) :
    ∃ result, debitForFees world deployment.settler slug amount = .ok result := by
  obtain ⟨currentBalance, difference⟩ := ckSub_isOk covered
  have known : ¬world.registry.registered slug = false := by simp [registered]
  exact ⟨_, by
    simp only [debitForFees, onlyRole_of wired.pool, failIf_of_not known, difference, ok_bind]
    rfl⟩

theorem PactPool.debitForRefund_isOk (wired : Wired deployment world)
    (registered : world.registry.registered slug = true)
    (covered : amount.toNat ≤ (world.pool.pools slug).ledger.balance)
    (refunds : (world.pool.pools slug).ledger.refunds + amount.toNat < 2 ^ 64) :
    ∃ result, debitForRefund world deployment.settler slug amount = .ok result := by
  obtain ⟨currentBalance, difference⟩ := ckSub_isOk covered
  obtain ⟨totalRefunds, total⟩ := ckAdd_isOk refunds
  have known : ¬world.registry.registered slug = false := by simp [registered]
  exact ⟨_, by
    simp only [debitForRefund, onlyRole_of wired.pool, failIf_of_not known, difference, total,
      ok_bind]
    rfl⟩

structure RoomFor (endpoint : Settlement.Endpoint) (premium : Nat) (breach : Bool) : Prop where
  calls : endpoint.calls + 1 < 2 ^ 64
  premiums : endpoint.premiums + premium < 2 ^ 64
  breaches : endpoint.breaches + breach.toNat < 2 ^ 64
  period : endpoint.periodStart + 3600 < 2 ^ 64

theorem PactRegistry.recordCallAndCapAccrual_isOk {registry : PactRegistry} {sender : Address}
    {timestamp premium intendedRefund : UInt64} {breach : Bool}
    (role : registry.settlerRole sender = true) (registered : registry.registered slug = true)
    (room : RoomFor (registry.endpoints slug).counters premium.toNat breach) :
    ∃ result, registry.recordCallAndCapAccrual sender timestamp slug premium breach
      intendedRefund = .ok result := by
  have known : ¬registry.registered slug = false := by simp [registered]
  have numbered : ∃ totalCalls, ckAdd (registry.endpoints slug).totalCalls 1 = .ok totalCalls :=
    ckAdd_isOk room.calls
  obtain ⟨totalCalls, calls⟩ := numbered
  obtain ⟨totalPremiums, premiums⟩ := ckAdd_isOk room.premiums
  have counted : ∃ totalBreaches,
      countBreach (registry.endpoints slug).totalBreaches breach = .ok totalBreaches := by
    cases breach with
    | false => exact ⟨_, rfl⟩
    | true =>
        have room' := room.breaches
        exact ckAdd_isOk room'
  obtain ⟨totalBreaches, breaches⟩ := counted
  have opened : ∀ config : EndpointConfig,
      config.currentPeriodStart = (registry.endpoints slug).currentPeriodStart →
        rollPeriod config timestamp = .ok (rolled config timestamp) := by
    intro config same
    have period := room.period
    simp only [EndpointConfig.counters] at period
    exact rollPeriod_eq_ok.mpr ⟨by rw [same]; omega, rfl⟩
  have accrued : ∀ config : EndpointConfig, ∃ total, accrueRefund config.currentPeriodRefunds
      (clampRefund config intendedRefund) = .ok total := by
    intro config
    have clamped := toNat_clampRefund config intendedRefund
    have cap := config.exposureCapPerHour.toNat_lt
    have used := config.currentPeriodRefunds.toNat_lt
    simp only [Settlement.Endpoint.payable, EndpointConfig.counters] at clamped
    obtain ⟨total, sum⟩ := checkedAdd_isSome config.currentPeriodRefunds
      (clampRefund config intendedRefund) (by omega)
    exact ⟨total, accrueRefund_eq_ok.mpr (checkedAdd_eq_some.mp sum)⟩
  obtain ⟨currentPeriodRefunds, sum⟩ := accrued (rolled { registry.endpoints slug with
    totalCalls, totalPremiums, totalBreaches } timestamp)
  exact ⟨_, by
    simp only [recordCallAndCapAccrual, onlyRole_of role, failIf_of_not known, calls, premiums,
      breaches,
      opened { registry.endpoints slug with totalCalls, totalPremiums, totalBreaches } rfl, sum,
      ok_bind]
    rfl⟩

theorem PactRegistry.recordRefundPaid_isOk {registry : PactRegistry} {sender : Address}
    {actualRefund : UInt64} (role : registry.settlerRole sender = true)
    (registered : registry.registered slug = true)
    (room : (registry.endpoints slug).counters.refunds + actualRefund.toNat < 2 ^ 64) :
    ∃ result, registry.recordRefundPaid sender slug actualRefund = .ok result := by
  obtain ⟨totalRefunds, total⟩ := ckAdd_isOk room
  have known : ¬registry.registered slug = false := by simp [registered]
  exact ⟨_, by
    simp only [recordRefundPaid, onlyRole_of role, failIf_of_not known, total, ok_bind]
    rfl⟩

end Steps

/-! ## One event -/

namespace PactSettler

variable {world : World τ} {timestamp : UInt64} {event : SettlementEvent}

theorem payFees_isOk {premium total : UInt64} {recipients : List FeeRecipient}
    {paid : List (Address × UInt64)} (wired : Wired deployment world)
    (targets : ∀ recipient ∈ recipients, recipient.destination ≠ zeroAddress)
    (funds : (amounts (feeShares premium recipients)).sum ≤
      usdc.balanceOf world.token deployment.pool)
    (room : total.toNat + (amounts (feeShares premium recipients)).sum < 2 ^ 64) :
    ∃ result, payFees usdc deployment premium recipients world total paid = .ok result := by
  induction recipients generalizing world total paid with
  | nil => exact ⟨_, rfl⟩
  | cons recipient rest ih =>
      have later : ∀ recipient ∈ rest, recipient.destination ≠ zeroAddress :=
        fun recipient member => targets recipient (List.mem_cons_of_mem _ member)
      unfold payFees
      by_cases empty : feeAmount premium recipient.bps = 0
      · have skipped : feeShares premium (recipient :: rest) = feeShares premium rest := by
          simp [feeShares, empty]
        rw [skipped] at funds room
        simp only [empty, if_true]
        exact ih wired later funds room
      · have kept : feeShares premium (recipient :: rest) =
            (recipient.destination, feeAmount premium recipient.bps) ::
              feeShares premium rest := by
          simp [feeShares, empty]
        simp only [kept, amounts, List.map_cons, List.sum_cons] at funds room
        obtain ⟨next, payout⟩ := PactPool.payout_isOk wired
          (targets recipient List.mem_cons_self) (Nat.le_of_add_right_le funds)
        obtain ⟨-, token, moved, rfl⟩ := PactPool.payout_spec payout
        have fits : total.toNat + (feeAmount premium recipient.bps).toNat < 2 ^ 64 := by omega
        obtain ⟨total', sum⟩ := ckAdd_isOk fits
        have added := ckAdd_eq_ok.mp sum
        have wired' : Wired deployment { world with token } := ⟨wired.pool, wired.registry⟩
        have left := Erc20.balance_transfer moved deployment.pool
        simp only [if_true] at left
        have funds' : (amounts (feeShares premium rest)).sum ≤
            usdc.balanceOf token deployment.pool := by
          simp only [amounts]
          split at left <;> omega
        have room' : total'.toNat + (amounts (feeShares premium rest)).sum < 2 ^ 64 := by
          simp only [amounts]
          omega
        obtain ⟨result, finished⟩ := ih wired' later funds' room'
        exact ⟨result, by simp only [if_neg empty, payout, sum, ok_bind]; exact finished⟩

theorem debitFees_isOk {slug : Slug} {total : UInt64} (wired : Wired deployment world)
    (registered : world.registry.registered slug = true)
    (covered : total.toNat ≤ (world.pool.pools slug).ledger.balance) :
    ∃ result, debitFees deployment world slug total = .ok result := by
  unfold debitFees
  split
  case isTrue => exact PactPool.debitForFees_isOk wired registered covered
  case isFalse => exact ⟨world, rfl⟩

theorem payRefund_isOk {payable : UInt64} {status : Settlement.Status}
    (wired : Wired deployment world)
    (registered : world.registry.registered event.endpointSlug = true)
    (agent : event.agent ≠ zeroAddress)
    (covered : payable.toNat ≤ (world.pool.pools event.endpointSlug).ledger.balance →
      payable.toNat ≤ usdc.balanceOf world.token deployment.pool ∧
        (world.pool.pools event.endpointSlug).ledger.refunds + payable.toNat < 2 ^ 64) :
    ∃ result, payRefund usdc deployment world event payable status = .ok result := by
  have known : ¬world.registry.registered event.endpointSlug = false := by simp [registered]
  unfold payRefund
  split
  case isFalse => exact ⟨_, rfl⟩
  case isTrue positive =>
    simp only [PactPool.balanceOf, failIf_of_not known, ok_bind]
    split
    case isTrue => exact ⟨_, rfl⟩
    case isFalse enough =>
      have within : payable.toNat ≤ (world.pool.pools event.endpointSlug).ledger.balance :=
        Nat.le_of_not_lt fun short => enough (UInt64.lt_iff_toNat_lt.mpr short)
      obtain ⟨funds, refunds⟩ := covered within
      obtain ⟨next, payout⟩ := PactPool.payout_isOk wired agent funds
      obtain ⟨-, token, -, rfl⟩ := PactPool.payout_spec payout
      have wired' : Wired deployment { world with token } := ⟨wired.pool, wired.registry⟩
      obtain ⟨last, debit⟩ := PactPool.debitForRefund_isOk wired' registered within refunds
      exact ⟨_, by simp only [payout, debit, ok_bind]; rfl⟩

theorem recordRefund_isOk {slug : Slug} {actual : UInt64} (wired : Wired deployment world)
    (registered : world.registry.registered slug = true)
    (room : (world.registry.endpoints slug).counters.refunds + actual.toNat < 2 ^ 64) :
    ∃ result, recordRefund deployment world slug actual = .ok result := by
  unfold recordRefund
  split
  case isFalse => exact ⟨world, rfl⟩
  case isTrue =>
    obtain ⟨registry, counted⟩ :=
      PactRegistry.recordRefundPaid_isOk wired.registry registered room
    exact ⟨_, by simp only [counted, ok_bind]; rfl⟩

/-- No sum of a settled call overflows, and the premium and the pool cover the fees. -/
structure Fits (pool : Settlement.Pool) (endpoint : Settlement.Endpoint) (now : Int)
    (call : Settlement.Call) : Prop where
  balance : pool.balance + call.premium < 2 ^ 64
  premiums : pool.premiums + call.premium < 2 ^ 64
  room : RoomFor endpoint call.premium call.breach
  poolRefunds : (Settlement.settle pool endpoint now call).pool.refunds < 2 ^ 64
  endpointRefunds : (Settlement.settle pool endpoint now call).endpoint.refunds < 2 ^ 64
  fees : call.fees.sum ≤ pool.balance + call.premium

theorem settleSuccess_isOk {config : EndpointConfig} (wired : Wired deployment world)
    (registered : world.registry.registered event.endpointSlug = true)
    (targets : ∀ recipient ∈ config.recipients, recipient.destination ≠ zeroAddress)
    (agent : event.agent ≠ zeroAddress)
    (fits : Fits (world.pool.pools event.endpointSlug).ledger
      (world.registry.endpoints event.endpointSlug).counters timestamp.toNat
      (event.call (feeShares event.premium config.recipients)))
    (funds : (world.pool.pools event.endpointSlug).ledger.balance + event.premium.toNat ≤
      usdc.balanceOf world.token deployment.pool) :
    ∃ result, settleSuccess usdc deployment world timestamp event config = .ok result := by
  let pool := (world.pool.pools event.endpointSlug).ledger
  let endpoint := (world.registry.endpoints event.endpointSlug).counters
  let call := event.call (feeShares event.premium config.recipients)
  -- The premium comes in and the call is counted.
  obtain ⟨credited, credit⟩ :=
    PactPool.creditPremium_isOk wired registered fits.balance fits.premiums
  obtain ⟨creditState, rfl, creditLedger⟩ := PactPool.creditPremium_spec credit
  have counts : ∃ result, world.registry.recordCallAndCapAccrual deployment.settler timestamp
      event.endpointSlug event.premium event.breach event.refund = .ok result :=
    PactRegistry.recordCallAndCapAccrual_isOk wired.registry registered fits.room
  obtain ⟨⟨registry, payable⟩, count⟩ := counts
  obtain ⟨clamped, counted, rfl, -, counters⟩ :=
    PactRegistry.recordCallAndCapAccrual_spec call.fees count
  -- The fees go out.
  let opened : World τ := ⟨world.token, world.registry.setEndpoint event.endpointSlug counted,
    world.pool.setPool event.endpointSlug creditState, world.settler⟩
  have covers : (amounts (feeShares event.premium config.recipients)).sum ≤
      pool.balance + event.premium.toNat := fits.fees
  have small : pool.balance + event.premium.toNat < 2 ^ 64 := fits.balance
  have room : (0 : UInt64).toNat + (amounts (feeShares event.premium config.recipients)).sum <
      2 ^ 64 := by
    rw [UInt64.toNat_zero]
    omega
  have pays : ∃ result,
      payFees usdc deployment event.premium config.recipients opened 0 [] = .ok result :=
    payFees_isOk ⟨wired.pool, wired.registry⟩ targets (covers.trans funds) room
  obtain ⟨⟨spread, total, fees⟩, fanOut⟩ := pays
  obtain ⟨rfl, sum, token, moves, rfl⟩ := payFees_spec fanOut
  rw [UInt64.toNat_zero, Nat.zero_add] at sum
  have funds' := (payAll_effect moves).2
  have wired' : Wired deployment { opened with token } := ⟨wired.pool, wired.registry⟩
  have covered : total.toNat ≤
      (opened.pool.pools event.endpointSlug).ledger.balance := by
    rw [PactPool.pools_setPool, creditLedger, sum]
    exact covers
  obtain ⟨debited, debit⟩ := debitFees_isOk wired' registered covered
  obtain ⟨-, debitState, rfl, debitLedger⟩ := debitFees_spec debit
  have collected : debitState.ledger = pool.collect call := by
    rw [debitLedger, PactPool.pools_setPool, creditLedger, sum]
    rfl
  -- The refund goes out if the pool's ledger covers it.
  let paying : World τ := ⟨token, opened.registry,
    opened.pool.setPool event.endpointSlug debitState, world.settler⟩
  let status : Settlement.Status :=
    if payable < event.refund then .exposureCapClamped else .settled
  have ledger : (paying.pool.pools event.endpointSlug).ledger = pool.collect call := by
    rw [PactPool.pools_setPool, collected]
  have paid : payable.toNat ≤ (pool.collect call).balance →
      Settlement.settle pool endpoint timestamp.toNat call =
        ⟨if payable.toNat < call.refund then .exposureCapClamped else .settled, payable.toNat,
          (pool.collect call).pay payable.toNat,
          ((endpoint.roll timestamp.toNat).record call payable.toNat).pay payable.toNat⟩ :=
    fun enough => Settlement.settle_of_covered clamped enough
  have refunds : ∃ result, payRefund usdc deployment paying event payable status = .ok result := by
    refine payRefund_isOk ⟨wired.pool, wired.registry⟩ registered agent fun enough => ?_
    rw [ledger] at enough ⊢
    have fit := fits.poolRefunds
    rw [paid enough] at fit
    refine ⟨?_, fit⟩
    have balance : (pool.collect call).balance = pool.balance + event.premium.toNat -
        (amounts (feeShares event.premium config.recipients)).sum := rfl
    show payable.toNat ≤ usdc.balanceOf token deployment.pool
    change usdc.balanceOf world.token deployment.pool ≤ _ at funds'
    change pool.balance + _ ≤ _ at funds
    omega
  obtain ⟨⟨refunded, actual, final⟩, refund⟩ := refunds
  have counts : ∃ result, recordRefund deployment refunded event.endpointSlug actual =
      .ok result := by
    cases payRefund_spec refund with
    | inl short =>
        obtain ⟨-, rfl, -, rfl⟩ := short
        refine recordRefund_isOk ⟨wired.pool, wired.registry⟩ registered ?_
        rw [UInt64.toNat_zero, Nat.add_zero]
        exact UInt64.toNat_lt _
    | inr enough =>
        obtain ⟨within, rfl, -, _, state, rfl, -⟩ := enough
        rw [ledger] at within
        have fit := fits.endpointRefunds
        rw [paid within] at fit
        refine recordRefund_isOk ⟨wired.pool, wired.registry⟩ registered ?_
        show ((world.registry.setEndpoint event.endpointSlug counted).endpoints
          event.endpointSlug).counters.refunds + actual.toNat < 2 ^ 64
        rw [PactRegistry.endpoints_setEndpoint, counters]
        exact fit
  obtain ⟨last, counted'⟩ := counts
  exact ⟨_, by
    simp only [settleSuccess, credit, count, ok_bind]
    rw [fanOut]
    simp only [debit, ok_bind]
    rw [refund]
    simp only [counted', ok_bind]
    rfl⟩

theorem checkEvent_eq_ok {config : EndpointConfig} :
    checkEvent world timestamp event = .ok config ↔
      ¬event.timestamp > timestamp ∧ ¬event.premium < ProtocolInvariants.minPremium ∧
        ¬event.feeRecipientCountHint > ProtocolInvariants.maxFeeRecipients ∧
        world.settler.settledCallIds event.callId = false ∧
        (world.registry.endpoints event.endpointSlug).paused = false ∧
        (world.registry.endpoints event.endpointSlug).feeRecipientCount =
          event.feeRecipientCountHint ∧
        world.registry.endpoints event.endpointSlug = config := by
  simp only [checkEvent, bind_eq_ok, failIf_eq_ok, exists_const, Except.ok.injEq, ne_eq, not_not,
    Bool.not_eq_true]

theorem transferFrom_of_allowed {token : τ} {agent : Address} {amount : Nat}
    (live : agent ≠ zeroAddress) (allowed : amount ≤ usdc.allowance token agent deployment.settler)
    (held : amount ≤ usdc.balanceOf token agent) :
    ∃ after, usdc.transferFrom token deployment.settler agent deployment.pool amount =
      some after :=
  Option.isSome_iff_exists.mp ((usdc.transferFrom_isSome _ _ _ _ _).mpr
    ⟨deployment.settler_ne_zero, live, deployment.pool_ne_zero, allowed, held⟩)

theorem settleEvent_isOk {fees : Slug → Nat} {config : EndpointConfig}
    (sound : Sound usdc deployment ⟨world, fees⟩) (wired : Wired deployment world)
    (registered : world.registry.registered event.endpointSlug = true)
    (checked : checkEvent world timestamp event = .ok config)
    (targets : ∀ recipient ∈ config.recipients, recipient.destination ≠ zeroAddress)
    (fits : event.premium.toNat ≤ usdc.allowance world.token event.agent deployment.settler →
      event.premium.toNat ≤ usdc.balanceOf world.token event.agent →
      Fits (world.pool.pools event.endpointSlug).ledger
        (world.registry.endpoints event.endpointSlug).counters timestamp.toNat
        (event.call (feeShares event.premium config.recipients))) :
    ∃ result, settleEvent usdc deployment world timestamp event = .ok result := by
  cases pulled : usdc.transferFrom world.token deployment.settler event.agent deployment.pool
      event.premium.toNat with
  | none => exact ⟨_, by simp only [settleEvent, checked, ok_bind, markSettled, pulled]; rfl⟩
  | some token =>
      obtain ⟨allowed, held⟩ := Erc20.covered_of_transferFrom pulled
      have positive : 0 < event.premium.toNat := by
        have enough := (checkEvent_eq_ok.mp checked).2.1
        rw [UInt64.lt_iff_toNat_lt] at enough
        exact Nat.lt_of_lt_of_le (by decide) (Nat.le_of_not_lt enough)
      -- The pool has approved nobody, so it is not the agent.
      have payer : deployment.pool ≠ event.agent := by
        intro same
        rw [← same, sound.noAllowance] at allowed
        omega
      have live : event.agent ≠ zeroAddress := ((usdc.transferFrom_isSome _ _ _ _ _).mp
        (Option.isSome_iff_exists.mpr ⟨token, pulled⟩)).2.1
      have received := Erc20.balance_transferFrom pulled deployment.pool
      rw [if_neg payer, if_pos rfl] at received
      have backed := sound.solvent {event.endpointSlug}
      rw [Finset.sum_singleton] at backed
      obtain ⟨result, finished⟩ : ∃ result, settleSuccess usdc deployment
          ⟨token, world.registry, world.pool, (markSettled world event.callId).settler⟩ timestamp
          event config = .ok result := by
        refine settleSuccess_isOk ⟨wired.pool, wired.registry⟩ registered targets live
          (fits allowed held) ?_
        dsimp only at backed ⊢
        omega
      refine ⟨result, ?_⟩
      simp only [settleEvent, checked, ok_bind, markSettled, pulled]
      exact finished

end PactSettler

end PactNetwork.Evm
