import Mathlib.Algebra.BigOperators.Group.Finset.Basic
import Mathlib.Data.Fintype.Vector
import PactNetwork.V2.Books

/-!
# Pool accounting

Every pool's counters add up, its deposits are those of its positions, and its
vault holds what the pool has available. Each step keeps this.
-/

set_option autoImplicit false

namespace PactNetwork.V2

open Solana TokenLedger

/-! ## Deposits by pool -/

theorem sum_change {ι : Type} [Fintype ι] [DecidableEq ι] (term term' : ι → Nat) (changed : ι)
    (same : ∀ other, other ≠ changed → term' other = term other) :
    ∑ item, term' item + term changed = ∑ item, term item + term' changed := by
  have rest : ∑ item ∈ Finset.univ.erase changed, term' item =
      ∑ item ∈ Finset.univ.erase changed, term item :=
    Finset.sum_congr rfl fun item member => same item (Finset.ne_of_mem_erase member)
  rw [← Finset.add_sum_erase _ term (Finset.mem_univ changed),
    ← Finset.add_sum_erase _ term' (Finset.mem_univ changed), rest]
  omega

theorem sum_update {α : Type} (share : Option α → Nat) {records records' : Address → Option α}
    {account : Address} {value : α}
    (changed : records' = Function.update records account (some value)) :
    ∑ address, share (records' address) + share (records account) =
      ∑ address, share (records address) + share (some value) := by
  have sums := sum_change (fun address => share (records address))
    (fun address => share (records' address)) account fun address different => by
      rw [changed, Function.update_of_ne different]
  rw [changed, Function.update_self, ← changed] at sums
  exact sums

def depositOf (pool : Address) : Option UnderwriterPosition → Nat
  | some position => if position.pool = pool then position.deposited.toNat else 0
  | none => 0

def Books.depositedIn (books : Books) (pool : Address) : Nat :=
  ∑ account : Address, depositOf pool (books.positions account)

namespace Books

variable {books : Books}

theorem depositedIn_congr {other : Books} (same : other.positions = books.positions)
    (pool : Address) : other.depositedIn pool = books.depositedIn pool := by
  rw [depositedIn, depositedIn, same]

theorem depositedIn_update {other : Books} {account : Address} {position : UnderwriterPosition}
    (changed : other.positions = Function.update books.positions account (some position))
    (pool : Address) :
    other.depositedIn pool + depositOf pool (books.positions account) =
      books.depositedIn pool + depositOf pool (some position) :=
  sum_update (depositOf pool) changed

theorem depositedIn_of_ne {other : Books} {account owner : Address}
    {position : UnderwriterPosition}
    (changed : other.positions = Function.update books.positions account (some position))
    (before : ∀ stored, books.positions account = some stored → stored.pool = owner)
    (after : position.pool = owner) {pool : Address} (different : pool ≠ owner) :
    other.depositedIn pool = books.depositedIn pool := by
  have sums := depositedIn_update changed pool
  have added : depositOf pool (some position) = 0 := by
    rw [depositOf, if_neg]
    rw [after]
    exact Ne.symm different
  have removed : depositOf pool (books.positions account) = 0 := by
    cases found : books.positions account with
    | none => rfl
    | some stored =>
        rw [depositOf, if_neg]
        rw [before stored found]
        exact Ne.symm different
  omega

end Books

/-! ## The invariant -/

section Invariant

variable (crypto : Crypto) (books : Books)

structure PoolSound (account : Address) (pool : CoveragePool) : Prop where
  derived : ∃ hostname, crypto.Derives (.pool hostname) account
  vault : crypto.Derives (.vault account) pool.vault
  balanced : pool.totalAvailable.toNat + pool.totalClaimsPaid.toNat =
    pool.totalDeposited.toNat + pool.totalPremiumsEarned.toNat
  deposits : pool.totalDeposited.toNat = books.depositedIn account
  covered : ∃ token, books.tokens pool.vault = some token ∧ token.Exclusive account ∧
    pool.totalAvailable.toNat ≤ token.amount.toNat

structure Accounted : Prop where
  pools : ∀ account pool, books.pools account = some pool → PoolSound crypto books account pool
  positions : ∀ account position, books.positions account = some position →
    crypto.Derives (.position position.pool position.underwriter) account ∧
      ∃ pool, books.pools position.pool = some pool
  policies : ∀ account policy, books.policies account = some policy →
    ¬ crypto.Derived policy.agent

variable {crypto books} {books' : Books}

theorem PoolSound.signs {account : Address} {pool : CoveragePool}
    (sound : PoolSound crypto books account pool) : crypto.Derived account :=
  let ⟨hostname, derives⟩ := sound.derived
  ⟨.pool hostname, derives⟩

variable (crypto) in
def Spares (account : Address) (before after : TokenLedger) : Prop :=
  ∀ address token owner, owner ≠ account → crypto.Derived owner → before address = some token →
    token.Exclusive owner → ∃ token', after address = some token' ∧ token'.Exclusive owner ∧
      token.amount.toNat ≤ token'.amount.toNat

theorem Spares.refl (account : Address) (tokens : TokenLedger) :
    Spares crypto account tokens tokens :=
  fun _ token _ _ _ found exclusive => ⟨token, found, exclusive, Nat.le_refl _⟩

theorem Spares.of_paysAll {account : Address} {payments : List Payment}
    {before after : TokenLedger} (paid : PaysAll before payments after)
    (authorities : ∀ payment ∈ payments,
      payment.authority = account ∨ ¬ crypto.Derived payment.authority) :
    Spares crypto account before after := by
  intro address token owner different derived found exclusive
  obtain ⟨token', stays, exclusive', bound⟩ := paid.exclusive found exclusive
  refine ⟨token', stays, exclusive', ?_⟩
  have nothing : (payments.map fun payment =>
      if payment.authority = owner then payment.amount.toNat else 0).sum = 0 := by
    rw [List.sum_eq_zero]
    intro taken member
    obtain ⟨payment, listed, rfl⟩ := List.mem_map.mp member
    refine if_neg ?_
    rintro rfl
    rcases authorities payment listed with own | outside
    · exact different own
    · exact outside derived
  omega

theorem Spares.of_pays {account : Address} {payment : Payment} {before after : TokenLedger}
    (paid : Pays before payment after)
    (authority : payment.authority = account ∨ ¬ crypto.Derived payment.authority) :
    Spares crypto account before after :=
  Spares.of_paysAll (show PaysAll before [payment] after from ⟨after, paid, rfl⟩)
    fun _ member => List.mem_singleton.mp member ▸ authority

theorem Accounted.position_of_key (accounted : Accounted crypto books)
    {account pool underwriter : Address} {position : UnderwriterPosition}
    (key : crypto.Derives (.position pool underwriter) account)
    (stored : books.positions account = some position) :
    position.pool = pool ∧ position.underwriter = underwriter := by
  obtain ⟨derives, -⟩ := accounted.positions account position stored
  exact Pda.position.inj (derives.inj key)

theorem PoolSound.frame {account other : Address} {pool : CoveragePool}
    (sound : PoolSound crypto books other pool) (different : other ≠ account)
    (deposits : books'.depositedIn other = books.depositedIn other)
    (spares : Spares crypto account books.tokens books'.tokens) :
    PoolSound crypto books' other pool where
  derived := sound.derived
  vault := sound.vault
  balanced := sound.balanced
  deposits := by rw [sound.deposits, deposits]
  covered := by
    obtain ⟨token, held, exclusive, covered⟩ := sound.covered
    obtain ⟨token', stays, exclusive', grows⟩ :=
      spares _ token other different sound.signs held exclusive
    exact ⟨token', stays, exclusive', covered.trans grows⟩

/-- A step that changes one pool keeps the accounts if it keeps that pool's,
leaves the deposits of the others and takes nothing from their vaults. -/
theorem Accounted.change (accounted : Accounted crypto books) {account : Address}
    {pool' : CoveragePool}
    (pools : books'.pools = Function.update books.pools account (some pool'))
    (sound : PoolSound crypto books' account pool')
    (deposits : ∀ other, other ≠ account → books'.depositedIn other = books.depositedIn other)
    (spares : Spares crypto account books.tokens books'.tokens)
    (positions : ∀ address position, books'.positions address = some position →
      books.positions address = some position ∨
        position.pool = account ∧
          crypto.Derives (.position position.pool position.underwriter) address)
    (policies : ∀ address policy, books'.policies address = some policy →
      ¬ crypto.Derived policy.agent) :
    Accounted crypto books' where
  pools other pool stored := by
    by_cases same : other = account
    · subst same
      rw [pools, Function.update_self] at stored
      cases stored
      exact sound
    · rw [pools, Function.update_of_ne same] at stored
      exact (accounted.pools other pool stored).frame same (deposits other same) spares
  positions address position stored := by
    have kept (owner : Address) (found : ∃ pool, books.pools owner = some pool) :
        ∃ pool, books'.pools owner = some pool := by
      by_cases same : owner = account
      · exact ⟨pool', by rw [pools, same, Function.update_self]⟩
      · rwa [pools, Function.update_of_ne same]
    rcases positions address position stored with old | ⟨owned, derives⟩
    · obtain ⟨derives, found⟩ := accounted.positions address position old
      exact ⟨derives, kept _ found⟩
    · exact ⟨derives, pool', by rw [owned, pools, Function.update_self]⟩
  policies := policies

theorem Accounted.changePosition (accounted : Accounted crypto books)
    {account underwriter address : Address} {pool pool' : CoveragePool}
    {after : UnderwriterPosition}
    (pools : books'.pools = Function.update books.pools account (some pool'))
    (positions : books'.positions = Function.update books.positions address (some after))
    (policies : books'.policies = books.policies)
    (stored : books.pools account = some pool)
    (key : crypto.Derives (.position account underwriter) address)
    (own : after.pool = account ∧ after.underwriter = underwriter) (vault : pool'.vault = pool.vault)
    (balanced : pool'.totalAvailable.toNat + pool'.totalClaimsPaid.toNat =
      pool'.totalDeposited.toNat + pool'.totalPremiumsEarned.toNat)
    (deposits : pool'.totalDeposited.toNat + depositOf account (books.positions address) =
      pool.totalDeposited.toNat + after.deposited.toNat)
    (covered : ∃ token, books'.tokens pool.vault = some token ∧ token.Exclusive account ∧
      pool'.totalAvailable.toNat ≤ token.amount.toNat)
    (spares : Spares crypto account books.tokens books'.tokens) : Accounted crypto books' := by
  have sound := accounted.pools account pool stored
  refine accounted.change pools ⟨sound.derived, vault ▸ sound.vault, balanced, ?_, vault ▸ covered⟩
    ?_ spares ?_ ?_
  · have sum := Books.depositedIn_update positions account
    have before := sound.deposits
    rw [depositOf, if_pos own.1] at sum
    omega
  · intro other different
    exact Books.depositedIn_of_ne positions
      (fun stored found => (accounted.position_of_key key found).1) own.1 different
  · intro other position found
    by_cases same : other = address
    · rw [same, positions, Function.update_self] at found
      cases found
      refine .inr ⟨own.1, ?_⟩
      rw [same, own.1, own.2]
      exact key
    · rw [positions, Function.update_of_ne same] at found
      exact .inl found
  · rw [policies]
    exact accounted.policies

theorem PoolSound.sameFunds {account : Address} {pool pool' : CoveragePool}
    (sound : PoolSound crypto books account pool) (vault : pool'.vault = pool.vault)
    (available : pool'.totalAvailable = pool.totalAvailable)
    (claims : pool'.totalClaimsPaid = pool.totalClaimsPaid)
    (deposited : pool'.totalDeposited = pool.totalDeposited)
    (premiums : pool'.totalPremiumsEarned = pool.totalPremiumsEarned)
    (positions : books'.positions = books.positions) (tokens : books'.tokens = books.tokens) :
    PoolSound crypto books' account pool' where
  derived := sound.derived
  vault := by rw [vault]; exact sound.vault
  balanced := by rw [available, claims, deposited, premiums]; exact sound.balanced
  deposits := by rw [deposited, sound.deposits, Books.depositedIn_congr positions]
  covered := by rw [vault, available, tokens]; exact sound.covered

end Invariant

/-! ## Each step keeps the accounts -/

section Steps

variable {crypto : Crypto} {now : Int64} {books books' : Books}
  {label : Option SubmitClaim.Payout}

theorem SettlePremium.mem_payments {accounts : SettlePremium.Accounts} {vault : Address}
    {referrer : Option Address} {cuts : SettlePremium.Cuts} {payment : Payment}
    (member : payment ∈ payments accounts vault referrer cuts) :
    payment.source = accounts.agentToken ∧ payment.authority = accounts.pool := by
  obtain ⟨⟨destination, cut⟩, -, made⟩ := List.mem_filterMap.mp member
  simp only at made
  split at made
  · obtain ⟨_, -, rfl⟩ := Option.map_eq_some_iff.mp made
    exact ⟨rfl, rfl⟩
  · cases made

theorem SettlePremium.pool_cut_le (accounts : SettlePremium.Accounts) (vault : Address)
    (referrer : Option Address) (cuts : SettlePremium.Cuts) :
    cuts.pool.toNat ≤ ((payments accounts vault referrer cuts).map fun payment =>
      if vault = payment.destination then payment.amount.toNat else 0).sum := by
  by_cases paid : 0 < cuts.pool
  · simp only [payments, List.filterMap_cons, paid, ↓reduceIte, Option.map_some, List.map_cons,
      List.sum_cons]
    exact Nat.le_add_right _ _
  · rw [UInt64.lt_iff_toNat_lt, UInt64.toNat_zero] at paid
    omega

theorem Accounted.updateConfig (accounted : Accounted crypto books)
    (configs : Address → Option ProtocolConfig) : Accounted crypto { books with configs } :=
  ⟨fun account pool stored => (accounted.pools account pool stored).sameFunds rfl rfl rfl rfl rfl
    rfl rfl, accounted.positions, accounted.policies⟩

theorem Accounted.depositedIn_eq_zero (accounted : Accounted crypto books) {account : Address}
    (vacant : books.pools account = none) : books.depositedIn account = 0 := by
  refine Finset.sum_eq_zero fun address _ => ?_
  cases found : books.positions address with
  | none => rfl
  | some position =>
      obtain ⟨-, pool, stored⟩ := accounted.positions address position found
      refine if_neg ?_
      rintro rfl
      rw [vacant] at stored
      cases stored

theorem Accounted.policies_update (accounted : Accounted crypto books) {account : Address}
    {policy : Policy} (external : ¬ crypto.Derived policy.agent) (address : Address)
    (other : Policy)
    (stored : Function.update books.policies account (some policy) address = some other) :
    ¬ crypto.Derived other.agent := by
  by_cases same : address = account
  · rw [same, Function.update_self] at stored
    cases stored
    exact external
  · rw [Function.update_of_ne same] at stored
    exact accounted.policies address other stored

theorem Step.accounted (step : Step crypto now books label books')
    (accounted : Accounted crypto books) : Accounted crypto books' := by
  cases step with
  | initializeProtocol => exact accounted.updateConfig _
  | updateConfig => exact accounted.updateConfig _
  | updateOracle => exact accounted.updateConfig _
  | @createPool _ account vault config args bump vaultBump token _ _ key vaultKey vacant
      unopened exclusive empty =>
      have sound : PoolSound crypto ((books.withTokens (Function.update books.tokens vault
          (some token))).setPool account (CreatePool.pool config args now vault bump vaultBump))
          account (CreatePool.pool config args now vault bump vaultBump) := {
        derived := ⟨args.hostname, bump, key⟩
        vault := ⟨vaultBump, vaultKey⟩
        balanced := rfl
        deposits := (accounted.depositedIn_eq_zero vacant).symm
        covered := ⟨token, Function.update_self _ _ _, exclusive, Nat.zero_le _⟩ }
      refine accounted.change rfl sound (fun _ _ => rfl) ?_ (fun _ _ found => .inl found)
        accounted.policies
      intro address token owner _ _ found exclusive
      refine ⟨token, ?_, exclusive, Nat.le_refl _⟩
      have different : address ≠ vault := by
        rintro rfl
        rw [unopened] at found
        cases found
      exact (Function.update_of_ne different _ _).trans found
  | updateRates stored _ _ =>
      refine accounted.change rfl ((accounted.pools _ _ stored).sameFunds rfl rfl rfl rfl rfl rfl
        rfl) (fun _ _ => rfl) (.refl _ _) (fun _ _ found => .inl found) accounted.policies
  | @deposit accounts config pool credited before after amount source tokens _ _ stored key
      opened external _ _ positionCredited poolCredited paid =>
      have sound := accounted.pools _ _ stored
      obtain ⟨deposited, added, rfl⟩ := Deposit.creditPosition_eq_ok.mp positionCredited
      obtain ⟨totalDeposited, totalAvailable, addedDeposits, addedAvailable, rfl⟩ :=
        Deposit.creditPool_eq_ok.mp poolCredited
      have own : before.pool = accounts.pool ∧ before.underwriter = accounts.underwriter ∧
          depositOf accounts.pool (books.positions accounts.position) =
            before.deposited.toNat := by
        rcases opened with found | ⟨vacant, bump, rfl⟩
        · obtain ⟨pool, underwriter⟩ := accounted.position_of_key key found
          exact ⟨pool, underwriter, by rw [found, depositOf, if_pos pool]⟩
        · exact ⟨rfl, rfl, by rw [vacant]; rfl⟩
      obtain ⟨ownPool, ownUnderwriter, held⟩ := own
      refine accounted.changePosition rfl rfl rfl stored key ⟨ownPool, ownUnderwriter⟩ rfl ?_ ?_ ?_
        (.of_pays paid (.inr external))
      · have balanced := sound.balanced
        show totalAvailable.toNat + pool.totalClaimsPaid.toNat =
          totalDeposited.toNat + pool.totalPremiumsEarned.toNat
        omega
      · rw [held]
        show totalDeposited.toNat + before.deposited.toNat = _ + deposited.toNat
        omega
      · obtain ⟨token, found, exclusive, covers⟩ := sound.covered
        obtain ⟨token', stays, exclusive', credited⟩ := paid.credited found exclusive
          (fun same : accounts.underwriter = _ => external (same ▸ sound.signs)) rfl
        refine ⟨token', stays, exclusive', ?_⟩
        show totalAvailable.toNat ≤ _
        rw [credited]
        exact addedAvailable ▸ Nat.add_le_add_right covers _
  | @withdraw accounts config pool debited before after amount destination tokens stored key
      opened _ external _ _ positionDebited poolDebited paid =>
      have sound := accounted.pools _ _ stored
      obtain ⟨deposited, taken, rfl⟩ := Withdraw.debitPosition_eq_ok.mp positionDebited
      obtain ⟨totalDeposited, totalAvailable, takenDeposits, takenAvailable, rfl⟩ :=
        Withdraw.debitPool_eq_ok.mp poolDebited
      obtain ⟨ownPool, ownUnderwriter⟩ := accounted.position_of_key key opened
      refine accounted.changePosition rfl rfl rfl stored key ⟨ownPool, ownUnderwriter⟩ rfl ?_ ?_ ?_
        (.of_pays paid (.inl rfl))
      · have balanced := sound.balanced
        show totalAvailable.toNat + pool.totalClaimsPaid.toNat =
          totalDeposited.toNat + pool.totalPremiumsEarned.toNat
        omega
      · rw [opened, depositOf, if_pos ownPool]
        show totalDeposited.toNat + before.deposited.toNat = _ + deposited.toNat
        omega
      · obtain ⟨token, found, exclusive, covers⟩ := sound.covered
        obtain ⟨token', stays, exclusive', bound⟩ := paid.exclusive found exclusive
        replace bound : _ ≤ _ + amount.toNat := if_pos rfl ▸ bound
        refine ⟨token', stays, exclusive', ?_⟩
        show totalAvailable.toNat ≤ _
        omega
  | @enableInsurance accounts args pool counted bump _ _ stored _ _ external poolCounted =>
      obtain ⟨-, rfl⟩ := EnableInsurance.countPolicy_eq_ok.mp poolCounted
      exact accounted.change rfl ((accounted.pools _ _ stored).sameFunds rfl rfl rfl rfl rfl rfl
        rfl) (fun _ _ => rfl) (.refl _ _) (fun _ _ found => .inl found)
        (accounted.policies_update external)
  | @disablePolicy poolAccount policyAccount pool policy stored insured _ _ =>
      have external := accounted.policies _ _ insured
      exact accounted.change rfl ((accounted.pools _ _ stored).sameFunds rfl rfl rfl rfl rfl rfl
        rfl) (fun _ _ => rfl) (.refl _ _) (fun _ _ found => .inl found)
        (accounted.policies_update external)
  | @settlePremium accounts config pool credited policy charged agent callValue gross cuts
      referrer tokens stored insured _ found own _ _ policyCharged poolCredited paid =>
      have sound := accounted.pools _ _ stored
      have external := accounted.policies _ _ insured
      obtain ⟨_, -, rfl⟩ := SettlePremium.chargePolicy_eq_ok.mp policyCharged
      obtain ⟨totalPremiumsEarned, totalAvailable, earned, available, rfl⟩ :=
        SettlePremium.creditPool_eq_ok.mp poolCredited
      refine accounted.change rfl ?_ (fun _ _ => rfl)
        (.of_paysAll paid fun payment member => .inl (SettlePremium.mem_payments member).2)
        (fun _ _ found => .inl found)
        (accounted.policies_update external)
      refine ⟨sound.derived, sound.vault, ?_, sound.deposits, ?_⟩
      · have balanced := sound.balanced
        show totalAvailable.toNat + pool.totalClaimsPaid.toNat =
          pool.totalDeposited.toNat + totalPremiumsEarned.toNat
        omega
      · obtain ⟨token, held, exclusive, covers⟩ := sound.covered
        -- The agent's account is not the vault: the vault's owner is derived.
        have separate : accounts.agentToken ≠ pool.vault := by
          intro same
          rw [same] at found
          rw [found token held, exclusive.owner] at own
          exact external (own ▸ sound.signs)
        obtain ⟨token', stays, exclusive', received⟩ := paid.received held exclusive
          fun payment member => (SettlePremium.mem_payments member).1 ▸ separate
        have cut := SettlePremium.pool_cut_le accounts pool.vault referrer cuts
        refine ⟨token', stays, exclusive', ?_⟩
        show totalAvailable.toNat ≤ _
        omega
  | @submitClaim accounts config pool debited policy charged args refund reset bump tokens
      stored insured _ _ _ _ poolDebited policyCharged paid =>
      have sound := accounted.pools _ _ stored
      have external := accounted.policies _ _ insured
      obtain ⟨_, _, -, -, rfl⟩ := SubmitClaim.payPolicy_eq_ok.mp policyCharged
      obtain ⟨totalClaimsPaid, totalAvailable, _, claimed, taken, -, rfl⟩ :=
        SubmitClaim.payPool_eq_ok.mp poolDebited
      have drawn : Spares crypto accounts.pool books.tokens tokens ∧
          ∃ token, tokens pool.vault = some token ∧ token.Exclusive accounts.pool ∧
            totalAvailable.toNat ≤ token.amount.toNat := by
        obtain ⟨token, held, exclusive, covers⟩ := sound.covered
        by_cases due : 0 < refund
        · rw [if_pos due] at paid
          obtain ⟨token', stays, exclusive', bound⟩ := paid.exclusive held exclusive
          replace bound : _ ≤ _ + refund.toNat := if_pos rfl ▸ bound
          exact ⟨.of_pays paid (.inl rfl), token', stays, exclusive', by omega⟩
        · rw [if_neg due] at paid
          subst paid
          exact ⟨.refl _ _, token, held, exclusive, by omega⟩
      refine accounted.change rfl ?_ (fun _ _ => rfl) drawn.1 (fun _ _ found => .inl found)
        (accounted.policies_update external)
      refine ⟨sound.derived, sound.vault, ?_, sound.deposits, drawn.2⟩
      have balanced := sound.balanced
      show totalAvailable.toNat + totalClaimsPaid.toNat =
        pool.totalDeposited.toNat + pool.totalPremiumsEarned.toNat
      omega
  | @outside _ tokens _ kept =>
      refine ⟨fun account pool stored => ?_, accounted.positions, accounted.policies⟩
      have sound := accounted.pools account pool stored
      obtain ⟨token, held, exclusive, covers⟩ := sound.covered
      obtain ⟨token', stays, exclusive', grows⟩ := kept _ token account held sound.signs exclusive
      exact ⟨sound.derived, sound.vault, sound.balanced, sound.deposits, token', stays, exclusive',
        covers.trans grows⟩

end Steps

end PactNetwork.V2
