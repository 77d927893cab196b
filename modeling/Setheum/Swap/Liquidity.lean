import Mathlib
import Setheum.Swap.Inversion
import Setheum.Swap.Provisioning

/-!
# Adding and removing liquidity

What a provider gets for its deposit, against the pool and the share supply
it joins. Every rate `do_add_liquidity` and `do_remove_liquidity` use is
rounded down, so the shares issued are worth at most the deposit and the
amounts withdrawn at most the shares burnt: no other provider is diluted.
The amount taken of the pool's second currency stays within its maximum;
the first does not, since the branch is chosen by comparing two rounded
rates.
-/

namespace Setheum.Swap

variable {AccountId L : Type}

@[simp] theorem orient_orient (p : TradingPair) (currencyIdA : CurrencyId) (x y : Nat) :
    orient p currencyIdA (orient p currencyIdA x y).1 (orient p currencyIdA x y).2 = (x, y) := by
  unfold orient
  split_ifs <;> rfl

theorem share_le_of_rate {x y z p q S : Nat} (hp : 0 < p) (hx : x * p ≤ y * S) (hy : y * q ≤ p * z) :
    x * q ≤ z * S := by
  refine Nat.le_of_mul_le_mul_left ?_ hp
  calc p * (x * q) = x * p * q := by ring
    _ ≤ y * S * q := Nat.mul_le_mul_right q hx
    _ = y * q * S := by ring
    _ ≤ p * z * S := Nat.mul_le_mul_right S hy
    _ = p * (z * S) := by ring

/-- Into a pool with shares issued, `liquidityIncrement` issues shares worth
at most each amount it takes, and takes at most `max1` of the second
currency. -/
theorem liquidityIncrement_no_dilution {pool0 pool1 max0 max1 totalShares : Nat}
    {increment : Nat × Nat × Nat} (hS : totalShares ≠ 0)
    (h : liquidityIncrement pool0 pool1 max0 max1 totalShares = .ok increment) :
    increment.2.2 * pool0 ≤ increment.1 * totalShares ∧
      increment.2.2 * pool1 ≤ increment.2.1 * totalShares ∧ increment.2.1 ≤ max1 := by
  unfold liquidityIncrement at h
  rw [if_neg hS] at h
  simp only [bind_eq_ok, okOr_eq_ok] at h
  obtain ⟨rate01, hrate01, inputRate01, hinput, h⟩ := h
  split_ifs at h with hcmp
  · -- `max0` may be too much: `amount0` from `max1` at the pool's rate
    simp only [bind_eq_ok, okOr_eq_ok, FixedU128.checkedMulInt_eq_some, Option.bind_eq_some_iff,
      pure_eq_ok] at h
    obtain ⟨rate10, hrate10, amount0, ⟨-, rfl⟩, share, ⟨ratio, hratio, -, rfl⟩, rfl⟩ := h
    have hpool0 := Nat.pos_of_ne_zero (FixedU128.checkedFromRational_eq_some.mp hratio).1
    have h0 := FixedU128.mulFloor_mul_le hratio totalShares
    exact ⟨h0, share_le_of_rate hpool0 h0 (FixedU128.mulFloor_mul_le hrate10 max1), Nat.le_refl _⟩
  · -- `max1` is too much: `amount1` from `max0` at the pool's rate
    simp only [bind_eq_ok, okOr_eq_ok, FixedU128.checkedMulInt_eq_some, Option.bind_eq_some_iff,
      pure_eq_ok] at h
    obtain ⟨amount1, ⟨-, rfl⟩, share, ⟨ratio, hratio, -, rfl⟩, rfl⟩ := h
    have hpool1 := Nat.pos_of_ne_zero (FixedU128.checkedFromRational_eq_some.mp hratio).1
    have h1 := FixedU128.mulFloor_mul_le hratio totalShares
    refine ⟨share_le_of_rate hpool1 h1 (FixedU128.mulFloor_mul_le hrate01 max0), h1, ?_⟩
    exact Nat.le_of_lt (FixedU128.mulFloor_lt_of_inner_lt hinput (Nat.lt_of_not_le hcmp))

variable (T : Config AccountId L)

/-- A successful `do_add_liquidity` into a pool with shares issued meets the
caller's share minimum, issues shares worth at most each amount it takes (in
the pair's order), and takes at most the maximum of the pair's second
currency. -/
theorem doAddLiquidity_no_dilution {s : State AccountId L} {who : AccountId} {a b : CurrencyId}
    {maxAmountA maxAmountB minShareIncrement : Nat} {stakeIncrementShare : Bool}
    {r : (Nat × Nat × Nat) × State AccountId L} {p : TradingPair}
    (hp : TradingPair.fromCurrencyIds a b = some p)
    (hS : T.currency.totalIssuance s.ledger p.dexShareCurrencyId ≠ 0)
    (h : doAddLiquidity T s who a b maxAmountA maxAmountB minShareIncrement stakeIncrementShare = .ok r) :
    minShareIncrement ≤ r.1.2.2 ∧
      r.1.2.2 * (s.liquidityPool p).1 ≤
        (orient p a r.1.1 r.1.2.1).1 * T.currency.totalIssuance s.ledger p.dexShareCurrencyId ∧
      r.1.2.2 * (s.liquidityPool p).2 ≤
        (orient p a r.1.1 r.1.2.1).2 * T.currency.totalIssuance s.ledger p.dexShareCurrencyId ∧
      (orient p a r.1.1 r.1.2.1).2 ≤ (orient p a maxAmountA maxAmountB).2 := by
  obtain ⟨p', increment, hp', -, -, -, hinc, -, -, -, hmin, -, -, -, -, -, -, -, -, -, -, rfl⟩ :=
    doAddLiquidity_ok T h
  obtain rfl : p' = p := Option.some.inj (hp'.symm.trans hp)
  obtain ⟨h0, h1, hmax⟩ := liquidityIncrement_no_dilution hS hinc
  simp only [orient_orient]
  exact ⟨hmin, h0, h1, hmax⟩

namespace Reference

/-- A pool of `SEU` and `SEUSD` holding `10 ^ 19` of each, with `10 ^ 19`
shares issued to `bob`; `alice` holds `2 * 10 ^ 19` of each currency. -/
def liquidityLedger : Balances Account := fun c who =>
  if who = .alice ∧ (c = .token .SEU ∨ c = .token .SEUSD) then 2 * 10 ^ 19
  else if who = .bob ∧ c = .dexShare (.token .SEU) (.token .SEUSD) then 10 ^ 19
  else if who = .dex ∧ (c = .token .SEU ∨ c = .token .SEUSD) then 10 ^ 19
  else 0

def liquidityState : State Account (Balances Account) where
  ledger := liquidityLedger
  blockNumber := 0
  liquidityPool _ := (10 ^ 19, 10 ^ 19)
  tradingPairStatuses _ := .enabled
  provisioningPool _ _ := none
  initialShareExchangeRates _ := (FixedU128.zero, FixedU128.zero)

end Reference

/-- `alice` adds at most `10 ^ 19` of `SEU` and `10 ^ 19 + 1` of `SEUSD`:
both rates round to one, the first branch is taken, and `10 ^ 19 + 1` of
`SEU` is taken. -/
theorem doAddLiquidity_exceeds_max_amount :
    (doAddLiquidity Reference.testConfig Reference.liquidityState .alice (.token .SEU) (.token .SEUSD)
        (10 ^ 19) (10 ^ 19 + 1) 0 false).toOption.map Prod.fst =
      some (10 ^ 19 + 1, 10 ^ 19 + 1, 10 ^ 19) := by
  decide

theorem doRemoveLiquidity_no_dilution {s : State AccountId L} {who : AccountId} {a b : CurrencyId}
    {removeShare minWithdrawnA minWithdrawnB : Nat} {byUnstake : Bool} {r : (Nat × Nat) × State AccountId L}
    {p : TradingPair} (hp : TradingPair.fromCurrencyIds a b = some p)
    (h : doRemoveLiquidity T s who a b removeShare minWithdrawnA minWithdrawnB byUnstake = .ok r) :
    (orient p a r.1.1 r.1.2).1 * T.currency.totalIssuance s.ledger p.dexShareCurrencyId ≤
        removeShare * (s.liquidityPool p).1 ∧
      (orient p a r.1.1 r.1.2).2 * T.currency.totalIssuance s.ledger p.dexShareCurrencyId ≤
        removeShare * (s.liquidityPool p).2 := by
  rcases doRemoveLiquidity_ok T h with ⟨-, rfl⟩ | ⟨-, p', proportion, hp', h⟩
  · -- nothing to remove
    unfold orient
    split_ifs <;> simp
  · obtain rfl : p' = p := Option.some.inj (hp'.symm.trans hp)
    obtain ⟨hprop, -, -, -, -, -, -, -, -, -, -, -, -, -, -, -, rfl⟩ := h
    simp only [orient_orient]
    exact ⟨FixedU128.mulFloor_mul_le hprop _, FixedU128.mulFloor_mul_le hprop _⟩

/-- Liquidity moves never dilute the other providers: adding to a pool with
shares issued meets the caller's minimum, issues shares worth at most each
amount taken and takes at most the maximum of the pair's second currency;
removing pays at most the burnt shares' part of each side of the pool. -/
theorem liquidity_no_dilution {a b : CurrencyId} {p : TradingPair} (hp : TradingPair.fromCurrencyIds a b = some p)
    (s : State AccountId L) (who : AccountId) :
    (∀ maxAmountA maxAmountB minShareIncrement stakeIncrementShare (r : (Nat × Nat × Nat) × State AccountId L),
      T.currency.totalIssuance s.ledger p.dexShareCurrencyId ≠ 0 →
      doAddLiquidity T s who a b maxAmountA maxAmountB minShareIncrement stakeIncrementShare = .ok r →
      minShareIncrement ≤ r.1.2.2 ∧
        r.1.2.2 * (s.liquidityPool p).1 ≤
          (orient p a r.1.1 r.1.2.1).1 * T.currency.totalIssuance s.ledger p.dexShareCurrencyId ∧
        r.1.2.2 * (s.liquidityPool p).2 ≤
          (orient p a r.1.1 r.1.2.1).2 * T.currency.totalIssuance s.ledger p.dexShareCurrencyId ∧
        (orient p a r.1.1 r.1.2.1).2 ≤ (orient p a maxAmountA maxAmountB).2) ∧
    ∀ removeShare minWithdrawnA minWithdrawnB byUnstake (r : (Nat × Nat) × State AccountId L),
      doRemoveLiquidity T s who a b removeShare minWithdrawnA minWithdrawnB byUnstake = .ok r →
      (orient p a r.1.1 r.1.2).1 * T.currency.totalIssuance s.ledger p.dexShareCurrencyId ≤
          removeShare * (s.liquidityPool p).1 ∧
        (orient p a r.1.1 r.1.2).2 * T.currency.totalIssuance s.ledger p.dexShareCurrencyId ≤
          removeShare * (s.liquidityPool p).2 :=
  ⟨fun _ _ _ _ _ hS h => doAddLiquidity_no_dilution T hp hS h,
    fun _ _ _ _ _ h => doRemoveLiquidity_no_dilution T hp h⟩

/-- Alice adds 10^18 of each token to the pool of 10^19 and gets 10^18
shares, worth no more than the SEU she adds. -/
theorem liquidity_no_dilution_reference :
    ∃ r, doAddLiquidity Reference.testConfig Reference.liquidityState .alice (.token .SEU) (.token .SEUSD)
        (10 ^ 18) (10 ^ 18) 0 false = .ok r ∧ r.1 = (10 ^ 18, 10 ^ 18, 10 ^ 18) ∧
      r.1.2.2 * (Reference.liquidityState.liquidityPool Reference.seuSeusd).1 ≤
        r.1.1 * Reference.testConfig.currency.totalIssuance Reference.liquidityState.ledger
          Reference.seuSeusd.dexShareCurrencyId := by
  have hp : TradingPair.fromCurrencyIds (.token .SEU) (.token .SEUSD) = some Reference.seuSeusd := by decide
  obtain ⟨r, hr⟩ := Option.isSome_iff_exists.1
    (by decide : (doAddLiquidity Reference.testConfig Reference.liquidityState .alice (.token .SEU)
      (.token .SEUSD) (10 ^ 18) (10 ^ 18) 0 false).toOption.isSome)
  have hadd := toOption_eq_some.1 hr
  have hamounts : r.1 = (10 ^ 18, 10 ^ 18, 10 ^ 18) := by
    have h : (doAddLiquidity Reference.testConfig Reference.liquidityState .alice (.token .SEU)
        (.token .SEUSD) (10 ^ 18) (10 ^ 18) 0 false).toOption.map Prod.fst = some (10 ^ 18, 10 ^ 18, 10 ^ 18) := by
      decide
    rw [hr] at h
    exact Option.some.inj h
  obtain ⟨-, hshare, -⟩ := (liquidity_no_dilution Reference.testConfig hp Reference.liquidityState .alice).1
    _ _ _ _ r (by decide) hadd
  have horient : (orient Reference.seuSeusd (.token .SEU) r.1.1 r.1.2.1).1 = r.1.1 := by
    simp [orient, Reference.seuSeusd]
  exact ⟨r, hadd, hamounts, horient ▸ hshare⟩

end Setheum.Swap
