import Setheum.Lib.Result
import Setheum.Lib.System
import Setheum.Primitives.Arithmetic
import Setheum.Primitives.Currency

/-!
# The DEX oracle

`module_dex_oracle` keeps, for each trading pair whose average price is
enabled, two price cumulatives in `U256`: the sum of the pool's price times
the time it was quoted, extended by `try_update_cumulative` at most once per
timestamp. The DEX calls it through `OnLiquidityPoolUpdated` with the pool
after each change, and `on_initialize` extends it with the current pool and,
once `interval` has passed since the last average, stores the new average: the
growth of the cumulative over the elapsed time.

The DEX and `Time` are part of the state: the pools the pallet reads, and
`now`. The interval of an enabled pair is positive (`enable_average_price` and
`update_average_price_interval` check it), so the division of `on_initialize`
never fails; `AveragePrice` carries that as a field. Each pair's update in
`on_initialize` reads and writes only that pair's entries, so the loop over
`AveragePrices::iter()` is the update of every pair at once.
-/

namespace Setheum.DexOracle

open Result Transition

/-- `ExchangeRate = FixedU128`. -/
abbrev ExchangeRate := FixedU128

/-- `Cumulatives[pair]`: `(Cumulative0, Cumulative1, LastUpdateTimestamp)`. -/
structure Cumulative where
  cumulative0 : Nat
  cumulative1 : Nat
  lastCumulativeTimestamp : Nat
  deriving DecidableEq, Repr

instance : Inhabited Cumulative := ⟨⟨0, 0, 0⟩⟩

/-- `AveragePrices[pair]`: `(AveragePrice0, AveragePrice1, LastCumulative0,
LastCumulative1, LastUpdatePriceTimestamp, IntervalToUpdatePrice)`. -/
structure AveragePrice where
  averagePrice0 : ExchangeRate
  averagePrice1 : ExchangeRate
  lastCumulative0 : Nat
  lastCumulative1 : Nat
  lastUpdatePriceTime : Nat
  updateInterval : Nat
  updateInterval_pos : 0 < updateInterval
  deriving DecidableEq

inductive Error where
  | averagePriceAlreadyEnabled
  | averagePriceMustBeEnabled
  | invalidPool
  | invalidCurrencyId
  | intervalIsZero
  deriving DecidableEq, Repr

/-- The pallet's storage, the DEX's pools, and `Time::now`. -/
structure State where
  cumulatives : TradingPair → Cumulative
  averagePrices : TradingPair → Option AveragePrice
  liquidityPool : TradingPair → Nat × Nat
  now : Nat

namespace State

def setCumulative (s : State) (pair : TradingPair) (c : Cumulative) : State :=
  { s with cumulatives := Function.update s.cumulatives pair c }

def setAveragePrice (s : State) (pair : TradingPair) (a : Option AveragePrice) : State :=
  { s with averagePrices := Function.update s.averagePrices pair a }

variable (s : State) (pair : TradingPair)

@[simp] theorem setCumulative_cumulatives (c) :
    (s.setCumulative pair c).cumulatives = Function.update s.cumulatives pair c := rfl
@[simp] theorem setCumulative_averagePrices (c) :
    (s.setCumulative pair c).averagePrices = s.averagePrices := rfl
@[simp] theorem setCumulative_liquidityPool (c) :
    (s.setCumulative pair c).liquidityPool = s.liquidityPool := rfl
@[simp] theorem setCumulative_now (c) : (s.setCumulative pair c).now = s.now := rfl
@[simp] theorem setAveragePrice_cumulatives (a) :
    (s.setAveragePrice pair a).cumulatives = s.cumulatives := rfl
@[simp] theorem setAveragePrice_averagePrices (a) :
    (s.setAveragePrice pair a).averagePrices = Function.update s.averagePrices pair a := rfl
@[simp] theorem setAveragePrice_liquidityPool (a) :
    (s.setAveragePrice pair a).liquidityPool = s.liquidityPool := rfl
@[simp] theorem setAveragePrice_now (a) : (s.setAveragePrice pair a).now = s.now := rfl

end State

/-- `ExchangeRate::checked_from_rational(n, d).unwrap_or_default().into_inner()`. -/
def rateInner (n d : Nat) : Nat := ((FixedU128.checkedFromRational n d).getD default).inner

/-- `saturated_into::<u128>()` of a `U256`. -/
def saturatedIntoU128 (a : Nat) : Nat := min a (2 ^ 128 - 1)

theorem saturatedIntoU128_lt (a : Nat) : saturatedIntoU128 a < 2 ^ 128 := by
  unfold saturatedIntoU128
  omega

/-- `ExchangeRate::from_inner` of a saturated `U256`. -/
def fromInnerSaturated (a : Nat) : ExchangeRate := ⟨saturatedIntoU128 a, saturatedIntoU128_lt a⟩

/-- `try_update_cumulative`: for an enabled pair, at most once per timestamp,
each cumulative grows by the price of the given pool times the time since the
last extension. -/
def tryUpdateCumulative (pair : TradingPair) (pool0 pool1 : Nat) (s : State) : State :=
  if (s.averagePrices pair).isSome then
    let c := s.cumulatives pair
    if c.lastCumulativeTimestamp ≠ s.now then
      let elapsedTime := s.now - c.lastCumulativeTimestamp
      let increasedCumulative0 := U256.saturatingMul (rateInner pool1 pool0) elapsedTime
      let increasedCumulative1 := U256.saturatingMul (rateInner pool0 pool1) elapsedTime
      s.setCumulative pair ⟨U256.saturatingAdd c.cumulative0 increasedCumulative0,
        U256.saturatingAdd c.cumulative1 increasedCumulative1, s.now⟩
    else s
  else s

/-- `Happened::happened`: the DEX reports a pool. -/
def happened (pair : TradingPair) (pool0 pool1 : Nat) (s : State) : State :=
  tryUpdateCumulative pair pool0 pool1 s

/-- `get_current_price`: both prices of the pair's pool, if both exist. -/
def getCurrentPrice (pair : TradingPair) (s : State) : Option (ExchangeRate × ExchangeRate) :=
  let (pool0, pool1) := s.liquidityPool pair
  match FixedU128.checkedFromRational pool1 pool0, FixedU128.checkedFromRational pool0 pool1 with
  | some price0, some price1 => some (price0, price1)
  | _, _ => none

/-- The body of the `on_initialize` loop for one enabled pair, once its
interval has passed: the cumulative is extended with the current pool, and
the average over the elapsed time is stored with the cumulatives it started
from. The elapsed time is at least the interval, so it is positive. -/
def updateAveragePrice (pair : TradingPair) (a : AveragePrice) (s : State) : State :=
  let elapsedTime := s.now - a.lastUpdatePriceTime
  let (pool0, pool1) := s.liquidityPool pair
  let s := tryUpdateCumulative pair pool0 pool1 s
  let c := s.cumulatives pair
  let averagePrice0 := fromInnerSaturated ((c.cumulative0 - a.lastCumulative0) / elapsedTime)
  let averagePrice1 := fromInnerSaturated ((c.cumulative1 - a.lastCumulative1) / elapsedTime)
  s.setAveragePrice pair (some ⟨averagePrice0, averagePrice1, c.cumulative0, c.cumulative1,
    s.now, a.updateInterval, a.updateInterval_pos⟩)

/-- What the `on_initialize` loop leaves for one pair. -/
def onInitializePair (pair : TradingPair) (s : State) : Cumulative × Option AveragePrice :=
  match s.averagePrices pair with
  | some a =>
      if a.updateInterval ≤ s.now - a.lastUpdatePriceTime then
        let s := updateAveragePrice pair a s
        (s.cumulatives pair, s.averagePrices pair)
      else (s.cumulatives pair, s.averagePrices pair)
  | none => (s.cumulatives pair, s.averagePrices pair)

/-- `on_initialize`: every enabled pair whose interval has passed. -/
def onInitialize (s : State) : State :=
  { s with
    cumulatives := fun pair => (onInitializePair pair s).1
    averagePrices := fun pair => (onInitializePair pair s).2 }

/-- `enable_average_price`, by `UpdateOrigin`. -/
def enableAveragePrice (currencyIdA currencyIdB : CurrencyId) (interval : Nat) (s : State) :
    Except Error State := do
  let tradingPair ← okOr (TradingPair.fromCurrencyIds currencyIdA currencyIdB) .invalidCurrencyId
  ensure (s.averagePrices tradingPair).isNone .averagePriceAlreadyEnabled
  if h : interval = 0 then throw .intervalIsZero
  else
    let (initialPrice0, initialPrice1) ← okOr (getCurrentPrice tradingPair s) .invalidPool
    let s := s.setAveragePrice tradingPair
      (some ⟨initialPrice0, initialPrice1, 0, 0, s.now, interval, Nat.pos_of_ne_zero h⟩)
    pure (s.setCumulative tradingPair ⟨0, 0, s.now⟩)

/-- `disable_average_price`, by `UpdateOrigin`. -/
def disableAveragePrice (currencyIdA currencyIdB : CurrencyId) (s : State) : Except Error State := do
  let tradingPair ← okOr (TradingPair.fromCurrencyIds currencyIdA currencyIdB) .invalidCurrencyId
  let _ ← okOr (s.averagePrices tradingPair) .averagePriceMustBeEnabled
  pure ((s.setAveragePrice tradingPair none).setCumulative tradingPair default)

/-- `update_average_price_interval`, by `UpdateOrigin`. -/
def updateAveragePriceInterval (currencyIdA currencyIdB : CurrencyId) (newInterval : Nat)
    (s : State) : Except Error State := do
  let tradingPair ← okOr (TradingPair.fromCurrencyIds currencyIdA currencyIdB) .invalidCurrencyId
  let a ← okOr (s.averagePrices tradingPair) .averagePriceMustBeEnabled
  if h : newInterval = 0 then throw .intervalIsZero
  else pure (s.setAveragePrice tradingPair
    (some { a with updateInterval := newInterval, updateInterval_pos := Nat.pos_of_ne_zero h }))

/-- The DEX's `try_mutate_liquidity_pool` leaving the pool at `(pool0, pool1)`:
the hook runs, with the new pool, when the pool changed. -/
def liquidityPoolUpdated (pair : TradingPair) (pool0 pool1 : Nat) (s : State) : State :=
  let changed := s.liquidityPool pair != (pool0, pool1)
  let s := { s with liquidityPool := Function.update s.liquidityPool pair (pool0, pool1) }
  if changed then happened pair pool0 pool1 s else s

/-- The pallet's calls, the DEX's pool changes, `on_initialize`, and time
passing. -/
inductive Call where
  | enableAveragePrice (currencyIdA currencyIdB : CurrencyId) (interval : Nat)
  | disableAveragePrice (currencyIdA currencyIdB : CurrencyId)
  | updateAveragePriceInterval (currencyIdA currencyIdB : CurrencyId) (newInterval : Nat)
  | liquidityPoolUpdated (pair : TradingPair) (pool0 pool1 : Nat)
  | onInitialize
  | tick (d : Nat)

def dispatch (s : State) : Call → Except Error State
  | .enableAveragePrice a b interval => enableAveragePrice a b interval s
  | .disableAveragePrice a b => disableAveragePrice a b s
  | .updateAveragePriceInterval a b newInterval => updateAveragePriceInterval a b newInterval s
  | .liquidityPoolUpdated pair pool0 pool1 => pure (liquidityPoolUpdated pair pool0 pool1 s)
  | .onInitialize => pure (onInitialize s)
  | .tick d => pure { s with now := s.now + d }

/-- The pallet from empty storage, over any pools and any time. -/
def system : Transition.System State Call where
  init s := s.cumulatives = (fun _ => default) ∧ s.averagePrices = fun _ => none
  step s call := (dispatch s call).toOption

end Setheum.DexOracle
