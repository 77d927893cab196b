import Setheum.Swap.State

/-!
# Pricing and trading paths

`get_liquidity`, the constant-product quotes `get_target_amount` and
`get_supply_amount` (in saturating `U256` arithmetic, as the source computes
them), `validate_path`, and the two path quotes. The `while` loop of
`get_target_amounts` walks the path forwards; the loop of
`get_supply_amounts` walks it backwards, so `supplyAmountsTo` checks the
hops after `a → b` before `a → b` itself, in the loop's order.
-/

namespace Setheum.Swap

variable {AccountId L : Type} (T : Config AccountId L)

/-- `get_liquidity`: the pool of the pair of `a` and `b`, seen from `a`. -/
def getLiquidity (s : State AccountId L) (currencyIdA currencyIdB : CurrencyId) : Nat × Nat :=
  match TradingPair.fromCurrencyIds currencyIdA currencyIdB with
  | some tradingPair =>
      if currencyIdA = tradingPair.first then s.liquidityPool tradingPair
      else ((s.liquidityPool tradingPair).2, (s.liquidityPool tradingPair).1)
  | none => (0, 0)

/-- `get_target_amount`. -/
def getTargetAmount (supplyPool targetPool supplyAmount : Nat) : Nat :=
  if supplyAmount = 0 ∨ supplyPool = 0 ∨ targetPool = 0 then 0
  else
    let feeNumerator := T.getExchangeFee.1
    let feeDenominator := T.getExchangeFee.2
    let supplyAmountWithFee := U256.saturatingMul supplyAmount (feeDenominator - feeNumerator)
    let numerator := U256.saturatingMul supplyAmountWithFee targetPool
    let denominator :=
      U256.saturatingAdd (U256.saturatingMul supplyPool feeDenominator) supplyAmountWithFee
    ((U256.checkedDiv numerator denominator).bind U256.tryIntoBalance).getD 0

/-- `get_supply_amount`; one is added to the quotient to make up for the
remainder the division drops. -/
def getSupplyAmount (supplyPool targetPool targetAmount : Nat) : Nat :=
  if targetAmount = 0 ∨ supplyPool = 0 ∨ targetPool = 0 then 0
  else
    let feeNumerator := T.getExchangeFee.1
    let feeDenominator := T.getExchangeFee.2
    let numerator :=
      U256.saturatingMul (U256.saturatingMul supplyPool targetAmount) feeDenominator
    let denominator :=
      U256.saturatingMul (U256.saturatingSub targetPool targetAmount) (feeDenominator - feeNumerator)
    (((U256.checkedDiv numerator denominator).bind fun r => U256.checkedAdd r 1).bind
      U256.tryIntoBalance).getD 0

/-- `validate_path`. -/
def validatePath (path : List CurrencyId) : Except DispatchError Unit := do
  ensure (2 ≤ path.length ∧ path.length ≤ T.tradingPathLimit) (.module .invalidTradingPathLength)
  ensure (path.head? ≠ path.getLast?) (.module .invalidTradingPath)

/-- The checks of one hop `a → b` of a quote: the pair exists, is `Enabled`
and has liquidity on both sides. -/
def hopLiquidity (s : State AccountId L) (currencyIdA currencyIdB : CurrencyId) :
    Except DispatchError (Nat × Nat) := do
  let tradingPair ← okOr (TradingPair.fromCurrencyIds currencyIdA currencyIdB)
    (.module .invalidCurrencyId)
  ensure (s.tradingPairStatuses tradingPair = .enabled) (.module .mustBeEnabled)
  let pools := getLiquidity s currencyIdA currencyIdB
  ensure (pools.1 ≠ 0 ∧ pools.2 ≠ 0) (.module .insufficientLiquidity)
  return pools

/-- The loop of `get_target_amounts` from the hop `a → b` on, given what is
supplied to it: the amounts at each currency from `a` on. -/
def targetAmountsFrom (s : State AccountId L) :
    List CurrencyId → Nat → Except DispatchError (List Nat)
  | a :: b :: rest, supplyAmount => do
      let pools ← hopLiquidity s a b
      let targetAmount := getTargetAmount T pools.1 pools.2 supplyAmount
      ensure (targetAmount ≠ 0) (.module .zeroTargetAmount)
      let later ← targetAmountsFrom s (b :: rest) targetAmount
      return supplyAmount :: later
  | _, supplyAmount => return [supplyAmount]

/-- `get_target_amounts`. -/
def getTargetAmounts (s : State AccountId L) (path : List CurrencyId) (supplyAmount : Nat) :
    Except DispatchError (List Nat) := do
  validatePath T path
  targetAmountsFrom T s path supplyAmount

/-- The loop of `get_supply_amounts` over the hops from `a → b` on, last hop
first, given what the path must deliver: the amount supplied at `a`, and the
amounts at each currency from `a` on. -/
def supplyAmountsTo (s : State AccountId L) :
    List CurrencyId → Nat → Except DispatchError (Nat × List Nat)
  | a :: b :: rest, targetAmount => do
      let later ← supplyAmountsTo s (b :: rest) targetAmount
      let pools ← hopLiquidity s a b
      let supplyAmount := getSupplyAmount T pools.1 pools.2 later.1
      ensure (supplyAmount ≠ 0) (.module .zeroSupplyAmount)
      return (supplyAmount, supplyAmount :: later.2)
  | _, targetAmount => return (targetAmount, [targetAmount])

/-- `get_supply_amounts`. -/
def getSupplyAmounts (s : State AccountId L) (path : List CurrencyId) (targetAmount : Nat) :
    Except DispatchError (List Nat) := do
  validatePath T path
  let amounts ← supplyAmountsTo T s path targetAmount
  return amounts.2

end Setheum.Swap
