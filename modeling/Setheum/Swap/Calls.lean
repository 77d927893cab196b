import Mathlib
import Setheum.Swap.Pricing
import Setheum.Lib.System

/-!
# The calls of the swap pallet

Every dispatchable of `module-swap` and the internal functions they call.
`swap-legacy` is the same code except that its `add_liquidity` may stake the
new shares in `Incentives`; `doAddLiquidity` takes that flag, and the swap
pallet's call always passes `false`. A dispatchable is transactional: when it
fails nothing it wrote is kept, which the `Except` result models directly.
-/

namespace Setheum.Swap

variable {AccountId L : Type}

instance : Inhabited CurrencyId := ⟨.token .SEU⟩

/-! ## Storage writes -/

namespace State

def setLedger (s : State AccountId L) (ledger : L) : State AccountId L := { s with ledger }

def setPool (s : State AccountId L) (p : TradingPair) (pool : Nat × Nat) : State AccountId L :=
  { s with liquidityPool := Function.update s.liquidityPool p pool }

def setStatus (s : State AccountId L) (p : TradingPair) (status : TradingPairStatus) :
    State AccountId L :=
  { s with tradingPairStatuses := Function.update s.tradingPairStatuses p status }

def setRates (s : State AccountId L) (p : TradingPair) (rates : FixedU128 × FixedU128) :
    State AccountId L :=
  { s with initialShareExchangeRates := Function.update s.initialShareExchangeRates p rates }

@[simp] theorem setLedger_ledger (s : State AccountId L) (l : L) : (s.setLedger l).ledger = l := rfl
@[simp] theorem setLedger_blockNumber (s : State AccountId L) (l : L) :
    (s.setLedger l).blockNumber = s.blockNumber := rfl
@[simp] theorem setLedger_pool (s : State AccountId L) (l : L) :
    (s.setLedger l).liquidityPool = s.liquidityPool := rfl
@[simp] theorem setLedger_status (s : State AccountId L) (l : L) :
    (s.setLedger l).tradingPairStatuses = s.tradingPairStatuses := rfl
@[simp] theorem setLedger_provision (s : State AccountId L) (l : L) :
    (s.setLedger l).provisioningPool = s.provisioningPool := rfl
@[simp] theorem setLedger_rates (s : State AccountId L) (l : L) :
    (s.setLedger l).initialShareExchangeRates = s.initialShareExchangeRates := rfl

@[simp] theorem setPool_ledger (s : State AccountId L) (p v) : (s.setPool p v).ledger = s.ledger := rfl
@[simp] theorem setPool_blockNumber (s : State AccountId L) (p v) :
    (s.setPool p v).blockNumber = s.blockNumber := rfl
@[simp] theorem setPool_pool (s : State AccountId L) (p v) :
    (s.setPool p v).liquidityPool = Function.update s.liquidityPool p v := rfl
@[simp] theorem setPool_status (s : State AccountId L) (p v) :
    (s.setPool p v).tradingPairStatuses = s.tradingPairStatuses := rfl
@[simp] theorem setPool_provision (s : State AccountId L) (p v) :
    (s.setPool p v).provisioningPool = s.provisioningPool := rfl
@[simp] theorem setPool_rates (s : State AccountId L) (p v) :
    (s.setPool p v).initialShareExchangeRates = s.initialShareExchangeRates := rfl

@[simp] theorem setStatus_ledger (s : State AccountId L) (p v) :
    (s.setStatus p v).ledger = s.ledger := rfl
@[simp] theorem setStatus_blockNumber (s : State AccountId L) (p v) :
    (s.setStatus p v).blockNumber = s.blockNumber := rfl
@[simp] theorem setStatus_pool (s : State AccountId L) (p v) :
    (s.setStatus p v).liquidityPool = s.liquidityPool := rfl
@[simp] theorem setStatus_status (s : State AccountId L) (p v) :
    (s.setStatus p v).tradingPairStatuses = Function.update s.tradingPairStatuses p v := rfl
@[simp] theorem setStatus_provision (s : State AccountId L) (p v) :
    (s.setStatus p v).provisioningPool = s.provisioningPool := rfl
@[simp] theorem setStatus_rates (s : State AccountId L) (p v) :
    (s.setStatus p v).initialShareExchangeRates = s.initialShareExchangeRates := rfl

@[simp] theorem setRates_ledger (s : State AccountId L) (p v) : (s.setRates p v).ledger = s.ledger := rfl
@[simp] theorem setRates_blockNumber (s : State AccountId L) (p v) :
    (s.setRates p v).blockNumber = s.blockNumber := rfl
@[simp] theorem setRates_pool (s : State AccountId L) (p v) :
    (s.setRates p v).liquidityPool = s.liquidityPool := rfl
@[simp] theorem setRates_status (s : State AccountId L) (p v) :
    (s.setRates p v).tradingPairStatuses = s.tradingPairStatuses := rfl
@[simp] theorem setRates_provision (s : State AccountId L) (p v) :
    (s.setRates p v).provisioningPool = s.provisioningPool := rfl
@[simp] theorem setRates_rates (s : State AccountId L) (p v) :
    (s.setRates p v).initialShareExchangeRates = Function.update s.initialShareExchangeRates p v := rfl

variable [DecidableEq AccountId]

def setProvision (s : State AccountId L) (p : TradingPair) (who : AccountId)
    (contribution : Option (Nat × Nat)) : State AccountId L :=
  { s with provisioningPool :=
      Function.update s.provisioningPool p (Function.update (s.provisioningPool p) who contribution) }

@[simp] theorem setProvision_ledger (s : State AccountId L) (p who v) :
    (s.setProvision p who v).ledger = s.ledger := rfl
@[simp] theorem setProvision_blockNumber (s : State AccountId L) (p who v) :
    (s.setProvision p who v).blockNumber = s.blockNumber := rfl
@[simp] theorem setProvision_pool (s : State AccountId L) (p who v) :
    (s.setProvision p who v).liquidityPool = s.liquidityPool := rfl
@[simp] theorem setProvision_status (s : State AccountId L) (p who v) :
    (s.setProvision p who v).tradingPairStatuses = s.tradingPairStatuses := rfl
@[simp] theorem setProvision_provision (s : State AccountId L) (p who v) :
    (s.setProvision p who v).provisioningPool =
      Function.update s.provisioningPool p (Function.update (s.provisioningPool p) who v) := rfl
@[simp] theorem setProvision_rates (s : State AccountId L) (p who v) :
    (s.setProvision p who v).initialShareExchangeRates = s.initialShareExchangeRates := rfl

variable [Fintype AccountId]

/-- `ProvisioningPool::iter_prefix(p).next().is_none()`. -/
def provisioningPoolIsEmpty (s : State AccountId L) (p : TradingPair) : Bool :=
  decide (∀ who, s.provisioningPool p who = none)

end State

variable [DecidableEq AccountId] [Fintype AccountId]

/-- The default of `InitialShareExchangeRates`. -/
def defaultRates : FixedU128 × FixedU128 := (FixedU128.zero, FixedU128.zero)

def TradingPairStatus.isProvisioning : TradingPairStatus → Bool
  | .provisioning _ => true
  | _ => false

variable (T : Config AccountId L)

/-- A pair's own orientation of two amounts given for `currencyIdA, currencyIdB`. -/
def orient (p : TradingPair) (currencyIdA : CurrencyId) (amountA amountB : Nat) : Nat × Nat :=
  if currencyIdA = p.first then (amountA, amountB) else (amountB, amountA)

/-! ## Provisioning -/

/-- `do_claim_dex_share`. -/
def doClaimDexShare (s : State AccountId L) (who : AccountId) (currencyIdA currencyIdB : CurrencyId) :
    Except DispatchError (State AccountId L) := do
  let tradingPair ← okOr (TradingPair.fromCurrencyIds currencyIdA currencyIdB)
    (.module .invalidCurrencyId)
  ensure (!(s.tradingPairStatuses tradingPair).isProvisioning) (.module .stillProvisioning)
  let s ← match s.provisioningPool tradingPair who with
    | some contribution => do
        let rates := s.initialShareExchangeRates tradingPair
        let shares0 ← okOr (rates.1.checkedMulInt contribution.1) (.arithmetic .overflow)
        let shares1 ← okOr (rates.2.checkedMulInt contribution.2) (.arithmetic .overflow)
        let sharesToClaim ← okOr (Balance.checkedAdd shares0 shares1) (.arithmetic .overflow)
        let ledger ← external (T.currency.transfer tradingPair.dexShareCurrencyId T.palletAccount who
          sharesToClaim s.ledger)
        pure ((s.setProvision tradingPair who none).setLedger ledger)
    | none => pure s
  -- clear `InitialShareExchangeRates` once it is all claimed
  if s.provisioningPoolIsEmpty tradingPair then pure (s.setRates tradingPair defaultRates)
  else pure s

/-- `do_add_provision`. -/
def doAddProvision (s : State AccountId L) (who : AccountId) (currencyIdA currencyIdB : CurrencyId)
    (contributionA contributionB : Nat) : Except DispatchError (State AccountId L) := do
  let tradingPair ← okOr (TradingPair.fromCurrencyIds currencyIdA currencyIdB)
    (.module .invalidCurrencyId)
  let parameters ← match s.tradingPairStatuses tradingPair with
    | .provisioning parameters => pure parameters
    | _ => throw (.module .mustBeProvisioning)
  let contribution := orient tradingPair currencyIdA contributionA contributionB
  ensure (contribution.1 ≥ parameters.minContribution.1 || contribution.2 ≥ parameters.minContribution.2)
    (.module .invalidContributionIncrement)
  let pool := (s.provisioningPool tradingPair who).getD (0, 0)
  let pool0 ← okOr (Balance.checkedAdd pool.1 contribution.1) (.arithmetic .overflow)
  let pool1 ← okOr (Balance.checkedAdd pool.2 contribution.2) (.arithmetic .overflow)
  let ledger ← external (T.currency.transfer tradingPair.first who T.palletAccount contribution.1 s.ledger)
  let ledger ← external (T.currency.transfer tradingPair.second who T.palletAccount contribution.2 ledger)
  let accumulated0 ← okOr (Balance.checkedAdd parameters.accumulatedProvision.1 contribution.1)
    (.arithmetic .overflow)
  let accumulated1 ← okOr (Balance.checkedAdd parameters.accumulatedProvision.2 contribution.2)
    (.arithmetic .overflow)
  pure (((s.setLedger ledger).setProvision tradingPair who (some (pool0, pool1))).setStatus tradingPair
    (.provisioning { parameters with accumulatedProvision := (accumulated0, accumulated1) }))

/-! ## Liquidity -/

/-- The amounts `do_add_liquidity` takes from `max0, max1` and the shares it
issues for them. -/
def liquidityIncrement (pool0 pool1 max0 max1 totalShares : Nat) :
    Except DispatchError (Nat × Nat × Nat) :=
  if totalShares = 0 then do
    -- directly use token_0 as base to calculate initial dex share amount
    let rate1 ← okOr (FixedU128.checkedFromRational max0 max1) (.arithmetic .overflow)
    let shares0 ← okOr (FixedU128.one.checkedMulInt max0) (.arithmetic .overflow)
    let shares1 ← okOr (rate1.checkedMulInt max1) (.arithmetic .overflow)
    let initialShares ← okOr (Balance.checkedAdd shares0 shares1) (.arithmetic .overflow)
    pure (max0, max1, initialShares)
  else do
    let rate01 ← okOr (FixedU128.checkedFromRational pool1 pool0) (.arithmetic .overflow)
    let inputRate01 ← okOr (FixedU128.checkedFromRational max1 max0) (.arithmetic .overflow)
    if inputRate01 ≤ rate01 then do
      -- `max0` may be too much: the actual `amount0`
      let rate10 ← okOr (FixedU128.checkedFromRational pool0 pool1) (.arithmetic .overflow)
      let amount0 ← okOr (rate10.checkedMulInt max1) (.arithmetic .overflow)
      let shareIncrement ← okOr ((FixedU128.checkedFromRational amount0 pool0).bind
        fun ratio => ratio.checkedMulInt totalShares) (.arithmetic .overflow)
      pure (amount0, max1, shareIncrement)
    else do
      -- `max1` is too much: the actual `amount1`
      let amount1 ← okOr (rate01.checkedMulInt max0) (.arithmetic .overflow)
      let shareIncrement ← okOr ((FixedU128.checkedFromRational amount1 pool1).bind
        fun ratio => ratio.checkedMulInt totalShares) (.arithmetic .overflow)
      pure (max0, amount1, shareIncrement)

/-- `do_add_liquidity`, with the `stake_increment_share` flag of `swap-legacy`:
the amounts added in the caller's order and the shares issued. -/
def doAddLiquidity (s : State AccountId L) (who : AccountId) (currencyIdA currencyIdB : CurrencyId)
    (maxAmountA maxAmountB minShareIncrement : Nat) (stakeIncrementShare : Bool) :
    Except DispatchError ((Nat × Nat × Nat) × State AccountId L) := do
  let tradingPair ← okOr (TradingPair.fromCurrencyIds currencyIdA currencyIdB)
    (.module .invalidCurrencyId)
  ensure (s.tradingPairStatuses tradingPair = .enabled) (.module .mustBeEnabled)
  ensure (maxAmountA ≠ 0 ∧ maxAmountB ≠ 0) (.module .invalidLiquidityIncrement)
  let pool := s.liquidityPool tradingPair
  let dexShareCurrencyId := tradingPair.dexShareCurrencyId
  let totalShares := T.currency.totalIssuance s.ledger dexShareCurrencyId
  let maxAmount := orient tradingPair currencyIdA maxAmountA maxAmountB
  let increment ← liquidityIncrement pool.1 pool.2 maxAmount.1 maxAmount.2 totalShares
  ensure (increment.2.2 ≠ 0 ∧ increment.1 ≠ 0 ∧ increment.2.1 ≠ 0) (.module .invalidLiquidityIncrement)
  ensure (increment.2.2 ≥ minShareIncrement) (.module .unacceptableShareIncrement)
  let ledger ← external (T.currency.transfer tradingPair.first who T.palletAccount increment.1 s.ledger)
  let ledger ← external (T.currency.transfer tradingPair.second who T.palletAccount increment.2.1 ledger)
  let ledger ← external (T.currency.deposit dexShareCurrencyId who increment.2.2 ledger)
  let pool0 ← okOr (Balance.checkedAdd pool.1 increment.1) (.arithmetic .overflow)
  let pool1 ← okOr (Balance.checkedAdd pool.2 increment.2.1) (.arithmetic .overflow)
  let ledger ← if stakeIncrementShare then
      external (T.incentives.doDepositDexShare who dexShareCurrencyId increment.2.2 ledger)
    else pure ledger
  let added := orient tradingPair currencyIdA increment.1 increment.2.1
  pure ((added.1, added.2, increment.2.2), (s.setLedger ledger).setPool tradingPair (pool0, pool1))

/-- `do_remove_liquidity`: the amounts withdrawn, in the caller's order. -/
def doRemoveLiquidity (s : State AccountId L) (who : AccountId) (currencyIdA currencyIdB : CurrencyId)
    (removeShare minWithdrawnA minWithdrawnB : Nat) (byUnstake : Bool) :
    Except DispatchError ((Nat × Nat) × State AccountId L) := do
  if removeShare = 0 then return ((0, 0), s)
  let tradingPair ← okOr (TradingPair.fromCurrencyIds currencyIdA currencyIdB)
    (.module .invalidCurrencyId)
  let dexShareCurrencyId := tradingPair.dexShareCurrencyId
  let pool := s.liquidityPool tradingPair
  let minWithdrawn := orient tradingPair currencyIdA minWithdrawnA minWithdrawnB
  let totalShares := T.currency.totalIssuance s.ledger dexShareCurrencyId
  let proportion ← okOr (FixedU128.checkedFromRational removeShare totalShares) (.arithmetic .overflow)
  let decrement0 ← okOr (proportion.checkedMulInt pool.1) (.arithmetic .overflow)
  let decrement1 ← okOr (proportion.checkedMulInt pool.2) (.arithmetic .overflow)
  ensure (decrement0 ≥ minWithdrawn.1 ∧ decrement1 ≥ minWithdrawn.2)
    (.module .unacceptableLiquidityWithdrawn)
  let ledger ← if byUnstake then
      external (T.incentives.doWithdrawDexShare who dexShareCurrencyId removeShare s.ledger)
    else pure s.ledger
  let ledger ← external (T.currency.withdraw dexShareCurrencyId who removeShare ledger)
  let ledger ← external (T.currency.transfer tradingPair.first T.palletAccount who decrement0 ledger)
  let ledger ← external (T.currency.transfer tradingPair.second T.palletAccount who decrement1 ledger)
  let pool0 ← okOr (Balance.checkedSub pool.1 decrement0) (.arithmetic .underflow)
  let pool1 ← okOr (Balance.checkedSub pool.2 decrement1) (.arithmetic .underflow)
  let withdrawn := orient tradingPair currencyIdA decrement0 decrement1
  pure (withdrawn, (s.setLedger ledger).setPool tradingPair (pool0, pool1))


/-! ## Swaps -/

/-- `_swap`: one hop on the pool of `supplyCurrencyId, targetCurrencyId`,
guarded by the constant-product check; a pair that does not exist is left
alone. -/
def swap (s : State AccountId L) (supplyCurrencyId targetCurrencyId : CurrencyId)
    (supplyIncrement targetDecrement : Nat) : Except DispatchError (State AccountId L) :=
  match TradingPair.fromCurrencyIds supplyCurrencyId targetCurrencyId with
  | some tradingPair => do
      let pool := s.liquidityPool tradingPair
      let invariantBeforeSwap := U256.saturatingMul pool.1 pool.2
      let newPool ← if supplyCurrencyId = tradingPair.first then do
          let pool0 ← okOr (Balance.checkedAdd pool.1 supplyIncrement) (.arithmetic .overflow)
          let pool1 ← okOr (Balance.checkedSub pool.2 targetDecrement) (.arithmetic .underflow)
          pure (pool0, pool1)
        else do
          let pool0 ← okOr (Balance.checkedSub pool.1 targetDecrement) (.arithmetic .underflow)
          let pool1 ← okOr (Balance.checkedAdd pool.2 supplyIncrement) (.arithmetic .overflow)
          pure (pool0, pool1)
      -- invariant check to ensure the constant product formulas (k = x * y)
      let invariantAfterSwap := U256.saturatingMul newPool.1 newPool.2
      ensure (invariantAfterSwap ≥ invariantBeforeSwap) (.module .invariantCheckFailed)
      pure (s.setPool tradingPair newPool)
  | none => pure s

/-- `_swap_by_path`: hop `i` supplies `amounts[i]` and takes `amounts[i + 1]`. -/
def swapByPath (s : State AccountId L) :
    List CurrencyId → List Nat → Except DispatchError (State AccountId L)
  | a :: b :: path, supplyIncrement :: targetDecrement :: amounts => do
      let s ← swap s a b supplyIncrement targetDecrement
      swapByPath s (b :: path) (targetDecrement :: amounts)
  | _, _ => pure s

/-- `do_swap_with_exact_supply`: the target amount paid. -/
def doSwapWithExactSupply (s : State AccountId L) (who : AccountId) (path : List CurrencyId)
    (supplyAmount minTargetAmount : Nat) : Except DispatchError (Nat × State AccountId L) := do
  let amounts ← getTargetAmounts T s path supplyAmount
  ensure (amounts.getLastD 0 ≥ minTargetAmount) (.module .insufficientTargetAmount)
  let actualTargetAmount := amounts.getLastD 0
  let ledger ← external
    (T.currency.transfer (path.headD default) who T.palletAccount supplyAmount s.ledger)
  let s ← swapByPath (s.setLedger ledger) path amounts
  let ledger ← external
    (T.currency.transfer (path.getLastD default) T.palletAccount who actualTargetAmount s.ledger)
  pure (actualTargetAmount, s.setLedger ledger)

/-- `do_swap_with_exact_target`: the supply amount charged. -/
def doSwapWithExactTarget (s : State AccountId L) (who : AccountId) (path : List CurrencyId)
    (targetAmount maxSupplyAmount : Nat) : Except DispatchError (Nat × State AccountId L) := do
  let amounts ← getSupplyAmounts T s path targetAmount
  ensure (amounts.headD 0 ≤ maxSupplyAmount) (.module .excessiveSupplyAmount)
  let actualSupplyAmount := amounts.headD 0
  let ledger ← external
    (T.currency.transfer (path.headD default) who T.palletAccount actualSupplyAmount s.ledger)
  let s ← swapByPath (s.setLedger ledger) path amounts
  let ledger ← external
    (T.currency.transfer (path.getLastD default) T.palletAccount who targetAmount s.ledger)
  pure (actualSupplyAmount, s.setLedger ledger)

/-- `SwapLimit` of `module-support`. -/
inductive SwapLimit where
  | exactSupply (exactSupplyAmount minimumTargetAmount : Nat)
  | exactTarget (maximumSupplyAmount exactTargetAmount : Nat)
  deriving DecidableEq, Repr

/-- `SwapManager::get_swap_amount`: the supply and target amounts of a swap
along `path`, if its quote succeeds within `limit`. -/
def getSwapAmount (s : State AccountId L) (path : List CurrencyId) : SwapLimit → Option (Nat × Nat)
  | .exactSupply exactSupplyAmount minimumTargetAmount =>
      (getTargetAmounts T s path exactSupplyAmount).toOption.bind fun amounts =>
        if amounts.getLastD 0 ≥ minimumTargetAmount then some (exactSupplyAmount, amounts.getLastD 0)
        else none
  | .exactTarget maximumSupplyAmount exactTargetAmount =>
      (getSupplyAmounts T s path exactTargetAmount).toOption.bind fun amounts =>
        if amounts.headD 0 ≤ maximumSupplyAmount then some (amounts.headD 0, exactTargetAmount)
        else none

/-- `SwapManager::swap_with_specific_path`. -/
def swapWithSpecificPath (s : State AccountId L) (who : AccountId) (path : List CurrencyId) :
    SwapLimit → Except DispatchError ((Nat × Nat) × State AccountId L)
  | .exactSupply exactSupplyAmount minimumTargetAmount => do
      let r ← doSwapWithExactSupply T s who path exactSupplyAmount minimumTargetAmount
      pure ((exactSupplyAmount, r.1), r.2)
  | .exactTarget maximumSupplyAmount exactTargetAmount => do
      let r ← doSwapWithExactTarget T s who path exactTargetAmount maximumSupplyAmount
      pure ((r.1, exactTargetAmount), r.2)

/-! ## Listing and the provisioning life cycle -/

/-- The asset-registry check of `list_provisioning`: ERC20 and foreign assets
must have a registered name. -/
def checkAssetRegistry (currencyId : CurrencyId) : Except DispatchError Unit :=
  match currencyId with
  | .erc20 _ | .foreignAsset _ =>
      okOr ((T.erc20InfoName currencyId).map fun _ => ()) (.module .assetUnregistered)
  | .token _ | .dexShare _ _ => pure ()

/-- `list_provisioning`. -/
def listProvisioning (s : State AccountId L) (origin : Origin AccountId)
    (currencyIdA currencyIdB : CurrencyId) (minContributionA minContributionB targetProvisionA
      targetProvisionB notBefore : Nat) : Except DispatchError (State AccountId L) := do
  ensureListingOrigin T origin
  let tradingPair ← okOr (TradingPair.fromCurrencyIds currencyIdA currencyIdB)
    (.module .invalidCurrencyId)
  ensure (s.tradingPairStatuses tradingPair = .disabled) (.module .mustBeDisabled)
  ensure (T.currency.totalIssuance s.ledger tradingPair.dexShareCurrencyId = 0 &&
    s.provisioningPoolIsEmpty tradingPair) (.module .notAllowedList)
  checkAssetRegistry T currencyIdA
  checkAssetRegistry T currencyIdB
  let minContribution := orient tradingPair currencyIdA minContributionA minContributionB
  let targetProvision := orient tradingPair currencyIdA targetProvisionA targetProvisionB
  pure (s.setStatus tradingPair (.provisioning
    { minContribution, targetProvision, accumulatedProvision := (0, 0), notBefore }))

/-- `update_provisioning_parameters`. -/
def updateProvisioningParameters (s : State AccountId L) (origin : Origin AccountId)
    (currencyIdA currencyIdB : CurrencyId) (minContributionA minContributionB targetProvisionA
      targetProvisionB notBefore : Nat) : Except DispatchError (State AccountId L) := do
  ensureListingOrigin T origin
  let tradingPair ← okOr (TradingPair.fromCurrencyIds currencyIdA currencyIdB)
    (.module .invalidCurrencyId)
  match s.tradingPairStatuses tradingPair with
  | .provisioning provisioningParameters =>
      let minContribution := orient tradingPair currencyIdA minContributionA minContributionB
      let targetProvision := orient tradingPair currencyIdA targetProvisionA targetProvisionB
      pure (s.setStatus tradingPair (.provisioning
        { minContribution, targetProvision,
          accumulatedProvision := provisioningParameters.accumulatedProvision, notBefore }))
  | _ => throw (.module .mustBeProvisioning)

/-- Whether the provision collected meets its target (`end_provisioning`,
`abort_provisioning`). -/
def ProvisioningParameters.metTarget (parameters : ProvisioningParameters) : Bool :=
  parameters.accumulatedProvision.1 ≠ 0 && parameters.accumulatedProvision.2 ≠ 0 &&
    (parameters.accumulatedProvision.1 ≥ parameters.targetProvision.1 ||
      parameters.accumulatedProvision.2 ≥ parameters.targetProvision.2)

/-- `end_provisioning`. -/
def endProvisioning (s : State AccountId L) (origin : Origin AccountId)
    (currencyIdA currencyIdB : CurrencyId) : Except DispatchError (State AccountId L) := do
  let _ ← ensureSigned origin
  let tradingPair ← okOr (TradingPair.fromCurrencyIds currencyIdA currencyIdB)
    (.module .invalidCurrencyId)
  match s.tradingPairStatuses tradingPair with
  | .provisioning provisioningParameters =>
      let totalProvision := provisioningParameters.accumulatedProvision
      ensure (s.blockNumber ≥ provisioningParameters.notBefore && provisioningParameters.metTarget)
        (.module .unqualifiedProvision)
      -- directly use token_0 as base to calculate initial dex share amount
      let shareExchangeRate1 ← okOr (FixedU128.checkedFromRational totalProvision.1 totalProvision.2)
        (.arithmetic .overflow)
      let shares0 ← okOr (FixedU128.one.checkedMulInt totalProvision.1) (.arithmetic .overflow)
      let shares1 ← okOr (shareExchangeRate1.checkedMulInt totalProvision.2) (.arithmetic .overflow)
      let totalSharesToIssue ← okOr (Balance.checkedAdd shares0 shares1) (.arithmetic .overflow)
      -- issue total shares to module account
      let ledger ← external (T.currency.deposit tradingPair.dexShareCurrencyId T.palletAccount
        totalSharesToIssue s.ledger)
      -- inject provision to liquidity pool
      let pool := s.liquidityPool tradingPair
      let pool0 ← okOr (Balance.checkedAdd pool.1 totalProvision.1) (.arithmetic .overflow)
      let pool1 ← okOr (Balance.checkedAdd pool.2 totalProvision.2) (.arithmetic .overflow)
      pure ((((s.setLedger ledger).setPool tradingPair (pool0, pool1)).setStatus tradingPair
        .enabled).setRates tradingPair (FixedU128.one, shareExchangeRate1))
  | _ => throw (.module .mustBeProvisioning)

/-- `enable_trading_pair`: a `Disabled` pair, or a `Provisioning` one that
has collected nothing. -/
def enableTradingPair (s : State AccountId L) (origin : Origin AccountId)
    (currencyIdA currencyIdB : CurrencyId) : Except DispatchError (State AccountId L) := do
  ensureListingOrigin T origin
  let tradingPair ← okOr (TradingPair.fromCurrencyIds currencyIdA currencyIdB)
    (.module .invalidCurrencyId)
  match s.tradingPairStatuses tradingPair with
  | .disabled => pure ()
  | .provisioning provisioningParameters =>
      ensure (provisioningParameters.accumulatedProvision.1 = 0 &&
        provisioningParameters.accumulatedProvision.2 = 0) (.module .stillProvisioning)
  | .enabled => throw (.module .alreadyEnabled)
  pure (s.setStatus tradingPair .enabled)

/-- `disable_trading_pair`. -/
def disableTradingPair (s : State AccountId L) (origin : Origin AccountId)
    (currencyIdA currencyIdB : CurrencyId) : Except DispatchError (State AccountId L) := do
  ensureListingOrigin T origin
  let tradingPair ← okOr (TradingPair.fromCurrencyIds currencyIdA currencyIdB)
    (.module .invalidCurrencyId)
  ensure (s.tradingPairStatuses tradingPair = .enabled) (.module .mustBeEnabled)
  pure (s.setStatus tradingPair .disabled)

/-- `refund_provision`: any signed origin may refund any `owner`. -/
def refundProvision (s : State AccountId L) (origin : Origin AccountId) (owner : AccountId)
    (currencyIdA currencyIdB : CurrencyId) : Except DispatchError (State AccountId L) := do
  let _ ← ensureSigned origin
  let tradingPair ← okOr (TradingPair.fromCurrencyIds currencyIdA currencyIdB)
    (.module .invalidCurrencyId)
  ensure (s.tradingPairStatuses tradingPair = .disabled) (.module .mustBeDisabled)
  -- make sure the trading pair has not been successfully ended provisioning
  ensure (s.initialShareExchangeRates tradingPair = defaultRates) (.module .notAllowedRefund)
  match s.provisioningPool tradingPair owner with
  | some contribution => do
      let ledger ← external (T.currency.transfer tradingPair.first T.palletAccount owner
        contribution.1 s.ledger)
      let ledger ← external (T.currency.transfer tradingPair.second T.palletAccount owner
        contribution.2 ledger)
      pure ((s.setProvision tradingPair owner none).setLedger ledger)
  | none => pure s

/-- `abort_provisioning`: a `Provisioning` pair that missed its target and
whose extended deadline has passed becomes `Disabled`; otherwise nothing
changes. -/
def abortProvisioning (s : State AccountId L) (origin : Origin AccountId)
    (currencyIdA currencyIdB : CurrencyId) : Except DispatchError (State AccountId L) := do
  let _ ← ensureSigned origin
  let tradingPair ← okOr (TradingPair.fromCurrencyIds currencyIdA currencyIdB)
    (.module .invalidCurrencyId)
  match s.tradingPairStatuses tradingPair with
  | .provisioning provisioningParameters =>
      let expired := s.blockNumber > provisioningParameters.notBefore + T.extendedProvisioningBlocks
      if !provisioningParameters.metTarget && expired then
        pure (s.setStatus tradingPair .disabled)
      else pure s
  | _ => throw (.module .mustBeProvisioning)

/-! ## Dispatch -/

/-- The pallet's calls, with their arguments. `addLiquidity` carries the
`stake_increment_share` flag of `swap-legacy`; the call of `swap` has no such
argument and is the case `false`. -/
inductive Call (AccountId : Type) where
  | swapWithExactSupply (path : List CurrencyId) (supplyAmount minTargetAmount : Nat)
  | swapWithExactTarget (path : List CurrencyId) (targetAmount maxSupplyAmount : Nat)
  | addLiquidity (currencyIdA currencyIdB : CurrencyId)
      (maxAmountA maxAmountB minShareIncrement : Nat) (stakeIncrementShare : Bool)
  | addProvision (currencyIdA currencyIdB : CurrencyId) (amountA amountB : Nat)
  | claimDexShare (owner : AccountId) (currencyIdA currencyIdB : CurrencyId)
  | removeLiquidity (currencyIdA currencyIdB : CurrencyId)
      (removeShare minWithdrawnA minWithdrawnB : Nat) (byUnstake : Bool)
  | listProvisioning (currencyIdA currencyIdB : CurrencyId)
      (minContributionA minContributionB targetProvisionA targetProvisionB notBefore : Nat)
  | updateProvisioningParameters (currencyIdA currencyIdB : CurrencyId)
      (minContributionA minContributionB targetProvisionA targetProvisionB notBefore : Nat)
  | endProvisioning (currencyIdA currencyIdB : CurrencyId)
  | enableTradingPair (currencyIdA currencyIdB : CurrencyId)
  | disableTradingPair (currencyIdA currencyIdB : CurrencyId)
  | refundProvision (owner : AccountId) (currencyIdA currencyIdB : CurrencyId)
  | abortProvisioning (currencyIdA currencyIdB : CurrencyId)

/-- A dispatchable: the state after it, or the error it fails with. -/
def dispatch (s : State AccountId L) (origin : Origin AccountId) :
    Call AccountId → Except DispatchError (State AccountId L)
  | .swapWithExactSupply path supplyAmount minTargetAmount => do
      let who ← ensureSigned origin
      let r ← doSwapWithExactSupply T s who path supplyAmount minTargetAmount
      pure r.2
  | .swapWithExactTarget path targetAmount maxSupplyAmount => do
      let who ← ensureSigned origin
      let r ← doSwapWithExactTarget T s who path targetAmount maxSupplyAmount
      pure r.2
  | .addLiquidity currencyIdA currencyIdB maxAmountA maxAmountB minShareIncrement
      stakeIncrementShare => do
      let who ← ensureSigned origin
      let r ← doAddLiquidity T s who currencyIdA currencyIdB maxAmountA maxAmountB
        minShareIncrement stakeIncrementShare
      pure r.2
  | .addProvision currencyIdA currencyIdB amountA amountB => do
      let who ← ensureSigned origin
      doAddProvision T s who currencyIdA currencyIdB amountA amountB
  | .claimDexShare owner currencyIdA currencyIdB => do
      let _ ← ensureSigned origin
      doClaimDexShare T s owner currencyIdA currencyIdB
  | .removeLiquidity currencyIdA currencyIdB removeShare minWithdrawnA minWithdrawnB byUnstake => do
      let who ← ensureSigned origin
      let r ← doRemoveLiquidity T s who currencyIdA currencyIdB removeShare minWithdrawnA
        minWithdrawnB byUnstake
      pure r.2
  | .listProvisioning currencyIdA currencyIdB minContributionA minContributionB targetProvisionA
      targetProvisionB notBefore =>
      listProvisioning T s origin currencyIdA currencyIdB minContributionA minContributionB
        targetProvisionA targetProvisionB notBefore
  | .updateProvisioningParameters currencyIdA currencyIdB minContributionA minContributionB
      targetProvisionA targetProvisionB notBefore =>
      updateProvisioningParameters T s origin currencyIdA currencyIdB minContributionA
        minContributionB targetProvisionA targetProvisionB notBefore
  | .endProvisioning currencyIdA currencyIdB => endProvisioning T s origin currencyIdA currencyIdB
  | .enableTradingPair currencyIdA currencyIdB =>
      enableTradingPair T s origin currencyIdA currencyIdB
  | .disableTradingPair currencyIdA currencyIdB =>
      disableTradingPair T s origin currencyIdA currencyIdB
  | .refundProvision owner currencyIdA currencyIdB =>
      refundProvision T s origin owner currencyIdA currencyIdB
  | .abortProvisioning currencyIdA currencyIdB =>
      abortProvisioning T s origin currencyIdA currencyIdB

/-! ## Genesis and runs -/

/-- `GenesisConfig` of the pallet. -/
structure GenesisConfig (AccountId : Type) where
  initialListingTradingPairs : List (TradingPair × (Nat × Nat) × (Nat × Nat) × Nat)
  initialEnabledTradingPairs : List TradingPair
  initialAddedLiquidityPools : List (AccountId × List (TradingPair × (Nat × Nat)))

/-- A pair listed at genesis, `Provisioning` with nothing collected. -/
def listGenesisPair (s : State AccountId L) :
    TradingPair × (Nat × Nat) × (Nat × Nat) × Nat → State AccountId L
  | (tradingPair, minContribution, targetProvision, notBefore) =>
      s.setStatus tradingPair (.provisioning
        { minContribution, targetProvision, accumulatedProvision := (0, 0), notBefore })

/-- Liquidity added at genesis to an `Enabled` pair; `none` is the failed
assertion. -/
def addGenesisLiquidity (who : AccountId) (s : State AccountId L) :
    TradingPair × (Nat × Nat) → Option (State AccountId L)
  | (tradingPair, depositAmount0, depositAmount1) =>
      match s.tradingPairStatuses tradingPair with
      | .enabled => (doAddLiquidity T s who tradingPair.first tradingPair.second depositAmount0
          depositAmount1 0 false).toOption.map Prod.snd
      | _ => none

/-- `GenesisConfig::build`, over the storage it starts from; `none` when one
of its assertions fails. -/
def GenesisConfig.build (g : GenesisConfig AccountId) (s : State AccountId L) :
    Option (State AccountId L) :=
  let s := g.initialListingTradingPairs.foldl listGenesisPair s
  let s := g.initialEnabledTradingPairs.foldl (fun s tradingPair => s.setStatus tradingPair .enabled) s
  g.initialAddedLiquidityPools.foldlM
    (fun s pools => pools.2.foldlM (addGenesisLiquidity T pools.1) s) s

/-- What can happen to the pallet: a call from an origin, or a new block. -/
inductive Action (AccountId : Type) where
  | call (origin : Origin AccountId) (c : Call AccountId)
  | newBlock

/-- The pallet as a transition system. The DEX account is derived from the
`PalletId` and has no key, so no call is signed by it, and genesis adds no
liquidity from it. A failed call changes nothing. -/
def system : Transition.System (State AccountId L) (Action AccountId) where
  init s := ∃ (g : GenesisConfig AccountId) (ledger : L) (blockNumber : Nat),
    (∀ pools ∈ g.initialAddedLiquidityPools, pools.1 ≠ T.palletAccount) ∧
      g.build T (State.empty ledger blockNumber) = some s
  step s
    | .call origin c =>
        if origin = .signed T.palletAccount then none else (dispatch T s origin c).toOption
    | .newBlock => some { s with blockNumber := s.blockNumber + 1 }

end Setheum.Swap
