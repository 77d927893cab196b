import Setheum.Primitives.Arithmetic
import Setheum.Primitives.Currency
import Setheum.Lib.Result

/-!
# The CDP engine: storage and risk checks

The storage of `module_seusd_engine` and `module_loans` and the `DebitPool` of
`module_seusd_treasury`; the runtime around them, given by a `Config`: its
constants, the oracle, the `MultiCurrency` ledger, the DEX and the reserves
of the native currency.

Over them, the engine's risk functions: the debit exchange rate and the
conversions between debit units and stable-coin value, the collateral ratio,
`check_position_valid`, `check_cdp_status` and `check_debit_cap`. Units turned
into value round down, and so does a value turned into units through the
rounded-down reciprocal of the rate: the units a value buys are never worth
more than it. A position that passes `check_position_valid` is never `Unsafe`.
-/

namespace Setheum.Cdp

open Result

/-- `Error` of `module_seusd_engine`, the variants the modelled functions raise. -/
inductive EngineError where
  | invalidFeedPrice
  | invalidCollateralType
  | belowRequiredCollateralRatio
  | belowLiquidationRatio
  | remainDebitValueTooSmall
  | collateralAmountBelowMinimum
  | exceedDebitValueHardCap
  | convertDebitBalanceFailed
  | collateralNotEnough
  | notEnoughDebitDecrement
  | noDebitValue
  | mustBeSafe
  deriving DecidableEq, Repr

/-- `Error` of `module_loans`. -/
inductive LoansError where
  | amountConvertFailed
  deriving DecidableEq, Repr

/-- `Error` of `module_ecdp`. -/
inductive EcdpError where
  | noPermission
  | alreadyShutdown
  | authorizationNotExists
  | alreadyAuthorized
  deriving DecidableEq, Repr

/-- The errors the calls return; those of the currencies, the DEX and the
treasury's swaps are `external`. -/
inductive DispatchError where
  | engine (e : EngineError)
  | loans (e : LoansError)
  | ecdp (e : EcdpError)
  | arithmetic (e : ArithmeticError)
  | external
  deriving DecidableEq, Repr

/-- `RiskManagementParams`, without the liquidation penalty and the interest
rate, which no modelled function reads. -/
structure RiskManagementParams where
  maximumTotalDebitValue : Nat
  liquidationRatio : Option FixedU128
  requiredCollateralRatio : Option FixedU128
  deriving DecidableEq

/-- `Position` of `primitives`, in collateral and debit units. -/
structure Position where
  collateral : Nat
  debit : Nat
  deriving DecidableEq, Repr

/-- `SwapLimit` of `module_support`. -/
inductive SwapLimit where
  | exactSupply (supplyAmount minimumTargetAmount : Nat)
  | exactTarget (maximumSupplyAmount exactTargetAmount : Nat)
  deriving DecidableEq, Repr

/-- The runtime around the pallets, over a `MultiCurrency` ledger `L`. -/
structure Config (AccountId L : Type) where
  getSeusdCurrencyId : CurrencyId
  defaultLiquidationRatio : FixedU128
  defaultDebitExchangeRate : FixedU128
  minimumDebitValue : Nat
  minimumCollateralAmount : CurrencyId → Nat
  depositPerAuthorization : Nat
  /-- `account_id()` of `module_loans` and of `module_seusd_treasury`. -/
  loansAccountId : AccountId
  treasuryAccountId : AccountId
  /-- `PriceSource::get_relative_price`. -/
  getRelativePrice : CurrencyId → CurrencyId → Option FixedU128
  /-- `MultiCurrency::deposit`, `withdraw` and `transfer`. -/
  deposit : CurrencyId → AccountId → Nat → L → Option L
  withdraw : CurrencyId → AccountId → Nat → L → Option L
  transfer : CurrencyId → AccountId → AccountId → Nat → L → Option L
  /-- `Swap::swap`, answering the supply and target amounts. -/
  swap : AccountId → CurrencyId → CurrencyId → SwapLimit → L → Option ((Nat × Nat) × L)
  /-- `DEX::add_liquidity` with `min_share_increment`, answering the two
  consumptions and the share increment, and `DEX::remove_liquidity`. -/
  addLiquidity : AccountId → CurrencyId → CurrencyId → Nat → Nat → Nat → L → Option ((Nat × Nat × Nat) × L)
  removeLiquidity : AccountId → CurrencyId → CurrencyId → Nat → L → Option ((Nat × Nat) × L)
  /-- `UssdTreasury::swap_collateral_to_stable`. -/
  swapCollateralToStable : CurrencyId → SwapLimit → L → Option ((Nat × Nat) × L)
  /-- `reserve` and `unreserve` of the native currency, under the named reserves. -/
  reserve : AccountId → Nat → L → Option L
  unreserve : AccountId → Nat → L → L

/-- The storage of the engine, the loans pallet and the treasury's debit pool,
with the ledger. -/
structure State (AccountId L : Type) where
  ledger : L
  debitExchangeRate : CurrencyId → Option FixedU128
  collateralParams : CurrencyId → Option RiskManagementParams
  positions : CurrencyId → AccountId → Position
  totalPositions : CurrencyId → Position
  debitPool : Nat

/-- `CDPStatus`; its `Unsafe`, a keyword here, is `notSafe`. -/
inductive CDPStatus where
  | safe
  | notSafe
  | checksFailed (e : DispatchError)
  deriving DecidableEq, Repr

namespace SeusdEngine

variable {AccountId L : Type} (T : Config AccountId L) (s : State AccountId L)

/-- `get_debit_exchange_rate`. -/
def getDebitExchangeRate (currencyId : CurrencyId) : FixedU128 :=
  (s.debitExchangeRate currencyId).getD T.defaultDebitExchangeRate

/-- `convert_to_debit_value`, which is also `get_debit_value`. -/
def convertToDebitValue (currencyId : CurrencyId) (debitBalance : Nat) : Nat :=
  (getDebitExchangeRate T s currencyId).saturatingMulInt debitBalance

/-- `try_convert_to_debit_balance`. -/
def tryConvertToDebitBalance (currencyId : CurrencyId) (debitValue : Nat) : Option Nat :=
  (getDebitExchangeRate T s currencyId).reciprocal.map fun n => n.saturatingMulInt debitValue

/-- `calculate_collateral_ratio`: the largest ratio when there is no debit value. -/
def calculateCollateralRatio (currencyId : CurrencyId) (collateralBalance debitBalance : Nat)
    (price : FixedU128) : FixedU128 :=
  let lockedCollateralValue := price.saturatingMulInt collateralBalance
  let debitValue := convertToDebitValue T s currencyId debitBalance
  (FixedU128.checkedFromRational lockedCollateralValue debitValue).getD FixedU128.maxValue

/-- `maximum_total_debit_value`. -/
def maximumTotalDebitValue (currencyId : CurrencyId) : Except DispatchError Nat := do
  let params ← okOr (s.collateralParams currencyId) (.engine .invalidCollateralType)
  pure params.maximumTotalDebitValue

/-- `required_collateral_ratio`. -/
def requiredCollateralRatio (currencyId : CurrencyId) : Except DispatchError (Option FixedU128) := do
  let params ← okOr (s.collateralParams currencyId) (.engine .invalidCollateralType)
  pure params.requiredCollateralRatio

/-- `get_liquidation_ratio`. -/
def getLiquidationRatio (currencyId : CurrencyId) : Except DispatchError FixedU128 := do
  let params ← okOr (s.collateralParams currencyId) (.engine .invalidCollateralType)
  pure (params.liquidationRatio.getD T.defaultLiquidationRatio)

/-- `check_cdp_status`. -/
def checkCdpStatus (currencyId : CurrencyId) (collateralAmount debitAmount : Nat) : CDPStatus :=
  match T.getRelativePrice currencyId T.getSeusdCurrencyId with
  | some feedPrice =>
      let collateralRatio := calculateCollateralRatio T s currencyId collateralAmount debitAmount feedPrice
      match getLiquidationRatio T s currencyId with
      | .ok liquidationRatio => if collateralRatio < liquidationRatio then .notSafe else .safe
      | .error e => .checksFailed e
  | none => .checksFailed (.engine .invalidFeedPrice)

/-- The check of the required collateral ratio, where one is set, in `check_position_valid`. -/
def checkRequiredCollateralRatio (currencyId : CurrencyId) (collateralRatio : FixedU128) :
    Except DispatchError Unit := do
  match ← requiredCollateralRatio s currencyId with
  | some requiredCollateralRatio =>
      ensure (decide (requiredCollateralRatio ≤ collateralRatio)) (.engine .belowRequiredCollateralRatio)
  | none => pure ()

/-- `check_position_valid` of `UssdRiskManager`. -/
def checkPositionValid (currencyId : CurrencyId) (collateralBalance debitBalance : Nat)
    (checkRequiredRatio : Bool) : Except DispatchError Unit :=
  if debitBalance ≠ 0 then do
    let debitValue := convertToDebitValue T s currencyId debitBalance
    let feedPrice ← okOr (T.getRelativePrice currencyId T.getSeusdCurrencyId) (.engine .invalidFeedPrice)
    let collateralRatio := calculateCollateralRatio T s currencyId collateralBalance debitBalance feedPrice
    (if checkRequiredRatio then checkRequiredCollateralRatio s currencyId collateralRatio else pure ())
    let liquidationRatio ← getLiquidationRatio T s currencyId
    ensure (decide (liquidationRatio ≤ collateralRatio)) (.engine .belowLiquidationRatio)
    ensure (decide (T.minimumDebitValue ≤ debitValue)) (.engine .remainDebitValueTooSmall)
  -- with no debit, a remaining collateral must reach the minimum
  else if collateralBalance ≠ 0 then
    ensure (decide (T.minimumCollateralAmount currencyId ≤ collateralBalance))
      (.engine .collateralAmountBelowMinimum)
  else pure ()

/-- `check_debit_cap` of `UssdRiskManager`. -/
def checkDebitCap (currencyId : CurrencyId) (totalDebitBalance : Nat) : Except DispatchError Unit := do
  let hardCap ← maximumTotalDebitValue s currencyId
  let totalDebitValue := convertToDebitValue T s currencyId totalDebitBalance
  ensure (decide (totalDebitValue ≤ hardCap)) (.engine .exceedDebitValueHardCap)

/-! ## What the checks guarantee -/

theorem convertToDebitValue_le_of_tryConvert {currencyId : CurrencyId} {debitValue debitBalance : Nat}
    (h : tryConvertToDebitBalance T s currencyId debitValue = some debitBalance) :
    convertToDebitValue T s currencyId debitBalance ≤ debitValue := by
  unfold tryConvertToDebitBalance at h
  obtain ⟨q, hq, rfl⟩ := Option.map_eq_some_iff.mp h
  exact FixedU128.saturatingMulInt_reciprocal_le hq debitValue

theorem calculateCollateralRatio_of_debit_zero (currencyId : CurrencyId) (collateralBalance : Nat)
    (price : FixedU128) : calculateCollateralRatio T s currencyId collateralBalance 0 price = FixedU128.maxValue := by
  simp [calculateCollateralRatio, convertToDebitValue, FixedU128.saturatingMulInt, FixedU128.checkedFromRational]

theorem checkCdpStatus_eq_notSafe_iff {currencyId : CurrencyId} {collateralAmount debitAmount : Nat} :
    checkCdpStatus T s currencyId collateralAmount debitAmount = .notSafe ↔
      ∃ feedPrice liquidationRatio, T.getRelativePrice currencyId T.getSeusdCurrencyId = some feedPrice ∧
        getLiquidationRatio T s currencyId = .ok liquidationRatio ∧
        calculateCollateralRatio T s currencyId collateralAmount debitAmount feedPrice < liquidationRatio := by
  unfold checkCdpStatus
  split
  · next feedPrice hprice =>
    split
    · next liquidationRatio hratio =>
      by_cases hlt : calculateCollateralRatio T s currencyId collateralAmount debitAmount feedPrice < liquidationRatio
        <;> simp [hprice, hratio, hlt]
    · next e hratio => simp [hprice, hratio]
  · next hprice => simp [hprice]

theorem checkPositionValid_of_debit {currencyId : CurrencyId} {collateralBalance debitBalance : Nat}
    {checkRequiredRatio : Bool} (hdebit : debitBalance ≠ 0)
    (h : checkPositionValid T s currencyId collateralBalance debitBalance checkRequiredRatio = .ok ()) :
    ∃ feedPrice liquidationRatio, T.getRelativePrice currencyId T.getSeusdCurrencyId = some feedPrice ∧
      getLiquidationRatio T s currencyId = .ok liquidationRatio ∧
      liquidationRatio ≤ calculateCollateralRatio T s currencyId collateralBalance debitBalance feedPrice ∧
      T.minimumDebitValue ≤ convertToDebitValue T s currencyId debitBalance := by
  unfold checkPositionValid at h
  rw [if_pos hdebit] at h
  obtain ⟨feedPrice, hprice, h⟩ := bind_eq_ok.mp h
  obtain ⟨-, -, h⟩ := bind_eq_ok.mp h
  obtain ⟨liquidationRatio, hratio, h⟩ := bind_eq_ok.mp h
  obtain ⟨_, hliq, hmin⟩ := bind_eq_ok.mp h
  exact ⟨feedPrice, liquidationRatio, okOr_eq_ok.mp hprice, hratio, by simpa using hliq, by simpa using hmin⟩

theorem convertToDebitValue_congr {s' : State AccountId L} (hrate : s.debitExchangeRate = s'.debitExchangeRate) :
    convertToDebitValue T s = convertToDebitValue T s' := by
  unfold convertToDebitValue getDebitExchangeRate
  rw [hrate]

theorem checkCdpStatus_congr {s' : State AccountId L} (hrate : s.debitExchangeRate = s'.debitExchangeRate)
    (hparams : s.collateralParams = s'.collateralParams) : checkCdpStatus T s = checkCdpStatus T s' := by
  obtain ⟨ledger, debitExchangeRate, collateralParams, positions, totalPositions, debitPool⟩ := s
  obtain ⟨ledger', debitExchangeRate', collateralParams', positions', totalPositions', debitPool'⟩ := s'
  simp only at hrate hparams
  subst hrate hparams
  rfl

theorem checkCdpStatus_ne_notSafe_of_debit_zero (currencyId : CurrencyId) (collateralAmount : Nat) :
    checkCdpStatus T s currencyId collateralAmount 0 ≠ .notSafe := by
  rw [Ne, checkCdpStatus_eq_notSafe_iff]
  rintro ⟨feedPrice, liquidationRatio, -, -, hlt⟩
  rw [calculateCollateralRatio_of_debit_zero] at hlt
  have := liquidationRatio.inner_lt
  change 2 ^ 128 - 1 < liquidationRatio.inner at hlt
  omega

theorem checkCdpStatus_ne_notSafe {currencyId : CurrencyId} {collateralBalance debitBalance : Nat}
    {checkRequiredRatio : Bool}
    (h : checkPositionValid T s currencyId collateralBalance debitBalance checkRequiredRatio = .ok ()) :
    checkCdpStatus T s currencyId collateralBalance debitBalance ≠ .notSafe := by
  rw [Ne, checkCdpStatus_eq_notSafe_iff]
  rintro ⟨feedPrice, liquidationRatio, hprice, hratio, hlt⟩
  by_cases hdebit : debitBalance = 0
  · -- no debit: the ratio is the largest, and no ratio is above it
    subst hdebit
    exact checkCdpStatus_ne_notSafe_of_debit_zero T s currencyId collateralBalance
      ((checkCdpStatus_eq_notSafe_iff T s).mpr ⟨feedPrice, liquidationRatio, hprice, hratio, hlt⟩)
  · -- with debit, the liquidation check passed at the same price
    obtain ⟨p, r, hp, hr, hle, -⟩ := checkPositionValid_of_debit T s hdebit h
    rw [hprice] at hp
    rw [hratio] at hr
    cases hp
    cases hr
    change (calculateCollateralRatio T s currencyId collateralBalance debitBalance feedPrice).inner <
      liquidationRatio.inner at hlt
    change liquidationRatio.inner ≤
      (calculateCollateralRatio T s currencyId collateralBalance debitBalance feedPrice).inner at hle
    omega

end SeusdEngine

end Setheum.Cdp
