import Setheum.Cdp.Loans

/-!
# The CDP engine: position operations

`adjust_position` and `adjust_position_by_debit_value`, which go through the
loans pallet; `expand_position_collateral`, which issues stable coin in
advance, buys collateral with it on the DEX and books both; and
`shrink_position_debit`, which sells collateral on the DEX and repays debit
with what it fetched; `close_cdp_has_debit_by_dex`, which confiscates a safe
position and sells its collateral to cover the debit's value.

Each of them checks the position it leaves, so a position they leave is not
`Unsafe` at the price they saw; and the debit `shrink_position_debit`
repays is worth no more than the stable coin it burns.
-/

namespace Setheum.Cdp

open Result

variable {AccountId L : Type} [DecidableEq AccountId] (T : Config AccountId L)

namespace SeusdEngine

/-- `adjust_position`: only for a collateral type with parameters. -/
def adjustPosition (s : State AccountId L) (who : AccountId) (currencyId : CurrencyId)
    (collateralAdjustment debitAdjustment : Int) : Except DispatchError (State AccountId L) := do
  ensure (s.collateralParams currencyId).isSome (.engine .invalidCollateralType)
  Loans.adjustPosition T s who currencyId collateralAdjustment debitAdjustment

/-- `adjust_position_by_debit_value`: the debit moves by the units the value
converts to, a repayment by no more than the position's debit. -/
def adjustPositionByDebitValue (s : State AccountId L) (who : AccountId) (currencyId : CurrencyId)
    (collateralAdjustment debitValueAdjustment : Int) : Except DispatchError (State AccountId L) := do
  let debitValueAdjustmentAbs := Loans.balanceTryFromAmountAbs debitValueAdjustment
  let debitAdjustmentAbs ← okOr (tryConvertToDebitBalance T s currencyId debitValueAdjustmentAbs)
    (.engine .convertDebitBalanceFailed)
  if debitValueAdjustment < 0 then do
    let actualAdjustmentAbs := min (s.positions currencyId who).debit debitAdjustmentAbs
    let debitAdjustment ← Loans.amountTryFromBalance actualAdjustmentAbs
    adjustPosition T s who currencyId collateralAdjustment (-debitAdjustment)
  else do
    let debitAdjustment ← Loans.amountTryFromBalance debitAdjustmentAbs
    adjustPosition T s who currencyId collateralAdjustment debitAdjustment

/-- `swap_stable_and_lp_token`: stable coin into `token`, or back when
`reverse`, from the loans account, with no minimum. -/
def swapStableAndLpToken (ledger : L) (token : CurrencyId) (amount : Nat) (reverse : Bool) :
    Except DispatchError (Nat × L) :=
  if token = T.getSeusdCurrencyId then pure (amount, ledger)
  else do
    let supply := if reverse then token else T.getSeusdCurrencyId
    let target := if reverse then T.getSeusdCurrencyId else token
    let ((_, actualTarget), ledger) ←
      okOr (T.swap T.loansAccountId supply target (.exactSupply amount 0) ledger) .external
    pure (actualTarget, ledger)

/-- The refund of what `add_liquidity` left of an LP component, when it left any. -/
def refundRemainer (ledger : L) (token : CurrencyId) (who : AccountId) (available consumption : Nat) :
    Except DispatchError L :=
  match Balance.checkedSub available consumption with
  | some remainer => okOr (T.transfer token T.loansAccountId who remainer ledger) .external
  | none => pure ledger

/-- The purchase in `expand_position_collateral`: for an LP token, half the
stable coin into each component, the liquidity added, and the unused
components refunded to `who`; otherwise a swap into the collateral. -/
def buyCollateral (ledger : L) (who : AccountId) (currencyId : CurrencyId)
    (increaseDebitValue minIncreaseCollateral : Nat) : Except DispatchError (Nat × L) :=
  match currencyId with
  | .dexShare dexShare0 dexShare1 => do
      let token0 := dexShare0.toCurrencyId
      let token1 := dexShare1.toCurrencyId
      let stableForToken0 := increaseDebitValue / 2
      let stableForToken1 := increaseDebitValue - stableForToken0
      let (available0, ledger) ← swapStableAndLpToken T ledger token0 stableForToken0 false
      let (available1, ledger) ← swapStableAndLpToken T ledger token1 stableForToken1 false
      let ((consumption0, consumption1, actualIncreaseLp), ledger) ←
        okOr (T.addLiquidity T.loansAccountId token0 token1 available0 available1 minIncreaseCollateral ledger)
          .external
      let ledger ← refundRemainer T ledger token0 who available0 consumption0
      let ledger ← refundRemainer T ledger token1 who available1 consumption1
      pure (actualIncreaseLp, ledger)
  | _ => do
      let ((_, actualIncreaseCollateral), ledger) ←
        okOr (T.swap T.loansAccountId T.getSeusdCurrencyId currencyId
          (.exactSupply increaseDebitValue minIncreaseCollateral) ledger) .external
      pure (actualIncreaseCollateral, ledger)

/-- `expand_position_collateral`. -/
def expandPositionCollateral (s : State AccountId L) (who : AccountId) (currencyId : CurrencyId)
    (increaseDebitValue minIncreaseCollateral : Nat) : Except DispatchError (State AccountId L) := do
  ensure (s.collateralParams currencyId).isSome (.engine .invalidCollateralType)
  -- the stable coin is issued in advance
  let s ← SeusdTreasury.issueDebit T s T.loansAccountId increaseDebitValue true
  let (increaseCollateral, ledger) ← buyCollateral T s.ledger who currencyId increaseDebitValue minIncreaseCollateral
  let s := { s with ledger }
  let collateralAdjustment ← Loans.amountTryFromBalance increaseCollateral
  let increaseDebitBalance ← okOr (tryConvertToDebitBalance T s currencyId increaseDebitValue)
    (.engine .convertDebitBalanceFailed)
  let debitAdjustment ← Loans.amountTryFromBalance increaseDebitBalance
  let s ← Loans.updateLoan s who currencyId collateralAdjustment debitAdjustment
  let p := s.positions currencyId who
  checkPositionValid T s currencyId p.collateral p.debit false
  checkDebitCap T s currencyId (s.totalPositions currencyId).debit
  pure s

/-- The sale in `shrink_position_debit`: for an LP token, the liquidity
removed and both components swapped into stable coin, which must reach the
minimum; otherwise a swap of the collateral into stable coin. -/
def sellCollateral (ledger : L) (currencyId : CurrencyId) (decreaseCollateral minDecreaseDebitValue : Nat) :
    Except DispatchError (Nat × L) :=
  match currencyId with
  | .dexShare dexShare0 dexShare1 => do
      let token0 := dexShare0.toCurrencyId
      let token1 := dexShare1.toCurrencyId
      let ((available0, available1), ledger) ←
        okOr (T.removeLiquidity T.loansAccountId token0 token1 decreaseCollateral ledger) .external
      let (stable0, ledger) ← swapStableAndLpToken T ledger token0 available0 true
      let (stable1, ledger) ← swapStableAndLpToken T ledger token1 available1 true
      let totalStable := Balance.saturatingAdd stable0 stable1
      ensure (decide (minDecreaseDebitValue ≤ totalStable)) (.engine .notEnoughDebitDecrement)
      pure (totalStable, ledger)
  | _ => do
      let ((_, actualStable), ledger) ←
        okOr (T.swap T.loansAccountId currencyId T.getSeusdCurrencyId
          (.exactSupply decreaseCollateral minDecreaseDebitValue) ledger) .external
      pure (actualStable, ledger)

/-- The repayment in `shrink_position_debit`, as the value to burn and the debit
to remove: all the debit, refunding the rest of the stable coin to `who`, when
the stable coin covers its value, and otherwise the debit the stable coin buys. -/
def repayment (s : State AccountId L) (who : AccountId) (currencyId : CurrencyId) (debit actualStableAmount : Nat) :
    Except DispatchError (Nat × Nat × L) :=
  let previousDebitValue := convertToDebitValue T s currencyId debit
  if previousDebitValue ≤ actualStableAmount then do
    let ledger ← okOr (T.transfer T.getSeusdCurrencyId T.loansAccountId who
      (actualStableAmount - previousDebitValue) s.ledger) .external
    pure (previousDebitValue, debit, ledger)
  else do
    let decreaseDebitBalance ← okOr (tryConvertToDebitBalance T s currencyId actualStableAmount)
      (.engine .convertDebitBalanceFailed)
    pure (actualStableAmount, decreaseDebitBalance, s.ledger)

/-- `shrink_position_debit`. -/
def shrinkPositionDebit (s : State AccountId L) (who : AccountId) (currencyId : CurrencyId)
    (decreaseCollateral minDecreaseDebitValue : Nat) : Except DispatchError (State AccountId L) := do
  ensure (s.collateralParams currencyId).isSome (.engine .invalidCollateralType)
  let p := s.positions currencyId who
  ensure (decide (decreaseCollateral ≤ p.collateral)) (.engine .collateralNotEnough)
  let (actualStableAmount, ledger) ← sellCollateral T s.ledger currencyId decreaseCollateral minDecreaseDebitValue
  let s := { s with ledger }
  let collateralAdjustment ← Loans.amountTryFromBalance decreaseCollateral
  let (decreaseDebitValue, decreaseDebitBalance, ledger) ← repayment T s who currencyId p.debit actualStableAmount
  let s := { s with ledger }
  let debitAdjustment ← Loans.amountTryFromBalance decreaseDebitBalance
  let s ← Loans.updateLoan s who currencyId (-collateralAdjustment) (-debitAdjustment)
  let s ← SeusdTreasury.burnDebit T s T.loansAccountId decreaseDebitValue
  checkPositionValid T s currencyId (p.collateral - decreaseCollateral) (p.debit - decreaseDebitBalance) false
  pure s

/-- `close_cdp_has_debit_by_dex`. -/
def closeCdpHasDebitByDex (s : State AccountId L) (who : AccountId) (currencyId : CurrencyId)
    (maxCollateralAmount : Nat) : Except DispatchError (State AccountId L) := do
  let p := s.positions currencyId who
  ensure (decide (p.debit ≠ 0)) (.engine .noDebitValue)
  ensure (decide (checkCdpStatus T s currencyId p.collateral p.debit = .safe)) (.engine .mustBeSafe)
  let s ← Loans.confiscateCollateralAndDebit T s who currencyId p.collateral p.debit
  let debitValue := convertToDebitValue T s currencyId p.debit
  let collateralSupply := min p.collateral maxCollateralAmount
  let ((actualSupplyCollateral, _), ledger) ←
    okOr (T.swapCollateralToStable currencyId (.exactTarget collateralSupply debitValue) s.ledger) .external
  -- the source expects the swap to supply no more than the collateral, and panics otherwise
  let refundCollateralAmount ← okOr (Balance.checkedSub p.collateral actualSupplyCollateral) .external
  let ledger ← okOr (T.transfer currencyId T.treasuryAccountId who refundCollateralAmount ledger) .external
  pure { s with ledger }

/-! ## What the operations leave -/

variable {T}

omit [DecidableEq AccountId] in
theorem repayment_le {s : State AccountId L} {who : AccountId} {currencyId : CurrencyId}
    {debit actualStableAmount decreaseDebitValue decreaseDebitBalance : Nat} {ledger : L}
    (h : repayment T s who currencyId debit actualStableAmount =
      .ok (decreaseDebitValue, decreaseDebitBalance, ledger)) :
    convertToDebitValue T s currencyId decreaseDebitBalance ≤ decreaseDebitValue := by
  unfold repayment at h
  dsimp only at h
  split_ifs at h with hcover
  · -- all the debit, burnt at its value
    obtain ⟨_, -, h⟩ := bind_eq_ok.mp h
    have hv := pure_eq_ok.mp h
    simp only [Prod.mk.injEq] at hv
    obtain ⟨rfl, rfl, -⟩ := hv
    exact le_rfl
  · -- the debit the stable coin buys, through the rounded-down reciprocal
    obtain ⟨balance, hbalance, h⟩ := bind_eq_ok.mp h
    have hv := pure_eq_ok.mp h
    simp only [Prod.mk.injEq] at hv
    obtain ⟨rfl, rfl, -⟩ := hv
    exact convertToDebitValue_le_of_tryConvert T s (okOr_eq_ok.mp hbalance)

theorem adjustPosition_positions {s s' : State AccountId L} {who : AccountId} {currencyId : CurrencyId}
    {collateralAdjustment debitAdjustment : Int}
    (h : adjustPosition T s who currencyId collateralAdjustment debitAdjustment = .ok s') :
    Loans.adjust (s.positions currencyId who).debit debitAdjustment = .ok (s'.positions currencyId who).debit ∧
      ∀ c a, ¬(c = currencyId ∧ a = who) → s'.positions c a = s.positions c a := by
  obtain ⟨_, -, h⟩ := bind_eq_ok.mp h
  exact Loans.adjustPosition_positions h

theorem adjustPosition_debit_of_zero {s s' : State AccountId L} {who : AccountId} {currencyId : CurrencyId}
    {collateralAdjustment : Int} (h : adjustPosition T s who currencyId collateralAdjustment 0 = .ok s')
    (c : CurrencyId) (a : AccountId) : (s'.positions c a).debit = (s.positions c a).debit := by
  obtain ⟨_, -, h⟩ := bind_eq_ok.mp h
  exact Loans.adjustPosition_debit_of_zero h c a

theorem adjustPositionByDebitValue_zero {s s' : State AccountId L} {who : AccountId} {currencyId : CurrencyId}
    {collateralAdjustment : Int} (h : adjustPositionByDebitValue T s who currencyId collateralAdjustment 0 = .ok s') :
    adjustPosition T s who currencyId collateralAdjustment 0 = .ok s' := by
  unfold adjustPositionByDebitValue at h
  obtain ⟨debitAdjustmentAbs, hconvert, h⟩ := bind_eq_ok.mp h
  rw [if_neg (lt_irrefl 0)] at h
  obtain ⟨debitAdjustment, hda, h⟩ := bind_eq_ok.mp h
  obtain ⟨-, rfl⟩ := Loans.amountTryFromBalance_eq_ok.mp hda
  obtain ⟨q, -, rfl⟩ := Option.map_eq_some_iff.mp (okOr_eq_ok.mp hconvert)
  simpa [Loans.balanceTryFromAmountAbs] using h

theorem adjustPosition_not_notSafe {s s' : State AccountId L} {who : AccountId} {currencyId : CurrencyId}
    {collateralAdjustment debitAdjustment : Int}
    (h : adjustPosition T s who currencyId collateralAdjustment debitAdjustment = .ok s') :
    checkCdpStatus T s' currencyId (s'.positions currencyId who).collateral (s'.positions currencyId who).debit ≠
      .notSafe := by
  obtain ⟨_, -, h⟩ := bind_eq_ok.mp h
  obtain ⟨⟨_, hvalid⟩, -⟩ := Loans.adjustPosition_eq_ok h
  exact checkCdpStatus_ne_notSafe T s' hvalid

theorem expandPositionCollateral_not_notSafe {s s' : State AccountId L} {who : AccountId}
    {currencyId : CurrencyId} {increaseDebitValue minIncreaseCollateral : Nat}
    (h : expandPositionCollateral T s who currencyId increaseDebitValue minIncreaseCollateral = .ok s') :
    checkCdpStatus T s' currencyId (s'.positions currencyId who).collateral (s'.positions currencyId who).debit ≠
      .notSafe := by
  unfold expandPositionCollateral at h
  obtain ⟨_, -, h⟩ := bind_eq_ok.mp h
  obtain ⟨s₁, -, h⟩ := bind_eq_ok.mp h
  obtain ⟨⟨increaseCollateral, ledger⟩, -, h⟩ := bind_eq_ok.mp h
  obtain ⟨collateralAdjustment, -, h⟩ := bind_eq_ok.mp h
  obtain ⟨increaseDebitBalance, -, h⟩ := bind_eq_ok.mp h
  obtain ⟨debitAdjustment, -, h⟩ := bind_eq_ok.mp h
  obtain ⟨s₂, -, h⟩ := bind_eq_ok.mp h
  obtain ⟨_, hvalid, h⟩ := bind_eq_ok.mp h
  obtain ⟨_, -, h⟩ := bind_eq_ok.mp h
  cases pure_eq_ok.mp h
  exact checkCdpStatus_ne_notSafe T _ hvalid

/-- A successful `shrink_position_debit` leaves a position that is not
`Unsafe`, and the debit it took off the position is worth no more than the
stable coin it burnt from the loans account. -/
theorem shrinkPositionDebit_eq_ok {s s' : State AccountId L} {who : AccountId} {currencyId : CurrencyId}
    {decreaseCollateral minDecreaseDebitValue : Nat}
    (h : shrinkPositionDebit T s who currencyId decreaseCollateral minDecreaseDebitValue = .ok s') :
    checkCdpStatus T s' currencyId (s'.positions currencyId who).collateral (s'.positions currencyId who).debit ≠
      .notSafe ∧
    ∃ burnt ledger, T.withdraw T.getSeusdCurrencyId T.loansAccountId burnt ledger = some s'.ledger ∧
      convertToDebitValue T s currencyId ((s.positions currencyId who).debit - (s'.positions currencyId who).debit) ≤
        burnt := by
  unfold shrinkPositionDebit at h
  obtain ⟨_, -, h⟩ := bind_eq_ok.mp h
  obtain ⟨_, -, h⟩ := bind_eq_ok.mp h
  obtain ⟨⟨actualStableAmount, ledger₁⟩, -, h⟩ := bind_eq_ok.mp h
  obtain ⟨collateralAdjustment, hca, h⟩ := bind_eq_ok.mp h
  obtain ⟨⟨decreaseDebitValue, decreaseDebitBalance, ledger₂⟩, hrepay, h⟩ := bind_eq_ok.mp h
  obtain ⟨debitAdjustment, hda, h⟩ := bind_eq_ok.mp h
  obtain ⟨s₁, h₁, h⟩ := bind_eq_ok.mp h
  obtain ⟨s₂, h₂, h⟩ := bind_eq_ok.mp h
  obtain ⟨_, hvalid, h⟩ := bind_eq_ok.mp h
  cases pure_eq_ok.mp h
  obtain ⟨hcb, rfl⟩ := Loans.amountTryFromBalance_eq_ok.mp hca
  obtain ⟨hdb, rfl⟩ := Loans.amountTryFromBalance_eq_ok.mp hda
  obtain ⟨hc₁, hd₁, -⟩ := Loans.updateLoan_eq_ok h₁
  obtain ⟨-, hc₁⟩ := Loans.adjust_neg_natCast hcb hc₁
  obtain ⟨hdle, hd₁⟩ := Loans.adjust_neg_natCast hdb hd₁
  obtain ⟨hburn, hpos, -⟩ := SeusdTreasury.burnDebit_eq_ok T s₁ h₂
  have hleft : s'.positions currencyId who =
      ⟨(s.positions currencyId who).collateral - decreaseCollateral,
        (s.positions currencyId who).debit - decreaseDebitBalance⟩ := by
    rw [hpos]
    cases hp : s₁.positions currencyId who with
    | mk collateral debit =>
      simp only [hp] at hc₁ hd₁
      rw [Position.mk.injEq]
      exact ⟨hc₁, hd₁⟩
  refine ⟨?_, decreaseDebitValue, s₁.ledger, hburn, ?_⟩
  · rw [hleft]
    exact checkCdpStatus_ne_notSafe T s' hvalid
  · rw [hleft]
    dsimp only
    rw [Nat.sub_sub_self hdle]
    have hvalue := repayment_le hrepay
    exact hvalue

theorem adjustPositionByDebitValue_of_neg {s s' : State AccountId L} {who : AccountId} {currencyId : CurrencyId}
    {collateralAdjustment debitValueAdjustment : Int} (hneg : debitValueAdjustment < 0)
    (h : adjustPositionByDebitValue T s who currencyId collateralAdjustment debitValueAdjustment = .ok s') :
    0 < (s.positions currencyId who).debit - (s'.positions currencyId who).debit →
    ∃ burnt ledger, T.withdraw T.getSeusdCurrencyId who burnt ledger = some s'.ledger ∧
      convertToDebitValue T s currencyId ((s.positions currencyId who).debit - (s'.positions currencyId who).debit) ≤
        burnt := by
  unfold adjustPositionByDebitValue at h
  obtain ⟨debitAdjustmentAbs, -, h⟩ := bind_eq_ok.mp h
  rw [if_pos hneg] at h
  obtain ⟨debitAdjustment, hda, h⟩ := bind_eq_ok.mp h
  obtain ⟨hlt, rfl⟩ := Loans.amountTryFromBalance_eq_ok.mp hda
  obtain ⟨_, -, h⟩ := bind_eq_ok.mp h
  obtain ⟨-, s₁, ledger, h₁, h₂⟩ := Loans.adjustPosition_eq_ok h
  obtain ⟨-, hd₁, -, -, hrate, -⟩ := Loans.updateLoan_eq_ok h₁
  obtain ⟨hle, hd₁⟩ := Loans.adjust_neg_natCast hlt hd₁
  have hpos := Loans.settleDebit_positions h₂
  have hremoved : (s.positions currencyId who).debit - (s'.positions currencyId who).debit =
      min (s.positions currencyId who).debit debitAdjustmentAbs := by
    rw [hpos]
    dsimp only
    omega
  intro hsome
  rw [hremoved] at hsome ⊢
  rw [Loans.settleDebit_of_neg (by omega)] at h₂
  obtain ⟨hburn, -⟩ := SeusdTreasury.burnDebit_eq_ok T _ h₂
  refine ⟨_, _, hburn, le_of_eq ?_⟩
  have habs : Loans.balanceTryFromAmountAbs (-↑(min (s.positions currencyId who).debit debitAdjustmentAbs)) =
      min (s.positions currencyId who).debit debitAdjustmentAbs := by
    unfold Loans.balanceTryFromAmountAbs
    rw [Int.natAbs_neg, Int.natAbs_natCast]
    omega
  rw [habs]
  exact congrFun (congrFun (convertToDebitValue_congr T s hrate.symm) currencyId) _

/-- A successful `transfer_loan` between two accounts leaves neither position
`Unsafe`: the destination holds what `check_position_valid` passed, the
source nothing. -/
theorem transferLoan_not_notSafe {s s' : State AccountId L} {src dst : AccountId} {currencyId : CurrencyId}
    (hne : src ≠ dst) (h : Loans.transferLoan T s src dst currencyId = .ok s') :
    checkCdpStatus T s' currencyId (s'.positions currencyId dst).collateral (s'.positions currencyId dst).debit ≠
        .notSafe ∧
      checkCdpStatus T s' currencyId (s'.positions currencyId src).collateral (s'.positions currencyId src).debit ≠
        .notSafe := by
  obtain ⟨hvalid, hdst, hsrc, hrate, hparams⟩ := Loans.transferLoan_eq_ok hne h
  rw [checkCdpStatus_congr T s' hrate hparams, hdst, hsrc]
  exact ⟨checkCdpStatus_ne_notSafe T s hvalid, checkCdpStatus_ne_notSafe_of_debit_zero T s currencyId 0⟩

variable (T) in
theorem debit_conversions_never_favour_borrower (s : State AccountId L) :
    (∀ currencyId debitValue debitBalance, tryConvertToDebitBalance T s currencyId debitValue = some debitBalance →
      convertToDebitValue T s currencyId debitBalance ≤ debitValue) ∧
    (∀ who currencyId decreaseCollateral minDecreaseDebitValue s',
      shrinkPositionDebit T s who currencyId decreaseCollateral minDecreaseDebitValue = .ok s' →
      ∃ burnt ledger, T.withdraw T.getSeusdCurrencyId T.loansAccountId burnt ledger = some s'.ledger ∧
        convertToDebitValue T s currencyId ((s.positions currencyId who).debit - (s'.positions currencyId who).debit) ≤
          burnt) ∧
    (∀ who currencyId collateralAdjustment debitValueAdjustment s', debitValueAdjustment < 0 →
      adjustPositionByDebitValue T s who currencyId collateralAdjustment debitValueAdjustment = .ok s' →
      0 < (s.positions currencyId who).debit - (s'.positions currencyId who).debit →
      ∃ burnt ledger, T.withdraw T.getSeusdCurrencyId who burnt ledger = some s'.ledger ∧
        convertToDebitValue T s currencyId ((s.positions currencyId who).debit - (s'.positions currencyId who).debit) ≤
          burnt) ∧
    (∀ who currencyId collateralAdjustment debitAdjustment s',
      adjustPosition T s who currencyId collateralAdjustment debitAdjustment = .ok s' →
      checkCdpStatus T s' currencyId (s'.positions currencyId who).collateral (s'.positions currencyId who).debit ≠
        .notSafe) ∧
    (∀ who currencyId increaseDebitValue minIncreaseCollateral s',
      expandPositionCollateral T s who currencyId increaseDebitValue minIncreaseCollateral = .ok s' →
      checkCdpStatus T s' currencyId (s'.positions currencyId who).collateral (s'.positions currencyId who).debit ≠
        .notSafe) ∧
    (∀ who currencyId decreaseCollateral minDecreaseDebitValue s',
      shrinkPositionDebit T s who currencyId decreaseCollateral minDecreaseDebitValue = .ok s' →
      checkCdpStatus T s' currencyId (s'.positions currencyId who).collateral (s'.positions currencyId who).debit ≠
        .notSafe) ∧
    (∀ src dst currencyId s', src ≠ dst → Loans.transferLoan T s src dst currencyId = .ok s' →
      checkCdpStatus T s' currencyId (s'.positions currencyId dst).collateral (s'.positions currencyId dst).debit ≠
          .notSafe ∧
        checkCdpStatus T s' currencyId (s'.positions currencyId src).collateral (s'.positions currencyId src).debit ≠
          .notSafe) :=
  ⟨fun _ _ _ h => convertToDebitValue_le_of_tryConvert T s h,
    fun _ _ _ _ _ h => (shrinkPositionDebit_eq_ok h).2,
    fun _ _ _ _ _ hneg h => adjustPositionByDebitValue_of_neg hneg h,
    fun _ _ _ _ _ h => adjustPosition_not_notSafe h,
    fun _ _ _ _ _ h => expandPositionCollateral_not_notSafe h,
    fun _ _ _ _ _ h => (shrinkPositionDebit_eq_ok h).1,
    fun _ _ _ _ hne h => transferLoan_not_notSafe hne h⟩

end SeusdEngine

end Setheum.Cdp
