import Setheum.Cdp.Risk

/-!
# `module_loans` and the debit side of the treasury

`update_loan` moves a position and the total of its collateral type by two
signed adjustments, each checked against underflow and overflow.
`adjust_position` also moves the collateral between the owner and the
pallet's account, issues the value of new debit or burns the value of repaid
debit through the treasury, and checks the position; `transfer_loan` moves a
whole position to another account after checking the position it makes there.

Every function leaves the positions it does not name as they were, and a zero
debit adjustment leaves every debit as it was.
-/

namespace Setheum.Cdp

open Result

variable {AccountId L : Type}

namespace State

def setTotalPositions (s : State AccountId L) (currencyId : CurrencyId) (p : Position) : State AccountId L :=
  { s with totalPositions := fun c => if c = currencyId then p else s.totalPositions c }

variable (s : State AccountId L) (currencyId : CurrencyId)

@[simp] theorem setTotalPositions_positions (p) :
    (s.setTotalPositions currencyId p).positions = s.positions := rfl
@[simp] theorem setTotalPositions_ledger (p) : (s.setTotalPositions currencyId p).ledger = s.ledger := rfl
@[simp] theorem setTotalPositions_totalPositions (p c) :
    (s.setTotalPositions currencyId p).totalPositions c = if c = currencyId then p else s.totalPositions c := rfl

variable [DecidableEq AccountId]

/-- A position of `Positions` is written, a zero one being removed, which reads
back as the default zero position. -/
def setPosition (who : AccountId) (p : Position) : State AccountId L :=
  { s with positions := fun c a => if c = currencyId ∧ a = who then p else s.positions c a }

@[simp] theorem setPosition_positions (who p c a) :
    (s.setPosition currencyId who p).positions c a = if c = currencyId ∧ a = who then p else s.positions c a := rfl
@[simp] theorem setPosition_ledger (who p) : (s.setPosition currencyId who p).ledger = s.ledger := rfl
@[simp] theorem setPosition_totalPositions (who p) :
    (s.setPosition currencyId who p).totalPositions = s.totalPositions := rfl

end State

namespace SeusdTreasury

variable (T : Config AccountId L) (s : State AccountId L)

/-- `on_system_debit`: the debit pool grows, checked. -/
def onSystemDebit (amount : Nat) : Except DispatchError (State AccountId L) := do
  let debitPool ← okOr (Balance.checkedAdd s.debitPool amount) (.arithmetic .overflow)
  pure { s with debitPool }

/-- `issue_debit`: the stable coin is minted to `who`, and counted as system
debit when it is not backed. -/
def issueDebit (who : AccountId) (debit : Nat) (backed : Bool) : Except DispatchError (State AccountId L) := do
  let s ← (if backed then pure s else onSystemDebit s debit)
  let ledger ← okOr (T.deposit T.getSeusdCurrencyId who debit s.ledger) .external
  pure { s with ledger }

/-- `burn_debit`. -/
def burnDebit (who : AccountId) (debit : Nat) : Except DispatchError (State AccountId L) := do
  let ledger ← okOr (T.withdraw T.getSeusdCurrencyId who debit s.ledger) .external
  pure { s with ledger }

theorem issueDebit_positions {who : AccountId} {debit : Nat} {backed : Bool} {s' : State AccountId L}
    (h : issueDebit T s who debit backed = .ok s') : s'.positions = s.positions := by
  unfold issueDebit at h
  obtain ⟨s₁, h₁, h⟩ := bind_eq_ok.mp h
  obtain ⟨ledger, -, h⟩ := bind_eq_ok.mp h
  cases pure_eq_ok.mp h
  cases backed
  · simp only [Bool.false_eq_true, if_false, onSystemDebit] at h₁
    obtain ⟨debitPool, -, h₁⟩ := bind_eq_ok.mp h₁
    cases pure_eq_ok.mp h₁
    rfl
  · simp only [if_true] at h₁
    cases pure_eq_ok.mp h₁
    rfl

theorem burnDebit_eq_ok {who : AccountId} {debit : Nat} {s' : State AccountId L}
    (h : burnDebit T s who debit = .ok s') :
    T.withdraw T.getSeusdCurrencyId who debit s.ledger = some s'.ledger ∧ s'.positions = s.positions ∧
      s'.debitExchangeRate = s.debitExchangeRate := by
  obtain ⟨ledger, hledger, h⟩ := bind_eq_ok.mp h
  cases pure_eq_ok.mp h
  exact ⟨okOr_eq_ok.mp hledger, rfl, rfl⟩

end SeusdTreasury

namespace Loans

variable [DecidableEq AccountId]

/-- `amount_try_from_balance`: `Amount = i128`. -/
def amountTryFromBalance (b : Nat) : Except DispatchError Int :=
  if b < 2 ^ 127 then pure b else throw (.loans .amountConvertFailed)

/-- `balance_try_from_amount_abs`, which never fails: the saturating absolute
value of an `i128` fits a `u128`. -/
def balanceTryFromAmountAbs (a : Int) : Nat := min a.natAbs (2 ^ 127 - 1)

/-- One side of `update_loan`: a positive adjustment adds its absolute value,
checked against overflow, and any other subtracts it, checked against underflow. -/
def adjust (balance : Nat) (adjustment : Int) : Except DispatchError Nat :=
  let amount := balanceTryFromAmountAbs adjustment
  if 0 < adjustment then okOr (Balance.checkedAdd balance amount) (.arithmetic .overflow)
  else okOr (Balance.checkedSub balance amount) (.arithmetic .underflow)

@[simp] theorem adjust_zero (balance : Nat) : adjust balance 0 = .ok balance := by
  simp [adjust, balanceTryFromAmountAbs, Balance.checkedSub, okOr]

variable (T : Config AccountId L)

/-- `update_loan`. The account references it takes and drops are not modelled. -/
def updateLoan (s : State AccountId L) (who : AccountId) (currencyId : CurrencyId)
    (collateralAdjustment debitAdjustment : Int) : Except DispatchError (State AccountId L) := do
  let p := s.positions currencyId who
  let newCollateral ← adjust p.collateral collateralAdjustment
  let newDebit ← adjust p.debit debitAdjustment
  let s := s.setPosition currencyId who ⟨newCollateral, newDebit⟩
  let totalPositions := s.totalPositions currencyId
  let totalCollateral ← adjust totalPositions.collateral collateralAdjustment
  let totalDebit ← adjust totalPositions.debit debitAdjustment
  pure (s.setTotalPositions currencyId ⟨totalCollateral, totalDebit⟩)

/-- The collateral side of `adjust_position`: a deposit goes into the pallet's
account, a withdrawal comes out of it. -/
def transferCollateral (ledger : L) (who : AccountId) (currencyId : CurrencyId) (collateralAdjustment : Int) :
    Except DispatchError L :=
  let amount := balanceTryFromAmountAbs collateralAdjustment
  if 0 < collateralAdjustment then okOr (T.transfer currencyId who T.loansAccountId amount ledger) .external
  else if collateralAdjustment < 0 then
    okOr (T.transfer currencyId T.loansAccountId who amount ledger) .external
  else pure ledger

/-- The debit side of `adjust_position`: new debit is issued at its value under
the debit cap, repaid debit is burnt at its value. -/
def settleDebit (s : State AccountId L) (who : AccountId) (currencyId : CurrencyId) (debitAdjustment : Int) :
    Except DispatchError (State AccountId L) :=
  let amount := balanceTryFromAmountAbs debitAdjustment
  if 0 < debitAdjustment then do
    SeusdEngine.checkDebitCap T s currencyId (s.totalPositions currencyId).debit
    SeusdTreasury.issueDebit T s who (SeusdEngine.convertToDebitValue T s currencyId amount) true
  else if debitAdjustment < 0 then
    SeusdTreasury.burnDebit T s who (SeusdEngine.convertToDebitValue T s currencyId amount)
  else pure s

/-- `adjust_position`. -/
def adjustPosition (s : State AccountId L) (who : AccountId) (currencyId : CurrencyId)
    (collateralAdjustment debitAdjustment : Int) : Except DispatchError (State AccountId L) := do
  let s ← updateLoan s who currencyId collateralAdjustment debitAdjustment
  let ledger ← transferCollateral T s.ledger who currencyId collateralAdjustment
  let s ← settleDebit T { s with ledger } who currencyId debitAdjustment
  -- the required ratio is checked too when collateral leaves or debit grows
  let p := s.positions currencyId who
  SeusdEngine.checkPositionValid T s currencyId p.collateral p.debit
    (decide (collateralAdjustment < 0) || decide (0 < debitAdjustment))
  pure s

/-- `transfer_loan` from `src` to `dst`, the source's `from` and `to`. -/
def transferLoan (s : State AccountId L) (src dst : AccountId) (currencyId : CurrencyId) :
    Except DispatchError (State AccountId L) := do
  let p := s.positions currencyId src
  let q := s.positions currencyId dst
  -- the source expects these sums not to overflow, and panics otherwise
  let newToCollateralBalance ← okOr (Balance.checkedAdd q.collateral p.collateral) (.arithmetic .overflow)
  let newToDebitBalance ← okOr (Balance.checkedAdd q.debit p.debit) (.arithmetic .overflow)
  SeusdEngine.checkPositionValid T s currencyId newToCollateralBalance newToDebitBalance true
  let collateralAdjustment ← amountTryFromBalance p.collateral
  let debitAdjustment ← amountTryFromBalance p.debit
  let s ← updateLoan s src currencyId (-collateralAdjustment) (-debitAdjustment)
  updateLoan s dst currencyId collateralAdjustment debitAdjustment

/-- `confiscate_collateral_and_debit`: the collateral goes to the treasury, the
value of the debit becomes system debit, and the position gives up both. -/
def confiscateCollateralAndDebit (s : State AccountId L) (who : AccountId) (currencyId : CurrencyId)
    (collateralConfiscate debitDecrease : Nat) : Except DispatchError (State AccountId L) := do
  let collateralAdjustment ← amountTryFromBalance collateralConfiscate
  let debitAdjustment ← amountTryFromBalance debitDecrease
  let ledger ← okOr (T.transfer currencyId T.loansAccountId T.treasuryAccountId collateralConfiscate s.ledger)
    .external
  let badDebtValue := SeusdEngine.convertToDebitValue T s currencyId debitDecrease
  let s ← SeusdTreasury.onSystemDebit { s with ledger } badDebtValue
  updateLoan s who currencyId (-collateralAdjustment) (-debitAdjustment)

/-! ## What `update_loan` writes -/

theorem amountTryFromBalance_eq_ok {b : Nat} {a : Int} : amountTryFromBalance b = .ok a ↔ b < 2 ^ 127 ∧ a = b := by
  unfold amountTryFromBalance
  split_ifs with h
  · exact ⟨fun e => ⟨h, (pure_eq_ok.mp e).symm⟩, fun ⟨_, e⟩ => pure_eq_ok.mpr e.symm⟩
  · exact ⟨(fun e => nomatch e), fun ⟨h', _⟩ => absurd h' h⟩

theorem adjust_natCast {b b' n : Nat} (hn : n < 2 ^ 127) (h : adjust b n = .ok b') : b' = b + n := by
  have habs : balanceTryFromAmountAbs n = n := by
    unfold balanceTryFromAmountAbs
    rw [Int.natAbs_natCast]
    omega
  unfold adjust at h
  rw [habs] at h
  by_cases hpos : (0 : Int) < n
  · rw [if_pos hpos] at h
    exact ((Balance.checkedAdd_eq_some.mp (okOr_eq_ok.mp h)).2).symm
  · -- a zero adjustment takes the subtracting branch
    rw [if_neg hpos] at h
    obtain ⟨-, h⟩ := Balance.checkedSub_eq_some.mp (okOr_eq_ok.mp h)
    omega

theorem adjust_neg_natCast {b b' n : Nat} (hn : n < 2 ^ 127) (h : adjust b (-n) = .ok b') : n ≤ b ∧ b' = b - n := by
  have habs : balanceTryFromAmountAbs (-n) = n := by
    unfold balanceTryFromAmountAbs
    rw [Int.natAbs_neg, Int.natAbs_natCast]
    omega
  unfold adjust at h
  rw [habs, if_neg (by omega)] at h
  obtain ⟨hle, heq⟩ := Balance.checkedSub_eq_some.mp (okOr_eq_ok.mp h)
  exact ⟨hle, heq.symm⟩

variable {T}

/-- A successful `update_loan` moved the named position by the two
adjustments, the rest of the positions not at all, and wrote nothing but
positions and totals. -/
theorem updateLoan_eq_ok {s s' : State AccountId L} {who : AccountId} {currencyId : CurrencyId}
    {collateralAdjustment debitAdjustment : Int}
    (h : updateLoan s who currencyId collateralAdjustment debitAdjustment = .ok s') :
    adjust (s.positions currencyId who).collateral collateralAdjustment = .ok (s'.positions currencyId who).collateral ∧
      adjust (s.positions currencyId who).debit debitAdjustment = .ok (s'.positions currencyId who).debit ∧
      (∀ c a, ¬(c = currencyId ∧ a = who) → s'.positions c a = s.positions c a) ∧
      s'.ledger = s.ledger ∧ s'.debitExchangeRate = s.debitExchangeRate ∧ s'.collateralParams = s.collateralParams := by
  obtain ⟨newCollateral, hcollateral, h⟩ := bind_eq_ok.mp h
  obtain ⟨newDebit, hdebit, h⟩ := bind_eq_ok.mp h
  obtain ⟨_, -, h⟩ := bind_eq_ok.mp h
  obtain ⟨_, -, h⟩ := bind_eq_ok.mp h
  cases pure_eq_ok.mp h
  exact ⟨by simpa using hcollateral, by simpa using hdebit, fun c a hne => by simp [hne], rfl, rfl, rfl⟩

theorem updateLoan_debit_of_zero {s s' : State AccountId L} {who : AccountId} {currencyId : CurrencyId}
    {collateralAdjustment : Int} (h : updateLoan s who currencyId collateralAdjustment 0 = .ok s') (c : CurrencyId)
    (a : AccountId) : (s'.positions c a).debit = (s.positions c a).debit := by
  obtain ⟨-, hdebit, hother, -⟩ := updateLoan_eq_ok h
  by_cases hca : c = currencyId ∧ a = who
  · obtain ⟨rfl, rfl⟩ := hca
    simpa using hdebit.symm
  · rw [hother c a hca]

omit [DecidableEq AccountId] in
theorem settleDebit_positions {s s' : State AccountId L} {who : AccountId} {currencyId : CurrencyId}
    {debitAdjustment : Int} (h : settleDebit T s who currencyId debitAdjustment = .ok s') :
    s'.positions = s.positions := by
  unfold settleDebit at h
  split_ifs at h with hpos hneg
  · obtain ⟨_, -, h⟩ := bind_eq_ok.mp h
    exact SeusdTreasury.issueDebit_positions T s h
  · exact (SeusdTreasury.burnDebit_eq_ok T s h).2.1
  · cases pure_eq_ok.mp h
    rfl

omit [DecidableEq AccountId] in
theorem settleDebit_of_neg {s : State AccountId L} {who : AccountId} {currencyId : CurrencyId}
    {debitAdjustment : Int} (hneg : debitAdjustment < 0) :
    settleDebit T s who currencyId debitAdjustment = SeusdTreasury.burnDebit T s who
      (SeusdEngine.convertToDebitValue T s currencyId (balanceTryFromAmountAbs debitAdjustment)) := by
  unfold settleDebit
  rw [if_neg (by omega), if_pos hneg]

theorem adjustPosition_eq_ok {s s' : State AccountId L} {who : AccountId} {currencyId : CurrencyId}
    {collateralAdjustment debitAdjustment : Int}
    (h : adjustPosition T s who currencyId collateralAdjustment debitAdjustment = .ok s') :
    (∃ flag, SeusdEngine.checkPositionValid T s' currencyId (s'.positions currencyId who).collateral
      (s'.positions currencyId who).debit flag = .ok ()) ∧
    ∃ s₁ ledger, updateLoan s who currencyId collateralAdjustment debitAdjustment = .ok s₁ ∧
      settleDebit T { s₁ with ledger } who currencyId debitAdjustment = .ok s' := by
  unfold adjustPosition at h
  obtain ⟨s₁, h₁, h⟩ := bind_eq_ok.mp h
  obtain ⟨ledger, -, h⟩ := bind_eq_ok.mp h
  obtain ⟨s₂, h₂, h⟩ := bind_eq_ok.mp h
  obtain ⟨_, hvalid, h⟩ := bind_eq_ok.mp h
  cases pure_eq_ok.mp h
  exact ⟨⟨_, hvalid⟩, s₁, ledger, h₁, h₂⟩

theorem adjustPosition_positions {s s' : State AccountId L} {who : AccountId} {currencyId : CurrencyId}
    {collateralAdjustment debitAdjustment : Int}
    (h : adjustPosition T s who currencyId collateralAdjustment debitAdjustment = .ok s') :
    adjust (s.positions currencyId who).debit debitAdjustment = .ok (s'.positions currencyId who).debit ∧
      ∀ c a, ¬(c = currencyId ∧ a = who) → s'.positions c a = s.positions c a := by
  obtain ⟨-, s₁, ledger, h₁, h₂⟩ := adjustPosition_eq_ok h
  obtain ⟨-, hdebit, hother, -⟩ := updateLoan_eq_ok h₁
  rw [settleDebit_positions h₂]
  exact ⟨hdebit, hother⟩

theorem adjustPosition_debit_of_zero {s s' : State AccountId L} {who : AccountId} {currencyId : CurrencyId}
    {collateralAdjustment : Int} (h : adjustPosition T s who currencyId collateralAdjustment 0 = .ok s')
    (c : CurrencyId) (a : AccountId) : (s'.positions c a).debit = (s.positions c a).debit := by
  obtain ⟨-, s₁, ledger, h₁, h₂⟩ := adjustPosition_eq_ok h
  rw [settleDebit_positions h₂]
  exact updateLoan_debit_of_zero h₁ c a

/-- `transfer_loan` between two accounts checked the position it makes at the
destination, which is where the whole source position goes; the source is
left with nothing, and the rates and parameters stay. -/
theorem transferLoan_eq_ok {s s' : State AccountId L} {src dst : AccountId} {currencyId : CurrencyId}
    (hne : src ≠ dst) (h : transferLoan T s src dst currencyId = .ok s') :
    SeusdEngine.checkPositionValid T s currencyId
        ((s.positions currencyId dst).collateral + (s.positions currencyId src).collateral)
        ((s.positions currencyId dst).debit + (s.positions currencyId src).debit) true = .ok () ∧
      s'.positions currencyId dst =
        ⟨(s.positions currencyId dst).collateral + (s.positions currencyId src).collateral,
          (s.positions currencyId dst).debit + (s.positions currencyId src).debit⟩ ∧
      s'.positions currencyId src = ⟨0, 0⟩ ∧
      s'.debitExchangeRate = s.debitExchangeRate ∧ s'.collateralParams = s.collateralParams := by
  unfold transferLoan at h
  obtain ⟨newToCollateral, hcollateral, h⟩ := bind_eq_ok.mp h
  obtain ⟨newToDebit, hdebit, h⟩ := bind_eq_ok.mp h
  obtain ⟨_, hvalid, h⟩ := bind_eq_ok.mp h
  obtain ⟨collateralAdjustment, hca, h⟩ := bind_eq_ok.mp h
  obtain ⟨debitAdjustment, hda, h⟩ := bind_eq_ok.mp h
  obtain ⟨s₁, h₁, h₂⟩ := bind_eq_ok.mp h
  obtain ⟨hcb, rfl⟩ := amountTryFromBalance_eq_ok.mp hca
  obtain ⟨hdb, rfl⟩ := amountTryFromBalance_eq_ok.mp hda
  obtain ⟨hc₁, hd₁, hother₁, -, hrate₁, hparams₁⟩ := updateLoan_eq_ok h₁
  obtain ⟨hc₂, hd₂, hother₂, -, hrate₂, hparams₂⟩ := updateLoan_eq_ok h₂
  have hsrc : s'.positions currencyId src = s₁.positions currencyId src :=
    hother₂ currencyId src fun h => hne h.2
  have hdst : s₁.positions currencyId dst = s.positions currencyId dst :=
    hother₁ currencyId dst fun h => hne h.2.symm
  obtain ⟨-, hc₁⟩ := adjust_neg_natCast hcb hc₁
  obtain ⟨-, hd₁⟩ := adjust_neg_natCast hdb hd₁
  rw [hdst] at hc₂ hd₂
  have hc₂ := adjust_natCast hcb hc₂
  have hd₂ := adjust_natCast hdb hd₂
  obtain ⟨-, rfl⟩ := Balance.checkedAdd_eq_some.mp (okOr_eq_ok.mp hcollateral)
  obtain ⟨-, rfl⟩ := Balance.checkedAdd_eq_some.mp (okOr_eq_ok.mp hdebit)
  refine ⟨hvalid, ?_, ?_, hrate₂.trans hrate₁, hparams₂.trans hparams₁⟩
  · cases hpos : s'.positions currencyId dst with
    | mk collateral debit =>
      rw [hpos] at hc₂ hd₂
      rw [Position.mk.injEq]
      exact ⟨hc₂, hd₂⟩
  · rw [hsrc]
    cases hpos : s₁.positions currencyId src with
    | mk collateral debit =>
      simp only [hpos] at hc₁ hd₁
      rw [Position.mk.injEq]
      omega

end Loans

end Setheum.Cdp
