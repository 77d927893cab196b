import Setheum.Cdp.Ecdp
import Setheum.Swap.Reference

/-!
# A deployment of the CDP pallets

Every collateral is worth one and a half stable coins, a debit unit is worth
one (the default rate), a position must keep a collateral ratio of one and a
half (the default liquidation ratio) and a debit value of at least 1, and an
authorisation costs a deposit of 1 SEU. Balances are the reference ledger of
the DEX, and the DEX itself takes no trade. Alice borrowed 5 against 10 SEU and
holds 10 DOT, a foreign asset, without debit; Bob's 1 SEU against a debit of 1
is below the liquidation ratio. A second deployment adds a DEX that trades at
the oracle's price, and gives Alice 5 stable coins.
-/

namespace Setheum.Cdp.Reference

open Result

inductive Account where
  | alice
  | bob
  | loans
  | treasury
  deriving DecidableEq, Repr

def seu : CurrencyId := .token .SEU

def seusd : CurrencyId := .token .SEUSD

def dot : CurrencyId := .foreignAsset 0

def oneAndHalf : FixedU128 := ⟨15 * 10 ^ 17, by norm_num⟩

abbrev Ledger := Swap.Reference.Balances Account

def config : Config Account Ledger where
  getSeusdCurrencyId := seusd
  defaultLiquidationRatio := oneAndHalf
  defaultDebitExchangeRate := FixedU128.one
  minimumDebitValue := 1
  minimumCollateralAmount _ := 0
  depositPerAuthorization := 1
  loansAccountId := .loans
  treasuryAccountId := .treasury
  getRelativePrice _ _ := some oneAndHalf
  deposit := Swap.Reference.deposit
  withdraw := Swap.Reference.withdraw
  transfer := Swap.Reference.transfer
  swap _ _ _ _ _ := none
  addLiquidity _ _ _ _ _ _ _ := none
  removeLiquidity _ _ _ _ _ := none
  swapCollateralToStable _ _ _ := none
  reserve who value l := Swap.Reference.withdraw seu who value l
  unreserve who value l := (Swap.Reference.deposit seu who value l).getD l

/-- SEU and DOT: a cap of 1000 on the debit value, the default liquidation
ratio, no required ratio. -/
def params : RiskManagementParams := ⟨1000, none, none⟩

def cdpState : State Account Ledger where
  ledger c a := if c = seu ∧ a = .loans then 11 else if c = dot ∧ a = .loans then 10 else 0
  debitExchangeRate _ := none
  collateralParams c := if c = seu ∨ c = dot then some params else none
  positions c a :=
    if c = seu ∧ a = .alice then ⟨10, 5⟩
    else if c = dot ∧ a = .alice then ⟨10, 0⟩
    else if c = seu ∧ a = .bob then ⟨1, 1⟩
    else ⟨0, 0⟩
  totalPositions c := if c = seu then ⟨11, 6⟩ else if c = dot then ⟨10, 0⟩ else ⟨0, 0⟩
  debitPool := 0

def liveState : Ecdp.State Account Ledger := ⟨cdpState, false, fun _ => ∅, fun _ => 0⟩

def shutdownState : Ecdp.State Account Ledger := { liveState with isShutdown := true }

/-- After the shutdown, Alice moves a debit unit from her SEU position to her
DOT position. -/
theorem transferDebit_moves_debit_after_shutdown_reference :
    ∃ t, Ecdp.dispatch config shutdownState (.transferDebit .alice seu dot 1) = .ok t ∧ t.isShutdown = true ∧
      (t.cdp.positions seu .alice).debit = 4 ∧ (t.cdp.positions dot .alice).debit = 1 := by
  obtain ⟨t, h⟩ := exists_ok_of_toOption_isSome
    (by decide : (Ecdp.dispatch config shutdownState (.transferDebit .alice seu dot 1)).toOption.isSome)
  obtain ⟨hshut, hfrom, hto⟩ := Ecdp.transferDebit_moves_debit_after_shutdown (by decide) rfl h
  refine ⟨t, h, hshut, ?_, hto⟩
  change _ + 1 = 5 at hfrom
  omega

/-- After the shutdown, Alice's adjustment of her SEU loan and Bob's move of
her loan change nothing: her debit stays at 5. -/
theorem debit_frozen_after_shutdown :
    ((((Ecdp.system config).restrict fun call => call.guarded = true).run shutdownState
      [.adjustLoan .alice seu 0 1, .transferLoanFrom .bob seu .alice]).cdp.positions seu .alice).debit = 5 :=
  Ecdp.debit_frozen_run (T := config) rfl _ seu .alice

/-- Alice authorises Bob, which her balance cannot back, and withdraws every
authorisation: her named reserve stays the total of her live ones. -/
theorem reserves_match_after_authorize :
    let s := ((Ecdp.system config).guard fun s call => Ecdp.reserveFits config s call = true).run liveState
      [.authorize .alice seu .bob, .unauthorizeAll .alice]
    Ecdp.ReservesMatch s ∧ s.reserves .alice = 0 :=
  ⟨Ecdp.reservesMatch_invariant (T := config) _ ((Transition.Reachable.init fun _ => ⟨rfl, rfl⟩).run _), by decide⟩

/-- Bob moves his loan to himself: the call checks the doubled position, 3
against a debit of 2, which reaches the liquidation ratio, and leaves his
own, 1 against 1, which is below it. -/
theorem transferLoanFrom_self_leaves_unsafe :
    SeusdEngine.checkCdpStatus config cdpState seu 1 1 = .notSafe ∧
      (Ecdp.dispatch config liveState (.transferLoanFrom .bob seu .bob)).toOption.map
          (fun t => SeusdEngine.checkCdpStatus config t.cdp seu (t.cdp.positions seu .bob).collateral
            (t.cdp.positions seu .bob).debit) =
        some .notSafe := by
  decide

/-- A DEX that trades at the oracle's price, three halves of a stable coin
for one unit of collateral, on an exact supply that meets its minimum. -/
def oracleSwap (who : Account) (supply target : CurrencyId) (limit : SwapLimit) (l : Ledger) :
    Option ((Nat × Nat) × Ledger) :=
  match limit with
  | .exactSupply amount minimum =>
      let out := if supply = seusd then amount * 2 / 3 else amount * 3 / 2
      if out < minimum then none
      else (Swap.Reference.withdraw supply who amount l).bind fun l =>
        (Swap.Reference.deposit target who out l).map fun l => ((amount, out), l)
  | .exactTarget _ _ => none

/-- The deployment with that DEX. -/
def dexConfig : Config Account Ledger := { config with swap := oracleSwap }

/-- Alice also holds 5 stable coins. -/
def fundedState : State Account Ledger :=
  { cdpState with ledger := fun c a => if c = seusd ∧ a = .alice then 5 else cdpState.ledger c a }

/-- A conversion at the default rate; Alice's SEU loan moved to Bob; and, on
the DEX, Alice sells 2 SEU of collateral to pay down her debit, repays a
debit value of 1 from her own stable coins, and borrows 2 more against the SEU
they buy. -/
theorem debit_conversions_never_favour_borrower_reference :
    SeusdEngine.convertToDebitValue config cdpState seu 3 ≤ 3 ∧
      (∃ t, Loans.transferLoan config cdpState .alice .bob seu = .ok t ∧
        SeusdEngine.checkCdpStatus config t seu (t.positions seu .bob).collateral (t.positions seu .bob).debit ≠
          .notSafe ∧
        SeusdEngine.checkCdpStatus config t seu (t.positions seu .alice).collateral
          (t.positions seu .alice).debit ≠ .notSafe) ∧
      (∃ t, SeusdEngine.shrinkPositionDebit dexConfig fundedState .alice seu 2 0 = .ok t ∧
        (∃ burnt ledger, dexConfig.withdraw seusd .loans burnt ledger = some t.ledger ∧
          SeusdEngine.convertToDebitValue dexConfig fundedState seu
            ((fundedState.positions seu .alice).debit - (t.positions seu .alice).debit) ≤ burnt) ∧
        SeusdEngine.checkCdpStatus dexConfig t seu (t.positions seu .alice).collateral
          (t.positions seu .alice).debit ≠ .notSafe) ∧
      (∃ t, SeusdEngine.adjustPositionByDebitValue dexConfig fundedState .alice seu 0 (-1) = .ok t ∧
        ∃ burnt ledger, dexConfig.withdraw seusd .alice burnt ledger = some t.ledger ∧
          SeusdEngine.convertToDebitValue dexConfig fundedState seu
            ((fundedState.positions seu .alice).debit - (t.positions seu .alice).debit) ≤ burnt) ∧
      (∃ t, SeusdEngine.expandPositionCollateral dexConfig fundedState .alice seu 2 0 = .ok t ∧
        SeusdEngine.checkCdpStatus dexConfig t seu (t.positions seu .alice).collateral
          (t.positions seu .alice).debit ≠ .notSafe) := by
  obtain ⟨t₁, h₁⟩ := exists_ok_of_toOption_isSome
    (by decide : (Loans.transferLoan config cdpState .alice .bob seu).toOption.isSome)
  obtain ⟨t₂, h₂⟩ := exists_ok_of_toOption_isSome
    (by decide : (SeusdEngine.shrinkPositionDebit dexConfig fundedState .alice seu 2 0).toOption.isSome)
  obtain ⟨t₃, h₃⟩ := exists_ok_of_toOption_isSome
    (by decide : (SeusdEngine.adjustPositionByDebitValue dexConfig fundedState .alice seu 0 (-1)).toOption.isSome)
  obtain ⟨t₄, h₄⟩ := exists_ok_of_toOption_isSome
    (by decide : (SeusdEngine.expandPositionCollateral dexConfig fundedState .alice seu 2 0).toOption.isSome)
  have hrepaid : 0 < (fundedState.positions seu .alice).debit - (t₃.positions seu .alice).debit := by
    have hdebit : (SeusdEngine.adjustPositionByDebitValue dexConfig fundedState .alice seu 0 (-1)).toOption.map
        (fun t => (t.positions seu .alice).debit) = some 4 := by decide
    rw [h₃] at hdebit
    have h4 : (t₃.positions seu .alice).debit = 4 := Option.some.inj hdebit
    rw [h4]
    decide
  have hclaim := SeusdEngine.debit_conversions_never_favour_borrower config cdpState
  have hdex := SeusdEngine.debit_conversions_never_favour_borrower dexConfig fundedState
  exact ⟨hclaim.1 seu 3 3 (by decide), ⟨t₁, h₁, hclaim.2.2.2.2.2.2 .alice .bob seu t₁ (by decide) h₁⟩,
    ⟨t₂, h₂, hdex.2.1 .alice seu 2 0 t₂ h₂, hdex.2.2.2.2.2.1 .alice seu 2 0 t₂ h₂⟩,
    ⟨t₃, h₃, hdex.2.2.1 .alice seu 0 (-1) t₃ (by decide) h₃ hrepaid⟩,
    ⟨t₄, h₄, hdex.2.2.2.2.1 .alice seu 2 0 t₄ h₄⟩⟩

end Setheum.Cdp.Reference
