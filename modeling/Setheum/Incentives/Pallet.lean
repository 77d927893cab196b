import Setheum.Rewards.Accounting
import Setheum.Tokens.Pallet
import Setheum.Primitives.Currency
import Setheum.Lib.Result

/-!
# The incentives pallet: staking of DEX shares

`do_deposit_dex_share` and `do_withdraw_dex_share` of `module_incentives`.
A deposit moves LP tokens into the pallet's account and adds as many shares
of the `LiquidityRewards` pool of the rewards pallet; a withdrawal moves them
back and removes the shares. Both calls drop the result of the rewards call,
so the LP ledger and the pool's shares part when that call fails after the
transfer went through.

The ledger is the `MultiCurrency` of the runtime, given by its transfer.
-/

namespace Setheum.Incentives

open Result

/-- `PoolId` of `module_support::incentives`. -/
inductive PoolId where
  | setrLiquidityRewards (c : CurrencyId)
  | ussdLiquidityRewards (c : CurrencyId)
  | liquidityRewards (c : CurrencyId)
  | moyaEarnRewards (c : CurrencyId)
  deriving DecidableEq, Repr

/-- `Error` of the pallet. -/
inductive Error where
  | notEnough
  | invalidCurrencyId
  | invalidPoolId
  | invalidRate
  deriving DecidableEq, Repr

/-- The errors a call returns; those of `MultiCurrency` are `external`. -/
inductive DispatchError where
  | module (e : Error)
  | external
  deriving DecidableEq, Repr

/-- The pallet's `Config`, with the `MinimalShares` of the rewards pallet it drives. -/
structure Config (AccountId L : Type) where
  /-- `Self::account_id()`, derived from `PalletId`. -/
  accountId : AccountId
  /-- `MultiCurrency::transfer` of `T::Currency`. -/
  transfer : CurrencyId → AccountId → AccountId → Nat → L → Option L
  rewards : Rewards.Config PoolId

/-- The ledger of `T::Currency` and the storage of the rewards pallet. -/
structure State (AccountId L : Type) where
  ledger : L
  rewards : Rewards.State PoolId AccountId CurrencyId

variable {AccountId L : Type} [DecidableEq AccountId] (T : Config AccountId L)

/-- `do_deposit_dex_share`. -/
def doDepositDexShare (s : State AccountId L) (who : AccountId) (lpCurrencyId : CurrencyId) (amount : Nat) :
    Except DispatchError (State AccountId L) := do
  ensure lpCurrencyId.isDexShareCurrencyId (.module .invalidCurrencyId)
  let ledger ← okOr (T.transfer lpCurrencyId who T.accountId amount s.ledger) .external
  -- the result of `add_share` is dropped
  pure ⟨ledger, (Rewards.addShare T.rewards s.rewards who (.liquidityRewards lpCurrencyId) amount).2⟩

/-- `do_withdraw_dex_share`. -/
def doWithdrawDexShare (s : State AccountId L) (who : AccountId) (lpCurrencyId : CurrencyId) (amount : Nat) :
    Except DispatchError (State AccountId L) := do
  ensure lpCurrencyId.isDexShareCurrencyId (.module .invalidCurrencyId)
  ensure (decide (amount ≤ ((s.rewards.view (.liquidityRewards lpCurrencyId)).share who))) (.module .notEnough)
  let ledger ← okOr (T.transfer lpCurrencyId T.accountId who amount s.ledger) .external
  -- the result of `remove_share` is dropped
  pure ⟨ledger, (Rewards.removeShare T.rewards s.rewards who (.liquidityRewards lpCurrencyId) amount).2⟩

/-- The staking calls of a signed account. -/
inductive Call (AccountId : Type) where
  | depositDexShare (who : AccountId) (lpCurrencyId : CurrencyId) (amount : Fin (2 ^ 128))
  | withdrawDexShare (who : AccountId) (lpCurrencyId : CurrencyId) (amount : Fin (2 ^ 128))

/-- One call; a failed call is rolled back by its extrinsic. -/
def dispatch (s : State AccountId L) : Call AccountId → Except DispatchError (State AccountId L)
  | .depositDexShare who lpCurrencyId amount => doDepositDexShare T s who lpCurrencyId amount
  | .withdrawDexShare who lpCurrencyId amount => doWithdrawDexShare T s who lpCurrencyId amount

/-- The pallet over a ledger that starts as `ledger` and a rewards pallet with no pool. -/
def system (ledger : L) : Transition.System (State AccountId L) (Call AccountId) where
  init s := s = ⟨ledger, Rewards.State.empty⟩
  step s call := (dispatch T s call).toOption

variable {T}

/-- A withdrawal whose checks and transfer pass succeeds even when
`remove_share` fails: the LP tokens have left the pallet's account and the
staker keeps every share, with its rewards claimed. -/
theorem doWithdrawDexShare_of_removeShare_error {s : State AccountId L} {who : AccountId}
    {lpCurrencyId : CurrencyId} {amount : Nat} {ledger : L} {e : Rewards.Error}
    (hlp : lpCurrencyId.isDexShareCurrencyId = true)
    (hshare : amount ≤ (s.rewards.view (.liquidityRewards lpCurrencyId)).share who)
    (htransfer : T.transfer lpCurrencyId T.accountId who amount s.ledger = some ledger)
    (herror : (Rewards.removeShare T.rewards s.rewards who (.liquidityRewards lpCurrencyId) amount).1 = .error e) :
    ∃ rewards, doWithdrawDexShare T s who lpCurrencyId amount = .ok ⟨ledger, rewards⟩ ∧
      (rewards.view (.liquidityRewards lpCurrencyId)).totalShares =
        (s.rewards.view (.liquidityRewards lpCurrencyId)).totalShares ∧
      ∀ who', (rewards.view (.liquidityRewards lpCurrencyId)).share who' =
        (s.rewards.view (.liquidityRewards lpCurrencyId)).share who' := by
  have hstate := Rewards.removeShare_of_error T.rewards s.rewards who _ amount herror
  refine ⟨_, ?_, hstate ▸ Rewards.shares_claimRewards s.rewards who _⟩
  simp [doWithdrawDexShare, ensure, okOr, hlp, hshare, htransfer]

namespace Reference

inductive Account where
  | alice
  | bob
  | incentives
  deriving DecidableEq, Repr

/-- Every currency has an existential deposit of one, and dust is burnt. -/
def tokensConfig : Tokens.Config Account CurrencyId where
  existentialDeposits _ := 1
  dustRemovalWhitelist _ := false
  maxLocks := 50
  onDust := .burnDust
  canDecProvider _ := true

abbrev Ledger := Tokens.State Account CurrencyId Nat

/-- The LP token of the SEU-SEUSD pair. -/
def lp : CurrencyId := .dexShare (.token .SEU) (.token .SEUSD)

/-- The tokens pallet as `T::Currency`, and a minimum of ten shares in every pool. -/
def incentivesConfig : Config Account Ledger where
  accountId := .incentives
  transfer c src dst amount l :=
    (Tokens.doTransfer tokensConfig (Tokens.onDust tokensConfig 1) c src dst amount .allowDeath l).toOption
  rewards := ⟨fun _ => 10⟩

/-- Alice and Bob hold 15 LP tokens each. -/
def genesisLedger : Ledger :=
  ((⟨[(.alice, lp, 15), (.bob, lp, 15)]⟩ : Tokens.GenesisConfig Account CurrencyId).build tokensConfig
    (Tokens.onDust tokensConfig 1) Tokens.State.empty).getD Tokens.State.empty

/-- Alice and Bob stake all their LP tokens, then Alice takes 10 of them back,
which would leave her 5 shares, under the minimum. -/
def stakingRun : Except DispatchError (State Account Ledger) := do
  let s ← doDepositDexShare incentivesConfig ⟨genesisLedger, Rewards.State.empty⟩ .alice lp 15
  let s ← doDepositDexShare incentivesConfig s .bob lp 15
  doWithdrawDexShare incentivesConfig s .alice lp 10

end Reference

open Reference in
/-- Every call of the run succeeds, and the pallet's account is left with 20
LP tokens for a pool of 30 shares: Alice can withdraw her 15 shares again. -/
theorem doWithdrawDexShare_leaves_shares_uncovered :
    (stakingRun.toOption.map fun s =>
      ((s.ledger.account .incentives lp).free, (s.rewards.view (.liquidityRewards lp)).totalShares)) =
      some (20, 30) := by
  decide

end Setheum.Incentives
