import Setheum.Lib.System
import Setheum.Primitives.Arithmetic

/-!
# The rewards pallet

`orml_rewards` as Setheum's pallets drive it. `PoolInfos` holds, for each
pool, its total shares and, per reward currency, the total reward and the
total withdrawn reward; `SharesAndWithdrawnRewards` holds each account's
shares in a pool and the rewards counted as withdrawn by it, those it claimed
and those it was charged on joining (the inflation of `add_share`).

The functions are called by other pallets and are not transactional: each
returns its result together with the storage it leaves, which keeps what it
wrote before an error (`remove_share` claims first). Their loops over a
`BTreeMap` change one currency's entries at a time, so they are written
pointwise over currencies. The state also keeps, per pool and currency, what
was passed to `Handler::payout` and what `accumulate_reward` added.
-/

namespace Setheum.Rewards

/-- `Error` of the pallet. -/
inductive Error where
  | poolDoesNotExist
  | shareDoesNotExist
  | canSplitOnlyLessThanShare
  | shareBelowMinimal
  deriving DecidableEq, Repr

/-- `PoolInfo`: the total shares and, per reward currency, the total reward
and the total withdrawn reward. -/
structure PoolInfo (CurrencyId : Type) where
  totalShares : Nat
  rewards : CurrencyId → Option (Nat × Nat)

/-- The default `PoolInfo` of the `ValueQuery`: no shares, no rewards. -/
instance {CurrencyId : Type} : Inhabited (PoolInfo CurrencyId) := ⟨⟨0, fun _ => none⟩⟩

/-- The storage, with the totals passed to `Handler::payout` and added by
`accumulate_reward`. -/
structure State (PoolId AccountId CurrencyId : Type) where
  poolInfos : PoolId → Option (PoolInfo CurrencyId)
  sharesAndWithdrawnRewards : PoolId → AccountId → Option (Nat × (CurrencyId → Option Nat))
  paid : PoolId → CurrencyId → Nat
  accumulated : PoolId → CurrencyId → Nat

/-- `Config`: the `MinimalShares` of each pool. -/
structure Config (PoolId : Type) where
  minimalShares : PoolId → Nat

variable {PoolId AccountId CurrencyId : Type} [DecidableEq PoolId]

namespace State

/-- The storage before any call. -/
def empty : State PoolId AccountId CurrencyId := ⟨fun _ => none, fun _ _ => none, fun _ _ => 0, fun _ _ => 0⟩

def setPoolInfo (s : State PoolId AccountId CurrencyId) (pool : PoolId)
    (poolInfo : Option (PoolInfo CurrencyId)) : State PoolId AccountId CurrencyId :=
  { s with poolInfos := Function.update s.poolInfos pool poolInfo }

def setShares [DecidableEq AccountId] (s : State PoolId AccountId CurrencyId) (pool : PoolId) (who : AccountId)
    (entry : Option (Nat × (CurrencyId → Option Nat))) : State PoolId AccountId CurrencyId :=
  let entries := Function.update (s.sharesAndWithdrawnRewards pool) who entry
  { s with sharesAndWithdrawnRewards := Function.update s.sharesAndWithdrawnRewards pool entries }

/-- `Handler::payout` of `reward` of each currency from `pool`. -/
def payout (s : State PoolId AccountId CurrencyId) (pool : PoolId) (reward : CurrencyId → Nat) :
    State PoolId AccountId CurrencyId :=
  { s with paid := Function.update s.paid pool (fun c => s.paid pool c + reward c) }

def accumulate [DecidableEq CurrencyId] (s : State PoolId AccountId CurrencyId) (pool : PoolId) (rewardCurrency : CurrencyId)
    (amount : Nat) : State PoolId AccountId CurrencyId :=
  let accumulated := Function.update (s.accumulated pool) rewardCurrency
    (s.accumulated pool rewardCurrency + amount)
  { s with accumulated := Function.update s.accumulated pool accumulated }

variable (s : State PoolId AccountId CurrencyId) (pool : PoolId)

@[simp] theorem setPoolInfo_poolInfos (poolInfo : Option (PoolInfo CurrencyId)) :
    (s.setPoolInfo pool poolInfo).poolInfos = Function.update s.poolInfos pool poolInfo := rfl
@[simp] theorem setPoolInfo_sharesAndWithdrawnRewards (poolInfo : Option (PoolInfo CurrencyId)) :
    (s.setPoolInfo pool poolInfo).sharesAndWithdrawnRewards = s.sharesAndWithdrawnRewards := rfl
@[simp] theorem setPoolInfo_paid (poolInfo : Option (PoolInfo CurrencyId)) :
    (s.setPoolInfo pool poolInfo).paid = s.paid := rfl
@[simp] theorem setPoolInfo_accumulated (poolInfo : Option (PoolInfo CurrencyId)) :
    (s.setPoolInfo pool poolInfo).accumulated = s.accumulated := rfl

@[simp] theorem setShares_poolInfos [DecidableEq AccountId] (who : AccountId) (entry : Option (Nat × (CurrencyId → Option Nat))) :
    (s.setShares pool who entry).poolInfos = s.poolInfos := rfl
@[simp] theorem setShares_sharesAndWithdrawnRewards [DecidableEq AccountId] (who : AccountId)
    (entry : Option (Nat × (CurrencyId → Option Nat))) :
    (s.setShares pool who entry).sharesAndWithdrawnRewards = Function.update s.sharesAndWithdrawnRewards pool
      (Function.update (s.sharesAndWithdrawnRewards pool) who entry) := rfl
@[simp] theorem setShares_paid [DecidableEq AccountId] (who : AccountId) (entry : Option (Nat × (CurrencyId → Option Nat))) :
    (s.setShares pool who entry).paid = s.paid := rfl
@[simp] theorem setShares_accumulated [DecidableEq AccountId] (who : AccountId) (entry : Option (Nat × (CurrencyId → Option Nat))) :
    (s.setShares pool who entry).accumulated = s.accumulated := rfl

@[simp] theorem payout_poolInfos (reward : CurrencyId → Nat) : (s.payout pool reward).poolInfos = s.poolInfos := rfl
@[simp] theorem payout_sharesAndWithdrawnRewards (reward : CurrencyId → Nat) :
    (s.payout pool reward).sharesAndWithdrawnRewards = s.sharesAndWithdrawnRewards := rfl
@[simp] theorem payout_paid (reward : CurrencyId → Nat) :
    (s.payout pool reward).paid = Function.update s.paid pool (fun c => s.paid pool c + reward c) := rfl
@[simp] theorem payout_accumulated (reward : CurrencyId → Nat) :
    (s.payout pool reward).accumulated = s.accumulated := rfl

@[simp] theorem accumulate_poolInfos [DecidableEq CurrencyId] (c : CurrencyId) (amount : Nat) :
    (s.accumulate pool c amount).poolInfos = s.poolInfos := rfl
@[simp] theorem accumulate_sharesAndWithdrawnRewards [DecidableEq CurrencyId] (c : CurrencyId) (amount : Nat) :
    (s.accumulate pool c amount).sharesAndWithdrawnRewards = s.sharesAndWithdrawnRewards := rfl
@[simp] theorem accumulate_paid [DecidableEq CurrencyId] (c : CurrencyId) (amount : Nat) : (s.accumulate pool c amount).paid = s.paid := rfl
@[simp] theorem accumulate_accumulated [DecidableEq CurrencyId] (c : CurrencyId) (amount : Nat) :
    (s.accumulate pool c amount).accumulated = Function.update s.accumulated pool
      (Function.update (s.accumulated pool) c (s.accumulated pool c + amount)) := rfl

end State

variable [DecidableEq AccountId] [DecidableEq CurrencyId] (T : Config PoolId)

/-! ## The functions -/

/-- `accumulate_reward`. -/
def accumulateReward (s : State PoolId AccountId CurrencyId) (pool : PoolId) (rewardCurrency : CurrencyId)
    (rewardIncrement : Nat) : Except Error Unit × State PoolId AccountId CurrencyId :=
  if rewardIncrement = 0 then (.ok (), s)
  else
    match s.poolInfos pool with
    | none => (.error .poolDoesNotExist, s)
    | some poolInfo =>
        let reward := match poolInfo.rewards rewardCurrency with
          | some (totalReward, totalWithdrawnReward) =>
              (Balance.saturatingAdd totalReward rewardIncrement, totalWithdrawnReward)
          | none => (rewardIncrement, 0)
        let s := s.setPoolInfo pool
          (some { poolInfo with rewards := Function.update poolInfo.rewards rewardCurrency (some reward) })
        (.ok (), s.accumulate pool rewardCurrency rewardIncrement)

/-- The reward `add_share` charges a new share of `addAmount` in one currency,
as if withdrawn: its part of the total reward. -/
def rewardInflation (addAmount totalReward initialTotalShares : Nat) : Nat :=
  if initialTotalShares = 0 then 0
  else U256.saturatedInto
    ((U256.checkedDiv (U256.saturatingMul addAmount totalReward) initialTotalShares).getD 0)

/-- `add_share`. -/
def addShare (s : State PoolId AccountId CurrencyId) (who : AccountId) (pool : PoolId) (addAmount : Nat) :
    Except Error Unit × State PoolId AccountId CurrencyId :=
  if addAmount = 0 then (.ok (), s)
  else
    let poolInfo := (s.poolInfos pool).getD default
    let initialTotalShares := poolInfo.totalShares
    let inflation c := (poolInfo.rewards c).map fun reward =>
      rewardInflation addAmount reward.1 initialTotalShares
    let rewards c := (poolInfo.rewards c).map fun (totalReward, totalWithdrawnReward) =>
      let rewardInflation := rewardInflation addAmount totalReward initialTotalShares
      (Balance.saturatingAdd totalReward rewardInflation,
        Balance.saturatingAdd totalWithdrawnReward rewardInflation)
    let (share, withdrawnRewards) := (s.sharesAndWithdrawnRewards pool who).getD (0, fun _ => none)
    let share := Balance.saturatingAdd share addAmount
    if share < T.minimalShares pool then (.error .shareBelowMinimal, s)
    else
      -- update withdrawn inflation for each reward currency
      let withdrawnRewards c := match inflation c, withdrawnRewards c with
        | some rewardInflation, some withdrawnReward =>
            some (Balance.saturatingAdd withdrawnReward rewardInflation)
        | some rewardInflation, none => some rewardInflation
        | none, withdrawnReward => withdrawnReward
      let s := s.setPoolInfo pool (some ⟨Balance.saturatingAdd initialTotalShares addAmount, rewards⟩)
      (.ok (), s.setShares pool who (some (share, withdrawnRewards)))

/-- `reward_to_withdraw`. Its `as_u128` panics above `u128::MAX`, which the
quotient does not reach while a share is at most the pool's total; it is
taken as saturating. -/
def rewardToWithdraw (share totalReward totalShares withdrawnReward totalWithdrawnReward : Nat) : Nat :=
  let totalRewardProportion := U256.saturatedInto
    ((U256.checkedDiv (U256.saturatingMul share totalReward) totalShares).getD 0)
  min (totalRewardProportion - withdrawnReward) (totalReward - totalWithdrawnReward)

/-- `claim_one` for each reward currency that `claimed` selects, of an account
with `share` and `withdrawnRewards` in a pool of `poolInfo`: the reward paid
in each currency, the pool's new rewards and the account's new withdrawn
rewards. -/
def claimIn (claimed : CurrencyId → Bool) (share : Nat) (withdrawnRewards : CurrencyId → Option Nat)
    (poolInfo : PoolInfo CurrencyId) :
    (CurrencyId → Nat) × (CurrencyId → Option (Nat × Nat)) × (CurrencyId → Option Nat) :=
  let reward c := match claimed c, poolInfo.rewards c with
    | true, some (totalReward, totalWithdrawnReward) =>
        rewardToWithdraw share totalReward poolInfo.totalShares ((withdrawnRewards c).getD 0)
          totalWithdrawnReward
    | _, _ => 0
  (reward,
    fun c => (poolInfo.rewards c).map fun (totalReward, totalWithdrawnReward) =>
      (totalReward, if reward c ≠ 0 then Balance.saturatingAdd totalWithdrawnReward (reward c)
        else totalWithdrawnReward),
    fun c => if reward c ≠ 0 then some (Balance.saturatingAdd ((withdrawnRewards c).getD 0) (reward c))
      else withdrawnRewards c)

/-- `claim_rewards`: every reward currency of the pool. -/
def claimRewards (s : State PoolId AccountId CurrencyId) (who : AccountId) (pool : PoolId) :
    State PoolId AccountId CurrencyId :=
  match s.sharesAndWithdrawnRewards pool who with
  | none => s
  | some (share, withdrawnRewards) =>
      if share = 0 then s
      else
        match s.poolInfos pool with
        | none => s
        | some poolInfo =>
            let (reward, rewards, withdrawnRewards) := claimIn (fun _ => true) share withdrawnRewards poolInfo
            ((s.setPoolInfo pool (some { poolInfo with rewards })).setShares pool who
              (some (share, withdrawnRewards))).payout pool reward

/-- `claim_reward`: one reward currency. `PoolInfos::mutate` stores the
default pool where there is none. -/
def claimReward (s : State PoolId AccountId CurrencyId) (who : AccountId) (pool : PoolId)
    (rewardCurrency : CurrencyId) : State PoolId AccountId CurrencyId :=
  match s.sharesAndWithdrawnRewards pool who with
  | none => s
  | some (share, withdrawnRewards) =>
      if share = 0 then s
      else
        let poolInfo := (s.poolInfos pool).getD default
        let (reward, rewards, withdrawnRewards) :=
          claimIn (fun c => decide (c = rewardCurrency)) share withdrawnRewards poolInfo
        ((s.setPoolInfo pool (some { poolInfo with rewards })).setShares pool who
          (some (share, withdrawnRewards))).payout pool reward

/-- The withdrawn reward `remove_share` takes back with `removeAmount` of an
account's `oldShare`. -/
def withdrawnRewardToRemove (removeAmount withdrawnReward oldShare : Nat) : Nat :=
  U256.saturatedInto ((U256.checkedDiv (U256.saturatingMul removeAmount withdrawnReward) oldShare).getD 0)

/-- The pool and the account's withdrawn rewards after `remove_share` takes
`removeAmount` of `oldShare`: each withdrawn reward loses its part, from the
account and from the pool's totals, and a currency whose total reward falls
to zero is dropped, as is a pool left without shares. -/
def removeFromPool (removeAmount oldShare : Nat) (withdrawnRewards : CurrencyId → Option Nat)
    (poolInfo : PoolInfo CurrencyId) : Option (PoolInfo CurrencyId) × (CurrencyId → Option Nat) :=
  let toRemove c := (withdrawnRewards c).map fun withdrawnReward =>
    withdrawnRewardToRemove removeAmount withdrawnReward oldShare
  let rewards c := match toRemove c, poolInfo.rewards c with
    | some x, some (totalReward, totalWithdrawnReward) =>
        -- remove if all reward is withdrawn
        if totalReward - x = 0 then none else some (totalReward - x, totalWithdrawnReward - x)
    | _, reward => reward
  let totalShares := poolInfo.totalShares - removeAmount
  (if totalShares ≠ 0 then some ⟨totalShares, rewards⟩ else none,
    fun c => (withdrawnRewards c).map fun withdrawnReward =>
      withdrawnReward - withdrawnRewardToRemove removeAmount withdrawnReward oldShare)

/-- `remove_share`, after `claim_rewards`. Its entry is taken out first, so a
removal of nothing deletes it. -/
def removeShare (s : State PoolId AccountId CurrencyId) (who : AccountId) (pool : PoolId)
    (removeAmount : Nat) : Except Error Unit × State PoolId AccountId CurrencyId :=
  if removeAmount = 0 then (.ok (), s)
  else
    -- claim rewards firstly
    let s := claimRewards s who pool
    match s.sharesAndWithdrawnRewards pool who with
    | none => (.ok (), s)
    | some (share, withdrawnRewards) =>
        let removeAmount := min removeAmount share
        if removeAmount = 0 then (.ok (), s.setShares pool who none)
        else
          let oldShare := share
          let share := share - removeAmount
          if share ≠ 0 ∧ share < T.minimalShares pool then (.error .shareBelowMinimal, s)
          else
            let (poolInfo, withdrawnRewards) := match s.poolInfos pool with
              | none => (none, withdrawnRewards)
              | some poolInfo => removeFromPool removeAmount oldShare withdrawnRewards poolInfo
            let s := s.setPoolInfo pool poolInfo
            (.ok (), s.setShares pool who (if share ≠ 0 then some (share, withdrawnRewards) else none))

/-- `set_share`. -/
def setShare (s : State PoolId AccountId CurrencyId) (who : AccountId) (pool : PoolId) (newShare : Nat) :
    Except Error Unit × State PoolId AccountId CurrencyId :=
  let share := ((s.sharesAndWithdrawnRewards pool who).map Prod.fst).getD 0
  if newShare > share then addShare T s who pool (newShare - share)
  else removeShare T s who pool (share - newShare)

/-- The withdrawn rewards `transfer_share_and_rewards` moves with `moveShare`
of `share`: each balance's part, where it fits in a `u128`. -/
def moveBalance (moveShare share : Nat) (rewards : CurrencyId → Option Nat) (c : CurrencyId) : Option Nat :=
  (rewards c).bind fun balance =>
    let moveBalance := balance * moveShare / share
    if moveBalance < 2 ^ 128 then some moveBalance else none

/-- `transfer_share_and_rewards`. -/
def transferShareAndRewards (s : State PoolId AccountId CurrencyId) (who : AccountId) (pool : PoolId)
    (moveShare : Nat) (other : AccountId) : Except Error Unit × State PoolId AccountId CurrencyId :=
  if moveShare = 0 then (.ok (), s)
  else
    let (increasedShare, increasedRewards) := (s.sharesAndWithdrawnRewards pool other).getD (0, fun _ => none)
    match s.sharesAndWithdrawnRewards pool who with
    | none => (.error .shareDoesNotExist, s)
    | some (share, rewards) =>
        if ¬moveShare < share then (.error .canSplitOnlyLessThanShare, s)
        -- self transfer is noop
        else if who = other then (.ok (), s)
        else
          let moved := moveBalance moveShare share rewards
          let rewards c := match rewards c, moved c with
            | some balance, some m => some (balance - m)
            | balance, _ => balance
          let increasedRewards c := match moved c, increasedRewards c with
            | some m, some increasedReward => some (Balance.saturatingAdd increasedReward m)
            | some m, none => some m
            | none, increasedReward => increasedReward
          let share := share - moveShare
          let increasedShare := Balance.saturatingAdd increasedShare moveShare
          if ¬(share ≥ T.minimalShares pool ∨ share = 0) then (.error .shareBelowMinimal, s)
          else if increasedShare < T.minimalShares pool then (.error .shareBelowMinimal, s)
          else
            (.ok (), (s.setShares pool who (some (share, rewards))).setShares pool other
              (some (increasedShare, increasedRewards)))

/-! ## The pallet as a system -/

/-- The calls other pallets make, with their `u128` amounts. -/
inductive Call (PoolId AccountId CurrencyId : Type) where
  | accumulateReward (pool : PoolId) (rewardCurrency : CurrencyId) (rewardIncrement : Fin (2 ^ 128))
  | addShare (who : AccountId) (pool : PoolId) (addAmount : Fin (2 ^ 128))
  | removeShare (who : AccountId) (pool : PoolId) (removeAmount : Fin (2 ^ 128))
  | setShare (who : AccountId) (pool : PoolId) (newShare : Fin (2 ^ 128))
  | claimRewards (who : AccountId) (pool : PoolId)
  | claimReward (who : AccountId) (pool : PoolId) (rewardCurrency : CurrencyId)
  | transferShareAndRewards (who : AccountId) (pool : PoolId) (moveShare : Fin (2 ^ 128)) (other : AccountId)

/-- One call: its result and the storage it leaves. -/
def dispatch (s : State PoolId AccountId CurrencyId) :
    Call PoolId AccountId CurrencyId → Except Error Unit × State PoolId AccountId CurrencyId
  | .accumulateReward pool rewardCurrency rewardIncrement =>
      accumulateReward s pool rewardCurrency rewardIncrement
  | .addShare who pool addAmount => addShare T s who pool addAmount
  | .removeShare who pool removeAmount => removeShare T s who pool removeAmount
  | .setShare who pool newShare => setShare T s who pool newShare
  | .claimRewards who pool => (.ok (), claimRewards s who pool)
  | .claimReward who pool rewardCurrency => (.ok (), claimReward s who pool rewardCurrency)
  | .transferShareAndRewards who pool moveShare other =>
      transferShareAndRewards T s who pool moveShare other

/-- The pallet from empty storage. Its callers may ignore an error, so a call
leaves its storage whatever its result. -/
def system : Transition.System (State PoolId AccountId CurrencyId) (Call PoolId AccountId CurrencyId) where
  init s := s = State.empty
  step s call := some (dispatch T s call).2

end Setheum.Rewards
