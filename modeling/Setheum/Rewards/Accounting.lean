import Setheum.Rewards.Pallet
import Setheum.Lib.FinSum

/-!
# What the rewards pallet accounts for

Each function of the pallet reads and writes one pool. Per pool, the pallet
keeps two invariants. `Covered`: no currency has more withdrawn than
rewarded, and what was passed to `Handler::payout` together with what is
still owed is at most what `accumulate_reward` added; every run keeps it.
`Balanced`: the pool's total shares and each currency's total withdrawn
reward are the sums of the accounts' entries; a run keeps it as long as those
sums fit in a `u128`, since `add_share` saturates its additions.
-/

namespace Setheum.Rewards

variable {PoolId AccountId CurrencyId : Type}

/-! ## One pool's storage -/

/-- The storage of one pool, with what was paid from it and accumulated in it. -/
structure PoolView (AccountId CurrencyId : Type) where
  poolInfo : Option (PoolInfo CurrencyId)
  entries : AccountId → Option (Nat × (CurrencyId → Option Nat))
  paid : CurrencyId → Nat
  accumulated : CurrencyId → Nat

def State.view (s : State PoolId AccountId CurrencyId) (pool : PoolId) : PoolView AccountId CurrencyId :=
  ⟨s.poolInfos pool, s.sharesAndWithdrawnRewards pool, s.paid pool, s.accumulated pool⟩

namespace PoolView

variable (v : PoolView AccountId CurrencyId)

def totalShares : Nat := (v.poolInfo.map PoolInfo.totalShares).getD 0

/-- A currency's total reward and total withdrawn reward. -/
def reward (c : CurrencyId) : Option (Nat × Nat) := v.poolInfo.bind fun info => info.rewards c

def totalWithdrawn (c : CurrencyId) : Nat := ((v.reward c).map Prod.snd).getD 0

/-- What is rewarded in a currency and not yet withdrawn. -/
def residual (c : CurrencyId) : Nat := ((v.reward c).map fun r => r.1 - r.2).getD 0

/-- An account's shares, zero without an entry. -/
def share (who : AccountId) : Nat := ((v.entries who).map Prod.fst).getD 0

/-- An account's withdrawn reward of a currency. -/
def withdrawn (c : CurrencyId) (who : AccountId) : Nat := ((v.entries who).bind fun e => e.2 c).getD 0

theorem totalShares_eq_getD : v.totalShares = (v.poolInfo.getD default).totalShares := by
  unfold totalShares
  cases v.poolInfo <;> rfl

theorem reward_eq_getD (c : CurrencyId) : v.reward c = (v.poolInfo.getD default).rewards c := by
  unfold reward
  cases v.poolInfo <;> rfl

end PoolView

/-! ## What every call keeps -/

/-- The invariant of a pool that every call keeps: no currency has more
withdrawn than rewarded and its total reward fits in a `u128`; what was paid
out together with what is still owed is at most what was accumulated; the
total shares fit in a `u128`; and every stored entry has shares. -/
structure Covered (v : PoolView AccountId CurrencyId) : Prop where
  reward_le : ∀ c tr tw, v.reward c = some (tr, tw) → tw ≤ tr ∧ tr < 2 ^ 128
  paid_le : ∀ c, v.paid c + v.residual c ≤ v.accumulated c
  totalShares_lt : v.totalShares < 2 ^ 128
  positive : ∀ who e, v.entries who = some e → 0 < e.1

theorem Covered.of_entries {v v' : PoolView AccountId CurrencyId} (h : Covered v) (hinfo : v'.poolInfo = v.poolInfo)
    (hpaid : v'.paid = v.paid) (hacc : v'.accumulated = v.accumulated)
    (hpos : ∀ who e, v'.entries who = some e → 0 < e.1) : Covered v' where
  reward_le c := by
    unfold PoolView.reward
    rw [hinfo]
    exact h.reward_le c
  paid_le c := by
    unfold PoolView.residual PoolView.reward
    rw [hinfo, hpaid, hacc]
    exact h.paid_le c
  totalShares_lt := by
    unfold PoolView.totalShares
    rw [hinfo]
    exact h.totalShares_lt
  positive := hpos

theorem covered_empty (pool : PoolId) : Covered ((State.empty : State PoolId AccountId CurrencyId).view pool) where
  reward_le _ _ _ h := nomatch h
  paid_le _ := Nat.le_refl _
  totalShares_lt := Nat.two_pow_pos 128
  positive _ _ h := nomatch h

namespace State

variable [DecidableEq PoolId] (s : State PoolId AccountId CurrencyId) {p q : PoolId}

@[simp] theorem view_setPoolInfo_self (poolInfo : Option (PoolInfo CurrencyId)) :
    (s.setPoolInfo p poolInfo).view p = { s.view p with poolInfo } := by
  simp [view]

theorem view_setPoolInfo_of_ne (h : p ≠ q) (poolInfo : Option (PoolInfo CurrencyId)) :
    (s.setPoolInfo q poolInfo).view p = s.view p := by
  simp [view, Function.update_of_ne h]

@[simp] theorem view_setShares_self [DecidableEq AccountId] (who : AccountId) (entry : Option (Nat × (CurrencyId → Option Nat))) :
    (s.setShares p who entry).view p = { s.view p with entries := Function.update (s.view p).entries who entry } := by
  simp [view]

theorem view_setShares_of_ne [DecidableEq AccountId] (h : p ≠ q) (who : AccountId) (entry : Option (Nat × (CurrencyId → Option Nat))) :
    (s.setShares q who entry).view p = s.view p := by
  simp [view, Function.update_of_ne h]

@[simp] theorem view_payout_self (reward : CurrencyId → Nat) :
    (s.payout p reward).view p = { s.view p with paid := fun c => (s.view p).paid c + reward c } := by
  simp [view]

theorem view_payout_of_ne (h : p ≠ q) (reward : CurrencyId → Nat) : (s.payout q reward).view p = s.view p := by
  simp [view, Function.update_of_ne h]

@[simp] theorem view_accumulate_self [DecidableEq CurrencyId] (c : CurrencyId) (amount : Nat) :
    (s.accumulate p c amount).view p =
      { s.view p with accumulated := Function.update (s.view p).accumulated c ((s.view p).accumulated c + amount) } := by
  simp [view]

theorem view_accumulate_of_ne [DecidableEq CurrencyId] (h : p ≠ q) (c : CurrencyId) (amount : Nat) :
    (s.accumulate q c amount).view p = s.view p := by
  simp [view, Function.update_of_ne h]

end State

/-! ## Each call writes one pool -/

section Frame

variable [DecidableEq PoolId] [DecidableEq AccountId] (T : Config PoolId)
  (s : State PoolId AccountId CurrencyId) {p pool : PoolId}

omit [DecidableEq AccountId] in
theorem view_accumulateReward_of_ne [DecidableEq CurrencyId] (hp : p ≠ pool) (rewardCurrency : CurrencyId) (rewardIncrement : Nat) :
    (accumulateReward s pool rewardCurrency rewardIncrement).2.view p = s.view p := by
  unfold accumulateReward
  split_ifs
  · rfl
  · split
    · rfl
    · simp [State.view_accumulate_of_ne _ hp, State.view_setPoolInfo_of_ne _ hp]

theorem view_addShare_of_ne (hp : p ≠ pool) (who : AccountId) (addAmount : Nat) :
    (addShare T s who pool addAmount).2.view p = s.view p := by
  unfold addShare
  split_ifs
  · rfl
  · split
    dsimp only
    split_ifs
    · rfl
    · simp [State.view_setShares_of_ne _ hp, State.view_setPoolInfo_of_ne _ hp]

theorem view_claimRewards_of_ne (hp : p ≠ pool) (who : AccountId) :
    (claimRewards s who pool).view p = s.view p := by
  unfold claimRewards
  split
  · rfl
  · split_ifs
    · rfl
    · split
      · rfl
      · simp [State.view_payout_of_ne _ hp, State.view_setShares_of_ne _ hp, State.view_setPoolInfo_of_ne _ hp]

theorem view_claimReward_of_ne [DecidableEq CurrencyId] (hp : p ≠ pool) (who : AccountId)
    (rewardCurrency : CurrencyId) : (claimReward s who pool rewardCurrency).view p = s.view p := by
  unfold claimReward
  split
  · rfl
  · split_ifs
    · rfl
    · simp [State.view_payout_of_ne _ hp, State.view_setShares_of_ne _ hp, State.view_setPoolInfo_of_ne _ hp]

theorem view_removeShare_of_ne (hp : p ≠ pool) (who : AccountId) (removeAmount : Nat) :
    (removeShare T s who pool removeAmount).2.view p = s.view p := by
  unfold removeShare
  split_ifs
  · rfl
  · -- every write after the claim is to `pool`
    rw [← view_claimRewards_of_ne s hp who]
    dsimp only
    split
    · rfl
    · split_ifs <;> simp [State.view_setShares_of_ne _ hp, State.view_setPoolInfo_of_ne _ hp]

theorem view_setShare_of_ne (hp : p ≠ pool) (who : AccountId) (newShare : Nat) :
    (setShare T s who pool newShare).2.view p = s.view p := by
  unfold setShare
  dsimp only
  split_ifs
  · exact view_addShare_of_ne T s hp who _
  · exact view_removeShare_of_ne T s hp who _

theorem view_transferShareAndRewards_of_ne (hp : p ≠ pool) (who : AccountId) (moveShare : Nat)
    (other : AccountId) : (transferShareAndRewards T s who pool moveShare other).2.view p = s.view p := by
  unfold transferShareAndRewards
  split_ifs with h0 hself
  · rfl
  · split
    split
    · rfl
    · split_ifs <;> rfl
  · split
    split
    · rfl
    · dsimp only
      split_ifs <;> simp [State.view_setShares_of_ne _ hp]

end Frame

/-! ## Claims -/

theorem addClaimed_eq {x r : Nat} (h : x + r < 2 ^ 128) :
    (if r ≠ 0 then Balance.saturatingAdd x r else x) = x + r := by
  split_ifs with hr
  · exact Balance.saturatingAdd_eq h
  · omega

section Claim

variable (claimed : CurrencyId → Bool) (share : Nat) (withdrawnRewards : CurrencyId → Option Nat)
  (poolInfo : PoolInfo CurrencyId) {c : CurrencyId}

theorem claimIn_reward_le {totalReward totalWithdrawnReward : Nat}
    (hc : poolInfo.rewards c = some (totalReward, totalWithdrawnReward)) :
    (claimIn claimed share withdrawnRewards poolInfo).1 c ≤ totalReward - totalWithdrawnReward := by
  simp only [claimIn, hc]
  cases claimed c
  · exact Nat.zero_le _
  · exact Nat.min_le_right _ _

theorem claimIn_reward_of_none (hc : poolInfo.rewards c = none) :
    (claimIn claimed share withdrawnRewards poolInfo).1 c = 0 := by
  simp only [claimIn, hc]
  cases claimed c <;> rfl

theorem claimIn_rewards_of_some {totalReward totalWithdrawnReward : Nat}
    (hc : poolInfo.rewards c = some (totalReward, totalWithdrawnReward))
    (hle : totalWithdrawnReward ≤ totalReward) (hlt : totalReward < 2 ^ 128) :
    (claimIn claimed share withdrawnRewards poolInfo).2.1 c =
      some (totalReward, totalWithdrawnReward + (claimIn claimed share withdrawnRewards poolInfo).1 c) := by
  have hr := claimIn_reward_le claimed share withdrawnRewards poolInfo hc
  have e := addClaimed_eq (x := totalWithdrawnReward) (r := (claimIn claimed share withdrawnRewards poolInfo).1 c)
    (by omega)
  simp only [claimIn, hc, Option.map_some] at e ⊢
  rw [e]

theorem claimIn_rewards_of_none (hc : poolInfo.rewards c = none) :
    (claimIn claimed share withdrawnRewards poolInfo).2.1 c = none := by
  simp only [claimIn, hc, Option.map_none]

theorem claimIn_withdrawn (hlt : (withdrawnRewards c).getD 0 + (claimIn claimed share withdrawnRewards poolInfo).1 c < 2 ^ 128) :
    ((claimIn claimed share withdrawnRewards poolInfo).2.2 c).getD 0 =
      (withdrawnRewards c).getD 0 + (claimIn claimed share withdrawnRewards poolInfo).1 c := by
  rw [← addClaimed_eq hlt]
  simp only [claimIn]
  split_ifs <;> rfl

end Claim

theorem reward_of_getD {s : State PoolId AccountId CurrencyId} {pool : PoolId} {poolInfo : PoolInfo CurrencyId}
    (hinfo : (s.poolInfos pool).getD default = poolInfo) (c : CurrencyId) :
    (s.view pool).reward c = poolInfo.rewards c := by
  rw [PoolView.reward_eq_getD]
  exact congrArg (fun info => info.rewards c) hinfo

theorem totalShares_of_getD {s : State PoolId AccountId CurrencyId} {pool : PoolId} {poolInfo : PoolInfo CurrencyId}
    (hinfo : (s.poolInfos pool).getD default = poolInfo) : (s.view pool).totalShares = poolInfo.totalShares := by
  rw [PoolView.totalShares_eq_getD]
  exact congrArg PoolInfo.totalShares hinfo

section AfterClaim

variable [DecidableEq PoolId] [DecidableEq AccountId] (s : State PoolId AccountId CurrencyId) (who : AccountId)
  (pool : PoolId) (claimed : CurrencyId → Bool) {share : Nat} {withdrawnRewards : CurrencyId → Option Nat}
  {poolInfo : PoolInfo CurrencyId}

/-- The storage once `claim_one` has run, for `who` with `share` and
`withdrawnRewards` in `pool` of `poolInfo`, over the currencies `claimed`
selects: the common end of `claim_rewards` and `claim_reward`. -/
def State.afterClaim (share : Nat) (withdrawnRewards : CurrencyId → Option Nat) (poolInfo : PoolInfo CurrencyId) :
    State PoolId AccountId CurrencyId :=
  let claim := claimIn claimed share withdrawnRewards poolInfo
  ((s.setPoolInfo pool (some { poolInfo with rewards := claim.2.1 })).setShares pool who
    (some (share, claim.2.2))).payout pool claim.1

theorem claimRewards_eq :
    claimRewards s who pool = s ∨ ∃ share withdrawnRewards poolInfo,
      s.sharesAndWithdrawnRewards pool who = some (share, withdrawnRewards) ∧ s.poolInfos pool = some poolInfo ∧
        claimRewards s who pool = s.afterClaim who pool (fun _ => true) share withdrawnRewards poolInfo := by
  unfold claimRewards
  split
  · exact .inl rfl
  · rename_i share withdrawnRewards hentry
    split_ifs
    · exact .inl rfl
    · split
      · exact .inl rfl
      · rename_i poolInfo hinfo
        exact .inr ⟨share, withdrawnRewards, poolInfo, hentry, hinfo, rfl⟩

theorem claimReward_eq [DecidableEq CurrencyId] (rewardCurrency : CurrencyId) :
    claimReward s who pool rewardCurrency = s ∨ ∃ share withdrawnRewards,
      s.sharesAndWithdrawnRewards pool who = some (share, withdrawnRewards) ∧
        claimReward s who pool rewardCurrency = s.afterClaim who pool (fun c => decide (c = rewardCurrency)) share
          withdrawnRewards ((s.poolInfos pool).getD default) := by
  unfold claimReward
  split
  · exact .inl rfl
  · rename_i share withdrawnRewards hentry
    split_ifs
    · exact .inl rfl
    · exact .inr ⟨share, withdrawnRewards, hentry, rfl⟩

@[simp] theorem view_afterClaim :
    (s.afterClaim who pool claimed share withdrawnRewards poolInfo).view pool =
      { poolInfo := some { poolInfo with rewards := (claimIn claimed share withdrawnRewards poolInfo).2.1 }
        entries := Function.update (s.view pool).entries who
          (some (share, (claimIn claimed share withdrawnRewards poolInfo).2.2))
        paid := fun c => (s.view pool).paid c + (claimIn claimed share withdrawnRewards poolInfo).1 c
        accumulated := (s.view pool).accumulated } := by
  simp [State.afterClaim]

theorem shares_claimRewards :
    ((claimRewards s who pool).view pool).totalShares = (s.view pool).totalShares ∧
      ∀ who', ((claimRewards s who pool).view pool).share who' = (s.view pool).share who' := by
  rcases claimRewards_eq s who pool with e | ⟨share, withdrawnRewards, poolInfo, hentry, hinfo, e⟩
  · simp [e]
  rw [e, view_afterClaim]
  refine ⟨by simp [PoolView.totalShares, State.view, hinfo], fun who' => ?_⟩
  by_cases hw : who' = who
  · subst hw
    simp [PoolView.share, State.view, hentry]
  · simp [PoolView.share, hw]

variable {s who pool claimed}

variable (who claimed share withdrawnRewards) in
theorem afterClaim_reward (h : Covered (s.view pool)) (hinfo : (s.poolInfos pool).getD default = poolInfo)
    (c : CurrencyId) :
    ((s.view pool).reward c = none ∧
        ((s.afterClaim who pool claimed share withdrawnRewards poolInfo).view pool).reward c = none ∧
        (claimIn claimed share withdrawnRewards poolInfo).1 c = 0) ∨
      ∃ totalReward totalWithdrawnReward, (s.view pool).reward c = some (totalReward, totalWithdrawnReward) ∧
        ((s.afterClaim who pool claimed share withdrawnRewards poolInfo).view pool).reward c =
          some (totalReward, totalWithdrawnReward + (claimIn claimed share withdrawnRewards poolInfo).1 c) ∧
        totalWithdrawnReward + (claimIn claimed share withdrawnRewards poolInfo).1 c ≤ totalReward ∧
        totalReward < 2 ^ 128 := by
  rw [view_afterClaim, reward_of_getD hinfo]
  simp only [PoolView.reward, Option.bind_some]
  cases hc : poolInfo.rewards c with
  | none =>
      exact .inl ⟨rfl, claimIn_rewards_of_none claimed share withdrawnRewards poolInfo hc,
        claimIn_reward_of_none claimed share withdrawnRewards poolInfo hc⟩
  | some entry =>
      obtain ⟨totalReward, totalWithdrawnReward⟩ := entry
      obtain ⟨hle, hlt⟩ := h.reward_le c totalReward totalWithdrawnReward (by rw [reward_of_getD hinfo, hc])
      have hr := claimIn_reward_le claimed share withdrawnRewards poolInfo hc
      exact .inr ⟨totalReward, totalWithdrawnReward, rfl,
        claimIn_rewards_of_some claimed share withdrawnRewards poolInfo hc hle hlt, by omega, hlt⟩

theorem covered_afterClaim (h : Covered (s.view pool)) (hinfo : (s.poolInfos pool).getD default = poolInfo)
    (hentry : s.sharesAndWithdrawnRewards pool who = some (share, withdrawnRewards)) :
    Covered ((s.afterClaim who pool claimed share withdrawnRewards poolInfo).view pool) where
  reward_le c totalReward totalWithdrawnReward hc := by
    rcases afterClaim_reward who claimed share withdrawnRewards h hinfo c with ⟨-, hnew, -⟩ | ⟨_, _, -, hnew, hle, hlt⟩
    · rw [hnew] at hc
      cases hc
    · rw [hnew] at hc
      cases hc
      exact ⟨hle, hlt⟩
  paid_le c := by
    have hpaid := h.paid_le c
    rcases afterClaim_reward who claimed share withdrawnRewards h hinfo c with ⟨hold, hnew, hr⟩ | ⟨totalReward, totalWithdrawnReward, hold, hnew, hle, -⟩
    · simp only [PoolView.residual, hold, hnew, Option.map_none, Option.getD_none] at hpaid ⊢
      simp only [view_afterClaim, hr]
      omega
    · simp only [PoolView.residual, hold, hnew, Option.map_some, Option.getD_some] at hpaid ⊢
      simp only [view_afterClaim]
      omega
  totalShares_lt := by
    rw [view_afterClaim]
    exact (totalShares_of_getD hinfo).symm.trans_lt h.totalShares_lt
  positive who' e he := by
    simp only [view_afterClaim, Function.update_apply] at he
    split_ifs at he with hwho
    · cases he
      exact h.positive who (share, withdrawnRewards) hentry
    · exact h.positive who' e he

variable (who)

theorem covered_claimRewards (h : Covered (s.view pool)) : Covered ((claimRewards s who pool).view pool) := by
  rcases claimRewards_eq s who pool with e | ⟨share, withdrawnRewards, poolInfo, hentry, hinfo, e⟩
  · rw [e]
    exact h
  · rw [e]
    exact covered_afterClaim h (by rw [hinfo]; rfl) hentry

theorem covered_claimReward [DecidableEq CurrencyId] (h : Covered (s.view pool)) (rewardCurrency : CurrencyId) :
    Covered ((claimReward s who pool rewardCurrency).view pool) := by
  rcases claimReward_eq s who pool rewardCurrency with e | ⟨share, withdrawnRewards, hentry, e⟩
  · rw [e]
    exact h
  · rw [e]
    exact covered_afterClaim h rfl hentry

end AfterClaim

/-! ## Accumulating rewards -/

/-- The entry `accumulate_reward` writes for its currency: the total reward
grown by the increment, or a new entry with nothing withdrawn. -/
def accumulatedEntry (entry : Option (Nat × Nat)) (rewardIncrement : Nat) : Nat × Nat :=
  match entry with
  | some (totalReward, totalWithdrawnReward) => (Balance.saturatingAdd totalReward rewardIncrement, totalWithdrawnReward)
  | none => (rewardIncrement, 0)

theorem accumulatedEntry_le {entry : Option (Nat × Nat)} {rewardIncrement : Nat}
    (hentry : ∀ tr tw, entry = some (tr, tw) → tw ≤ tr ∧ tr < 2 ^ 128) (hinc : rewardIncrement < 2 ^ 128) :
    (accumulatedEntry entry rewardIncrement).2 ≤ (accumulatedEntry entry rewardIncrement).1 ∧
      (accumulatedEntry entry rewardIncrement).1 < 2 ^ 128 ∧
      (accumulatedEntry entry rewardIncrement).1 - (accumulatedEntry entry rewardIncrement).2 ≤
        (entry.map fun r => r.1 - r.2).getD 0 + rewardIncrement := by
  cases entry with
  | none => simp only [accumulatedEntry, Option.map_none, Option.getD_none]; omega
  | some e =>
      obtain ⟨totalReward, totalWithdrawnReward⟩ := e
      obtain ⟨hle, hlt⟩ := hentry totalReward totalWithdrawnReward rfl
      simp only [accumulatedEntry, Balance.saturatingAdd, Option.map_some, Option.getD_some]
      omega

section Accumulate

variable [DecidableEq PoolId] [DecidableEq CurrencyId] (s : State PoolId AccountId CurrencyId) (pool : PoolId)
  (rewardCurrency : CurrencyId) (rewardIncrement : Nat)

theorem accumulateReward_eq :
    (accumulateReward s pool rewardCurrency rewardIncrement).2 = s ∨ ∃ poolInfo, s.poolInfos pool = some poolInfo ∧
      (accumulateReward s pool rewardCurrency rewardIncrement).2 =
        (s.setPoolInfo pool (some { poolInfo with rewards := (Function.update poolInfo.rewards rewardCurrency
          (some (accumulatedEntry (poolInfo.rewards rewardCurrency) rewardIncrement))) })).accumulate pool
          rewardCurrency rewardIncrement := by
  unfold accumulateReward
  split_ifs
  · exact .inl rfl
  · split
    · exact .inl rfl
    · rename_i poolInfo hinfo
      exact .inr ⟨poolInfo, hinfo, rfl⟩

theorem covered_accumulateReward (h : Covered (s.view pool)) (hinc : rewardIncrement < 2 ^ 128) :
    Covered ((accumulateReward s pool rewardCurrency rewardIncrement).2.view pool) := by
  rcases accumulateReward_eq s pool rewardCurrency rewardIncrement with e | ⟨poolInfo, hinfo, e⟩
  · rw [e]
    exact h
  rw [e]
  have hreward : ∀ c, (s.view pool).reward c = poolInfo.rewards c := reward_of_getD (by simp [hinfo])
  have hentry := accumulatedEntry_le (fun tr tw hc => h.reward_le rewardCurrency tr tw ((hreward _).trans hc)) hinc
  refine ⟨fun c tr tw hc => ?_, fun c => ?_, ?_, fun who e he => h.positive who e he⟩
  · simp only [State.view_accumulate_self, State.view_setPoolInfo_self, PoolView.reward, Option.bind_some,
      Function.update_apply] at hc
    split_ifs at hc with hc'
    · rw [Option.some.inj hc] at hentry
      exact ⟨hentry.1, hentry.2.1⟩
    · exact h.reward_le c tr tw ((hreward c).trans hc)
  · have hpaid := h.paid_le c
    unfold PoolView.residual at hpaid ⊢
    rw [hreward] at hpaid
    simp only [State.view_accumulate_self, State.view_setPoolInfo_self, PoolView.reward, Option.bind_some,
      Function.update_apply]
    split_ifs with hc
    · subst hc
      simp only [Option.map_some, Option.getD_some]
      omega
    · exact hpaid
  · have hts : (s.view pool).totalShares = poolInfo.totalShares := totalShares_of_getD (by simp [hinfo])
    simp only [State.view_accumulate_self, State.view_setPoolInfo_self]
    exact hts.symm.trans_lt h.totalShares_lt

end Accumulate

/-! ## Adding shares -/

theorem rewardInflation_lt (addAmount totalReward initialTotalShares : Nat) :
    rewardInflation addAmount totalReward initialTotalShares < 2 ^ 128 := by
  unfold rewardInflation U256.saturatedInto
  split_ifs <;> omega

theorem PoolView.share_of_entries {v : PoolView AccountId CurrencyId} {who : AccountId} {e : Nat × (CurrencyId → Option Nat)}
    (h : v.entries who = some e) : v.share who = e.1 := by
  simp [PoolView.share, h]

theorem PoolView.share_withdrawn_of_getD {v : PoolView AccountId CurrencyId} {who : AccountId} {share : Nat}
    {withdrawnRewards : CurrencyId → Option Nat}
    (h : (v.entries who).getD (0, fun _ => none) = (share, withdrawnRewards)) :
    v.share who = share ∧ ∀ c, v.withdrawn c who = (withdrawnRewards c).getD 0 := by
  unfold PoolView.share PoolView.withdrawn
  cases he : v.entries who with
  | none =>
      rw [he, Option.getD_none, Prod.mk.injEq] at h
      obtain ⟨rfl, rfl⟩ := h
      exact ⟨rfl, fun _ => rfl⟩
  | some e =>
      rw [he, Option.getD_some] at h
      subst h
      exact ⟨rfl, fun _ => rfl⟩

section AddShare

variable [DecidableEq PoolId] [DecidableEq AccountId] (T : Config PoolId) (s : State PoolId AccountId CurrencyId)
  (who : AccountId) (pool : PoolId) (addAmount : Nat)

/-- `add_share` changes nothing, or adds to the pool's total shares and to
the account's, and charges the account, as withdrawn, each currency's
inflation: the new shares' part of the total reward, also added to it. -/
theorem addShare_spec :
    (addShare T s who pool addAmount).2 = s ∨
      let v := s.view pool
      let v' := (addShare T s who pool addAmount).2.view pool
      let inflation (totalReward : Nat) := rewardInflation addAmount totalReward v.totalShares
      addAmount ≠ 0 ∧
        v'.totalShares = Balance.saturatingAdd v.totalShares addAmount ∧
        (∀ c, v'.reward c = (v.reward c).map fun r =>
          (Balance.saturatingAdd r.1 (inflation r.1), Balance.saturatingAdd r.2 (inflation r.1))) ∧
        v'.share who = Balance.saturatingAdd (v.share who) addAmount ∧
        (∀ c, v'.withdrawn c who =
          ((v.reward c).map fun r => Balance.saturatingAdd (v.withdrawn c who) (inflation r.1)).getD
            (v.withdrawn c who)) ∧
        v'.entries who ≠ none ∧
        (∀ who', who' ≠ who → v'.entries who' = v.entries who') ∧
        v'.paid = v.paid ∧ v'.accumulated = v.accumulated := by
  unfold addShare
  split_ifs with hadd
  · exact .inl rfl
  split
  rename_i share withdrawnRewards hentry
  dsimp only
  split_ifs with hmin
  · exact .inl rfl
  right
  obtain ⟨hshare, hwithdrawn⟩ := PoolView.share_withdrawn_of_getD (v := s.view pool) hentry
  have hts := PoolView.totalShares_eq_getD (s.view pool)
  have hreward := PoolView.reward_eq_getD (s.view pool)
  refine ⟨hadd, ?_, fun c => ?_, ?_, fun c => ?_, ?_, fun who' hne => ?_, ?_, ?_⟩ <;>
    simp only [State.view_setShares_self, State.view_setPoolInfo_self]
  · rw [hts]
    rfl
  · rw [hreward, hts]
    rfl
  · rw [hshare]
    simp [PoolView.share]
  · rw [hwithdrawn, hreward, hts]
    simp only [PoolView.withdrawn, State.view, Function.update_self, Option.bind_some]
    cases hc : ((s.poolInfos pool).getD default).rewards c with
    | none => rfl
    | some r =>
        have hlt := rewardInflation_lt addAmount r.1 ((s.poolInfos pool).getD default).totalShares
        cases withdrawnRewards c with
        | none =>
            simp only [Option.map_some, Option.getD_some, Option.getD_none, Balance.saturatingAdd]
            omega
        | some w => rfl
  · simp
  · simp [Function.update_of_ne hne]

theorem covered_addShare (h : Covered (s.view pool)) : Covered ((addShare T s who pool addAmount).2.view pool) := by
  rcases addShare_spec T s who pool addAmount with e | ⟨hadd, hts, hreward, hshare, -, -, hother, hpaid, hacc⟩
  · rw [e]
    exact h
  refine ⟨fun c totalReward totalWithdrawnReward hc => ?_, fun c => ?_, ?_, fun who' e he => ?_⟩
  · rw [hreward] at hc
    obtain ⟨⟨tr, tw⟩, hc0, hc⟩ := Option.map_eq_some_iff.mp hc
    obtain ⟨hle, -⟩ := h.reward_le c tr tw hc0
    simp only [Prod.mk.injEq] at hc
    obtain ⟨rfl, rfl⟩ := hc
    simp only [Balance.saturatingAdd]
    omega
  · have hold := h.paid_le c
    unfold PoolView.residual at hold ⊢
    rw [hreward, hpaid, hacc]
    cases hc : (s.view pool).reward c with
    | none => simpa [hc] using hold
    | some r =>
        simp only [hc, Option.map_some, Option.getD_some] at hold ⊢
        simp only [Balance.saturatingAdd]
        omega
  · rw [hts]
    simp only [Balance.saturatingAdd]
    omega
  · by_cases hwho : who' = who
    · subst hwho
      have he' := PoolView.share_of_entries he
      rw [hshare] at he'
      simp only [Balance.saturatingAdd] at he'
      omega
    · rw [hother who' hwho] at he
      exact h.positive who' e he

end AddShare

/-! ## Removing shares -/

section RemoveFromPool

variable (removeAmount oldShare : Nat) (withdrawnRewards : CurrencyId → Option Nat) (poolInfo : PoolInfo CurrencyId)

theorem withdrawnRewardToRemove_le {withdrawnReward : Nat} (h : removeAmount ≤ oldShare) :
    withdrawnRewardToRemove removeAmount withdrawnReward oldShare ≤ withdrawnReward := by
  unfold withdrawnRewardToRemove U256.saturatedInto U256.checkedDiv
  split_ifs with h0
  · simp
  · simp only [Option.getD_some]
    calc min (U256.saturatingMul removeAmount withdrawnReward / oldShare) (2 ^ 128 - 1)
        ≤ U256.saturatingMul removeAmount withdrawnReward / oldShare := min_le_left _ _
      _ ≤ removeAmount * withdrawnReward / oldShare := Nat.div_le_div_right (U256.saturatingMul_le _ _)
      _ ≤ oldShare * withdrawnReward / oldShare := Nat.div_le_div_right (Nat.mul_le_mul_right _ h)
      _ = withdrawnReward := Nat.mul_div_cancel_left _ (Nat.pos_of_ne_zero h0)

theorem withdrawnRewardToRemove_self {withdrawnReward : Nat} (h0 : oldShare ≠ 0) (hshare : oldShare < 2 ^ 128)
    (hw : withdrawnReward < 2 ^ 128) : withdrawnRewardToRemove oldShare withdrawnReward oldShare = withdrawnReward := by
  have hmul : oldShare * withdrawnReward < 2 ^ 256 := by
    calc oldShare * withdrawnReward < 2 ^ 128 * 2 ^ 128 := Nat.mul_lt_mul'' hshare hw
      _ = 2 ^ 256 := by norm_num
  unfold withdrawnRewardToRemove U256.saturatedInto U256.checkedDiv
  rw [if_neg h0, U256.saturatingMul_eq hmul, Option.getD_some, Nat.mul_div_cancel_left _ (Nat.pos_of_ne_zero h0)]
  omega

theorem removeFromPool_totalShares :
    (((removeFromPool removeAmount oldShare withdrawnRewards poolInfo).1).map PoolInfo.totalShares).getD 0 =
      poolInfo.totalShares - removeAmount := by
  unfold removeFromPool
  dsimp only
  split_ifs with h
  · rfl
  · simp only [Option.map_none, Option.getD_none]
    omega

theorem removeFromPool_withdrawn (c : CurrencyId) :
    (((removeFromPool removeAmount oldShare withdrawnRewards poolInfo).2 c)).getD 0 =
      (withdrawnRewards c).getD 0 -
        ((withdrawnRewards c).map fun w => withdrawnRewardToRemove removeAmount w oldShare).getD 0 := by
  unfold removeFromPool
  dsimp only
  cases withdrawnRewards c <;> rfl

/-- Each currency's entry in the pool `remove_share` leaves: the old one less
what is taken back, or gone, with the pool or because what is taken back
covers its whole reward. -/
theorem removeFromPool_reward (c : CurrencyId) :
    (((removeFromPool removeAmount oldShare withdrawnRewards poolInfo).1.bind fun info => info.rewards c) = none ∧
      (poolInfo.totalShares - removeAmount = 0 ∨ ∀ totalReward totalWithdrawnReward,
        poolInfo.rewards c = some (totalReward, totalWithdrawnReward) →
          totalReward ≤ ((withdrawnRewards c).map fun w => withdrawnRewardToRemove removeAmount w oldShare).getD 0)) ∨
      ∃ totalReward totalWithdrawnReward, poolInfo.rewards c = some (totalReward, totalWithdrawnReward) ∧
        (removeFromPool removeAmount oldShare withdrawnRewards poolInfo).1.bind (fun info => info.rewards c) =
          some (totalReward - ((withdrawnRewards c).map fun w => withdrawnRewardToRemove removeAmount w oldShare).getD 0,
            totalWithdrawnReward -
              ((withdrawnRewards c).map fun w => withdrawnRewardToRemove removeAmount w oldShare).getD 0) := by
  unfold removeFromPool
  dsimp only
  split_ifs with hts
  · simp only [Option.bind_some]
    cases hw : withdrawnRewards c with
    | none =>
        cases hc : poolInfo.rewards c with
        | none => exact .inl ⟨rfl, .inr fun _ _ h => nomatch h⟩
        | some r => exact .inr ⟨r.1, r.2, rfl, rfl⟩
    | some w =>
        cases hc : poolInfo.rewards c with
        | none => exact .inl ⟨rfl, .inr fun _ _ h => nomatch h⟩
        | some r =>
            simp only [Option.map_some]
            split_ifs with hzero
            · refine .inl ⟨rfl, .inr fun totalReward totalWithdrawnReward h => ?_⟩
              cases h
              simp only [Option.getD_some] at hzero ⊢
              omega
            · exact .inr ⟨r.1, r.2, rfl, rfl⟩
  · exact .inl ⟨rfl, .inl (by omega)⟩

end RemoveFromPool

section RemoveShare

variable [DecidableEq PoolId] [DecidableEq AccountId] (T : Config PoolId) (s : State PoolId AccountId CurrencyId)
  (who : AccountId) (pool : PoolId) (removeAmount : Nat)

/-- `remove_share` changes nothing; or it claims the account's rewards and
then stops, or drops an entry without shares; or it takes at most the
account's shares from it and from the pool, with their part of each withdrawn
reward, and drops the entry or the pool when no shares are left. -/
theorem removeShare_spec :
    (removeShare T s who pool removeAmount).2 = s ∨
      let s₁ := claimRewards s who pool
      let v := s₁.view pool
      let v' := (removeShare T s who pool removeAmount).2.view pool
      (removeShare T s who pool removeAmount).2 = s₁ ∨
      ((∃ withdrawnRewards, v.entries who = some (0, withdrawnRewards)) ∧ v'.poolInfo = v.poolInfo ∧
        v'.entries = Function.update v.entries who none ∧ v'.paid = v.paid ∧ v'.accumulated = v.accumulated) ∨
      ∃ share withdrawnRewards poolInfo' withdrawnRewards', v.entries who = some (share, withdrawnRewards) ∧
        0 < min removeAmount share ∧
        (v.poolInfo = none → poolInfo' = none ∧ withdrawnRewards' = withdrawnRewards) ∧
        (∀ poolInfo, v.poolInfo = some poolInfo →
          removeFromPool (min removeAmount share) share withdrawnRewards poolInfo = (poolInfo', withdrawnRewards')) ∧
        v'.poolInfo = poolInfo' ∧
        v'.entries = Function.update v.entries who (if share - min removeAmount share ≠ 0 then
          some (share - min removeAmount share, withdrawnRewards') else none) ∧
        v'.paid = v.paid ∧ v'.accumulated = v.accumulated := by
  unfold removeShare
  split_ifs with h0
  · exact .inl rfl
  right
  dsimp only
  split
  · exact .inl rfl
  rename_i share withdrawnRewards hentry
  by_cases hrm : min removeAmount share = 0
  · rw [if_pos hrm]
    have hshare : share = 0 := by omega
    subst hshare
    refine .inr (.inl ⟨⟨withdrawnRewards, hentry⟩, ?_, ?_, ?_, ?_⟩) <;> simp
  rw [if_neg hrm]
  by_cases hmin : share - min removeAmount share ≠ 0 ∧ share - min removeAmount share < T.minimalShares pool
  · rw [if_pos hmin]
    exact .inl rfl
  rw [if_neg hmin]
  split
  · -- no pool: only the account's entry changes
    rename_i hnone
    refine .inr (.inr ⟨share, withdrawnRewards, none, withdrawnRewards, hentry, Nat.pos_of_ne_zero hrm,
      fun _ => ⟨rfl, rfl⟩, fun poolInfo hsome => (nomatch hnone.symm.trans hsome), ?_, ?_, ?_, ?_⟩) <;> simp
  · rename_i poolInfo hsome
    rcases hremoved : removeFromPool (min removeAmount share) share withdrawnRewards poolInfo with
      ⟨poolInfo', withdrawnRewards'⟩
    refine .inr (.inr ⟨share, withdrawnRewards, poolInfo', withdrawnRewards', hentry, Nat.pos_of_ne_zero hrm,
      fun hnone => (nomatch hsome.symm.trans hnone), fun poolInfo₁ hsome₁ => ?_, ?_, ?_, ?_, ?_⟩)
    · obtain rfl : poolInfo₁ = poolInfo := Option.some.inj (hsome₁.symm.trans hsome)
      exact hremoved
    all_goals simp

theorem removeShare_of_error {e : Error} (h : (removeShare T s who pool removeAmount).1 = .error e) :
    (removeShare T s who pool removeAmount).2 = claimRewards s who pool := by
  unfold removeShare at h ⊢
  by_cases h0 : removeAmount = 0
  · rw [if_pos h0] at h
    cases h
  rw [if_neg h0] at h ⊢
  dsimp only at h ⊢
  rcases hentry : (claimRewards s who pool).sharesAndWithdrawnRewards pool who with _ | ⟨share, withdrawnRewards⟩
  · simp [hentry] at h
  rw [hentry] at h
  dsimp only at h ⊢
  split_ifs at h ⊢
  rfl

/-- `remove_share` keeps a pool covered: it takes the same amount from a
currency's total reward and from its withdrawn total, and leaves only entries
with shares. -/
theorem covered_removeShare (h : Covered (s.view pool)) :
    Covered ((removeShare T s who pool removeAmount).2.view pool) := by
  have h₁ := covered_claimRewards who h
  rcases removeShare_spec T s who pool removeAmount with
    e | e | ⟨-, hinfo, hentries, hpaid, hacc⟩ |
      ⟨share, withdrawnRewards, poolInfo', withdrawnRewards', hentry, -, hnone, hsome, hinfo, hentries, hpaid, hacc⟩
  · rw [e]
    exact h
  · rw [e]
    exact h₁
  · -- an entry without shares is dropped
    refine h₁.of_entries hinfo hpaid hacc fun who' e he => ?_
    rw [hentries, Function.update_apply] at he
    split_ifs at he
    exact h₁.positive who' e he
  have hreward : ∀ c, (poolInfo'.bind fun info => info.rewards c) = none ∨
      ∃ tr tw x, ((claimRewards s who pool).view pool).reward c = some (tr, tw) ∧
        (poolInfo'.bind fun info => info.rewards c) = some (tr - x, tw - x) := by
    intro c
    cases hp : ((claimRewards s who pool).view pool).poolInfo with
    | none => exact .inl (by rw [(hnone hp).1]; rfl)
    | some poolInfo =>
        have hr := removeFromPool_reward (min removeAmount share) share withdrawnRewards poolInfo c
        rw [hsome poolInfo hp] at hr
        rcases hr with ⟨hr, -⟩ | ⟨tr, tw, hc, hr⟩
        · exact .inl hr
        · exact .inr ⟨tr, tw, _, by simp [PoolView.reward, hp, hc], hr⟩
  refine ⟨fun c totalReward totalWithdrawnReward hc => ?_, fun c => ?_, ?_, fun who' e he => ?_⟩
  · unfold PoolView.reward at hc
    rw [hinfo] at hc
    rcases hreward c with hr | ⟨tr, tw, x, hold, hr⟩
    · rw [hr] at hc
      cases hc
    · rw [hr] at hc
      cases hc
      have := h₁.reward_le c tr tw hold
      omega
  · have hold := h₁.paid_le c
    unfold PoolView.residual at hold ⊢
    unfold PoolView.reward
    rw [hinfo, hpaid, hacc]
    rcases hreward c with hr | ⟨tr, tw, x, hc, hr⟩
    · rw [hr]
      simp only [Option.map_none, Option.getD_none]
      omega
    · rw [hr]
      rw [hc] at hold
      simp only [Option.map_some, Option.getD_some] at hold ⊢
      omega
  · have hlt := h₁.totalShares_lt
    unfold PoolView.totalShares at hlt ⊢
    rw [hinfo]
    cases hp : ((claimRewards s who pool).view pool).poolInfo with
    | none =>
        rw [(hnone hp).1]
        exact Nat.two_pow_pos 128
    | some poolInfo =>
        have hts := removeFromPool_totalShares (min removeAmount share) share withdrawnRewards poolInfo
        rw [hsome poolInfo hp] at hts
        rw [hts]
        rw [hp] at hlt
        simp only [Option.map_some, Option.getD_some] at hlt
        omega
  · rw [hentries, Function.update_apply] at he
    split_ifs at he with hwho hshare
    · cases he
      exact Nat.pos_of_ne_zero hshare
    · exact h₁.positive who' e he

end RemoveShare

/-! ## Transferring shares -/

theorem moveBalance_eq_some {moveShare share : Nat} {rewards : CurrencyId → Option Nat} {c : CurrencyId} {m : Nat}
    (h : moveBalance moveShare share rewards c = some m) (hlt : moveShare < share) :
    m < 2 ^ 128 ∧ ∃ balance, rewards c = some balance ∧ m ≤ balance := by
  simp only [moveBalance, Option.bind_eq_some_iff] at h
  obtain ⟨balance, hb, h⟩ := h
  split_ifs at h with hfit
  cases h
  refine ⟨hfit, balance, hb, Nat.div_le_of_le_mul ?_⟩
  rw [Nat.mul_comm share]
  exact Nat.mul_le_mul_left _ (Nat.le_of_lt hlt)

section Transfer

variable [DecidableEq PoolId] [DecidableEq AccountId] (T : Config PoolId) (s : State PoolId AccountId CurrencyId)
  (who : AccountId) (pool : PoolId) (moveShare : Nat) (other : AccountId)

/-- `transfer_share_and_rewards` changes nothing, or moves shares and each
withdrawn reward's part of them from one account to another, leaving the
pool and every other account as they were. -/
theorem transferShareAndRewards_spec :
    (transferShareAndRewards T s who pool moveShare other).2 = s ∨
      let v := s.view pool
      let v' := (transferShareAndRewards T s who pool moveShare other).2.view pool
      ∃ share rewards, v.entries who = some (share, rewards) ∧ 0 < moveShare ∧ moveShare < share ∧ who ≠ other ∧
        v'.poolInfo = v.poolInfo ∧ v'.paid = v.paid ∧ v'.accumulated = v.accumulated ∧
        (∀ who', who' ≠ who → who' ≠ other → v'.entries who' = v.entries who') ∧
        v'.entries who ≠ none ∧ v'.entries other ≠ none ∧
        v'.share who = share - moveShare ∧ v'.share other = Balance.saturatingAdd (v.share other) moveShare ∧
        ∀ c, v'.withdrawn c who = v.withdrawn c who - (moveBalance moveShare share rewards c).getD 0 ∧
          v'.withdrawn c other = ((moveBalance moveShare share rewards c).map fun m =>
            Balance.saturatingAdd (v.withdrawn c other) m).getD (v.withdrawn c other) := by
  unfold transferShareAndRewards
  by_cases h0 : moveShare = 0
  · rw [if_pos h0]
    exact .inl rfl
  rw [if_neg h0]
  split
  rename_i increasedShare increasedRewards hother
  split
  · exact .inl rfl
  rename_i share rewards hentry
  dsimp only
  by_cases hlt : moveShare < share
  swap
  · rw [if_pos hlt]
    exact .inl rfl
  rw [if_neg (not_not.mpr hlt)]
  by_cases hself : who = other
  · rw [if_pos hself]
    exact .inl rfl
  rw [if_neg hself]
  by_cases hmin : share - moveShare ≥ T.minimalShares pool ∨ share - moveShare = 0
  swap
  · rw [if_pos hmin]
    exact .inl rfl
  rw [if_neg (not_not.mpr hmin)]
  by_cases hmin' : Balance.saturatingAdd increasedShare moveShare < T.minimalShares pool
  · rw [if_pos hmin']
    exact .inl rfl
  rw [if_neg hmin']
  right
  obtain ⟨hshare, hwithdrawn⟩ := PoolView.share_withdrawn_of_getD (v := s.view pool) hother
  refine ⟨share, rewards, hentry, Nat.pos_of_ne_zero h0, hlt, hself,
    ?_, ?_, ?_, fun who' h₁ h₂ => ?_, ?_, ?_, ?_, ?_, fun c => ⟨?_, ?_⟩⟩ <;>
    simp only [State.view_setShares_self, Function.update_self, Function.update_of_ne hself]
  · simp [Function.update_of_ne h₁, Function.update_of_ne h₂]
  · simp
  · simp
  · simp [PoolView.share, Function.update_of_ne hself]
  · rw [hshare]
    simp [PoolView.share]
  · simp only [PoolView.withdrawn, Function.update_of_ne hself, Function.update_self, State.view, hentry,
      Option.bind_some]
    cases hr : rewards c with
    | none => simp [moveBalance, hr]
    | some balance => cases moveBalance moveShare share rewards c <;> rfl
  · rw [hwithdrawn]
    simp only [PoolView.withdrawn, Function.update_self, Option.bind_some]
    cases hm : moveBalance moveShare share rewards c with
    | none => cases increasedRewards c <;> rfl
    | some m =>
        have hfit := (moveBalance_eq_some hm hlt).1
        cases increasedRewards c with
        | none =>
            simp only [Option.map_some, Option.getD_some, Option.getD_none, Balance.saturatingAdd]
            omega
        | some increasedReward => rfl

theorem covered_transferShareAndRewards (h : Covered (s.view pool)) :
    Covered ((transferShareAndRewards T s who pool moveShare other).2.view pool) := by
  rcases transferShareAndRewards_spec T s who pool moveShare other with
    e | ⟨share, rewards, -, hpos, hlt, -, hinfo, hpaid, hacc, hothers, -, -, hshare, hshareOther, -⟩
  · rw [e]
    exact h
  refine h.of_entries hinfo hpaid hacc fun who' e he => ?_
  have he' := PoolView.share_of_entries he
  by_cases h₁ : who' = who
  · subst h₁
    rw [hshare] at he'
    omega
  by_cases h₂ : who' = other
  · subst h₂
    rw [hshareOther] at he'
    simp only [Balance.saturatingAdd] at he'
    omega
  rw [hothers who' h₁ h₂] at he
  exact h.positive who' e he

end Transfer

/-! ## Every call keeps every pool covered -/

section System

variable [DecidableEq PoolId] [DecidableEq AccountId] [DecidableEq CurrencyId] (T : Config PoolId)

omit [DecidableEq CurrencyId] in
theorem covered_setShare {s : State PoolId AccountId CurrencyId} {pool : PoolId} (h : Covered (s.view pool))
    (who : AccountId) (newShare : Nat) : Covered ((setShare T s who pool newShare).2.view pool) := by
  unfold setShare
  dsimp only
  split_ifs
  · exact covered_addShare T s who pool _ h
  · exact covered_removeShare T s who pool _ h

theorem covered_dispatch {s : State PoolId AccountId CurrencyId} (h : ∀ p, Covered (s.view p))
    (call : Call PoolId AccountId CurrencyId) (p : PoolId) : Covered ((dispatch T s call).2.view p) := by
  cases call with
  | accumulateReward pool rewardCurrency rewardIncrement =>
      by_cases hp : p = pool
      · subst hp
        exact covered_accumulateReward s p rewardCurrency rewardIncrement (h p) rewardIncrement.isLt
      · rw [dispatch, view_accumulateReward_of_ne s hp]
        exact h p
  | addShare who pool addAmount =>
      by_cases hp : p = pool
      · subst hp
        exact covered_addShare T s who p addAmount (h p)
      · rw [dispatch, view_addShare_of_ne T s hp]
        exact h p
  | removeShare who pool removeAmount =>
      by_cases hp : p = pool
      · subst hp
        exact covered_removeShare T s who p removeAmount (h p)
      · rw [dispatch, view_removeShare_of_ne T s hp]
        exact h p
  | setShare who pool newShare =>
      by_cases hp : p = pool
      · subst hp
        exact covered_setShare T (h p) who newShare
      · rw [dispatch, view_setShare_of_ne T s hp]
        exact h p
  | claimRewards who pool =>
      by_cases hp : p = pool
      · subst hp
        exact covered_claimRewards who (h p)
      · rw [dispatch, view_claimRewards_of_ne s hp]
        exact h p
  | claimReward who pool rewardCurrency =>
      by_cases hp : p = pool
      · subst hp
        exact covered_claimReward who (h p) rewardCurrency
      · rw [dispatch, view_claimReward_of_ne s hp]
        exact h p
  | transferShareAndRewards who pool moveShare other =>
      by_cases hp : p = pool
      · subst hp
        exact covered_transferShareAndRewards T s who p moveShare other (h p)
      · rw [dispatch, view_transferShareAndRewards_of_ne T s hp]
        exact h p

theorem covered_invariant :
    Transition.Invariant (system T) fun s : State PoolId AccountId CurrencyId => ∀ p, Covered (s.view p) := by
  apply Transition.invariant_of_inductive
  · intro s hs p
    rw [hs]
    exact covered_empty p
  · intro s t call h hstep p
    cases hstep
    exact covered_dispatch T h call p

end System

end Setheum.Rewards
