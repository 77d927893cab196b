import Setheum.Rewards.Accounting

/-!
# The totals of a pool are the sums of its accounts

A pool's total shares is the sum of its accounts' shares, and each
currency's total withdrawn reward the sum of what its accounts have
withdrawn. Every call but `add_share` keeps this on a covered pool: a claim
adds the same reward to both sides, within the total reward, and a removal or
a transfer moves amounts that are parts of an account's entry. `add_share`
adds with saturating additions, so it keeps the sums only while they fit in a
`u128`; past that, the totals stop at `u128::MAX` and the sums do not.
-/

namespace Setheum.Rewards

open Finset

variable {PoolId AccountId CurrencyId : Type}

theorem saturatingAdd_eq_of_sum_lt {total part x sum : Nat} (hle : part ≤ total)
    (hsum : sum + part = total + Balance.saturatingAdd part x) (hlt : sum < 2 ^ 128) :
    Balance.saturatingAdd total x = sum := by
  unfold Balance.saturatingAdd at hsum ⊢
  omega

section Invariant

variable [Fintype AccountId]

/-- A pool's total shares, and each currency's total withdrawn reward, are the
sums over its accounts. -/
structure Balanced (v : PoolView AccountId CurrencyId) : Prop where
  shares : v.totalShares = ∑ who, v.share who
  withdrawn : ∀ c, v.totalWithdrawn c = ∑ who, v.withdrawn c who

/-- The sums of a pool's accounts fit in a `u128`. -/
def Bounded (v : PoolView AccountId CurrencyId) : Prop :=
  ∑ who, v.share who < 2 ^ 128 ∧ ∀ c, ∑ who, v.withdrawn c who < 2 ^ 128

theorem balanced_empty (pool : PoolId) : Balanced ((State.empty : State PoolId AccountId CurrencyId).view pool) where
  shares := by simp [PoolView.totalShares, PoolView.share, State.view, State.empty]
  withdrawn _ := by simp [PoolView.totalWithdrawn, PoolView.reward, PoolView.withdrawn, State.view, State.empty]

variable {v : PoolView AccountId CurrencyId}

theorem share_le_sum (who : AccountId) : v.share who ≤ ∑ j, v.share j := FinSum.le_sum_univ _ who

theorem withdrawn_le_sum (c : CurrencyId) (who : AccountId) : v.withdrawn c who ≤ ∑ j, v.withdrawn c j :=
  FinSum.le_sum_univ _ who

end Invariant

theorem Covered.withdrawn_eq_zero {v : PoolView AccountId CurrencyId} (h : Covered v) {who : AccountId}
    (hshare : v.share who = 0) (c : CurrencyId) : v.withdrawn c who = 0 := by
  cases he : v.entries who with
  | none => simp [PoolView.withdrawn, he]
  | some e =>
      have hpos := h.positive who e he
      rw [PoolView.share_of_entries he] at hshare
      omega

theorem Covered.totalWithdrawn_lt {v : PoolView AccountId CurrencyId} (h : Covered v) (c : CurrencyId) :
    v.totalWithdrawn c < 2 ^ 128 := by
  unfold PoolView.totalWithdrawn
  cases hc : v.reward c with
  | none => simp
  | some r =>
      have := h.reward_le c r.1 r.2 hc
      simp only [Option.map_some, Option.getD_some]
      omega

/-! ## Claims -/

section AfterClaim

variable [DecidableEq PoolId] [DecidableEq AccountId] [Fintype AccountId] {s : State PoolId AccountId CurrencyId}
  {who : AccountId} {pool : PoolId} {claimed : CurrencyId → Bool} {share : Nat}
  {withdrawnRewards : CurrencyId → Option Nat} {poolInfo : PoolInfo CurrencyId}

theorem balanced_afterClaim (hc : Covered (s.view pool)) (hb : Balanced (s.view pool))
    (hinfo : (s.poolInfos pool).getD default = poolInfo)
    (hentry : s.sharesAndWithdrawnRewards pool who = some (share, withdrawnRewards)) :
    Balanced ((s.afterClaim who pool claimed share withdrawnRewards poolInfo).view pool) := by
  have hshare : (s.view pool).share who = share := PoolView.share_of_entries (v := s.view pool) hentry
  have hwithdrawn : ∀ c, (s.view pool).withdrawn c who = (withdrawnRewards c).getD 0 := fun c => by
    simp [PoolView.withdrawn, State.view, hentry]
  constructor
  · -- the shares are as they were
    have hts := totalShares_of_getD hinfo
    rw [view_afterClaim]
    refine (hts.symm.trans hb.shares).trans (Finset.sum_congr rfl fun j _ => ?_)
    by_cases hj : j = who
    · subst hj
      rw [hshare]
      simp [PoolView.share]
    · simp [PoolView.share, Function.update_of_ne hj]
  · intro c
    have hsum := FinSum.sum_add_eq_of_eq_off
      (fun j => ((s.afterClaim who pool claimed share withdrawnRewards poolInfo).view pool).withdrawn c j)
      (fun j => (s.view pool).withdrawn c j) who fun j hj => by
        simp [PoolView.withdrawn, Function.update_of_ne hj]
    have hle := withdrawn_le_sum (v := s.view pool) c who
    have htotal := hb.withdrawn c
    rcases afterClaim_reward who claimed share withdrawnRewards hc hinfo c with
      ⟨hold, hnew, hr⟩ | ⟨tr, tw, hold, hnew, hle', hlt⟩
    · simp only [PoolView.totalWithdrawn, hold, hnew, Option.map_none, Option.getD_none] at htotal ⊢
      have hw : ((s.afterClaim who pool claimed share withdrawnRewards poolInfo).view pool).withdrawn c who =
          (s.view pool).withdrawn c who := by
        rw [view_afterClaim]
        simp only [PoolView.withdrawn, Function.update_self, Option.bind_some]
        rw [claimIn_withdrawn claimed share withdrawnRewards poolInfo (by rw [← hwithdrawn c, hr]; omega), hr,
          ← hwithdrawn]
        rfl
      omega
    · simp only [PoolView.totalWithdrawn, hold, hnew, Option.map_some, Option.getD_some] at htotal ⊢
      have hw : ((s.afterClaim who pool claimed share withdrawnRewards poolInfo).view pool).withdrawn c who =
          (s.view pool).withdrawn c who + (claimIn claimed share withdrawnRewards poolInfo).1 c := by
        rw [view_afterClaim]
        simp only [PoolView.withdrawn, Function.update_self, Option.bind_some]
        rw [claimIn_withdrawn claimed share withdrawnRewards poolInfo (by rw [← hwithdrawn c]; omega), ← hwithdrawn]
        rfl
      omega

variable (who)

theorem balanced_claimRewards (hc : Covered (s.view pool)) (hb : Balanced (s.view pool)) :
    Balanced ((claimRewards s who pool).view pool) := by
  rcases claimRewards_eq s who pool with e | ⟨share, withdrawnRewards, poolInfo, hentry, hinfo, e⟩
  · rw [e]
    exact hb
  · rw [e]
    exact balanced_afterClaim hc hb (by rw [hinfo]; rfl) hentry

theorem balanced_claimReward [DecidableEq CurrencyId] (hc : Covered (s.view pool)) (hb : Balanced (s.view pool))
    (rewardCurrency : CurrencyId) : Balanced ((claimReward s who pool rewardCurrency).view pool) := by
  rcases claimReward_eq s who pool rewardCurrency with e | ⟨share, withdrawnRewards, hentry, e⟩
  · rw [e]
    exact hb
  · rw [e]
    exact balanced_afterClaim hc hb rfl hentry

end AfterClaim

/-! ## Accumulating rewards -/

theorem balanced_accumulateReward [DecidableEq PoolId] [DecidableEq CurrencyId] [Fintype AccountId]
    {s : State PoolId AccountId CurrencyId} {pool : PoolId} (hb : Balanced (s.view pool))
    (rewardCurrency : CurrencyId) (rewardIncrement : Nat) :
    Balanced ((accumulateReward s pool rewardCurrency rewardIncrement).2.view pool) := by
  rcases accumulateReward_eq s pool rewardCurrency rewardIncrement with e | ⟨poolInfo, hinfo, e⟩
  · rw [e]
    exact hb
  have hreward : ∀ c, (s.view pool).reward c = poolInfo.rewards c := reward_of_getD (by simp [hinfo])
  have hts : (s.view pool).totalShares = poolInfo.totalShares := totalShares_of_getD (by simp [hinfo])
  rw [e]
  constructor
  · simp only [State.view_accumulate_self, State.view_setPoolInfo_self]
    exact hts.symm.trans hb.shares
  · intro c
    refine Eq.trans ?_ (hb.withdrawn c)
    simp only [State.view_accumulate_self, State.view_setPoolInfo_self, PoolView.totalWithdrawn, PoolView.reward,
      Option.bind_some, Function.update_apply]
    rw [← PoolView.reward, hreward]
    split_ifs with hc
    · -- the currency's withdrawn total is kept, or starts at zero
      subst hc
      cases poolInfo.rewards c <;> rfl
    · rfl

/-! ## Adding shares -/

section AddShare

variable [DecidableEq PoolId] [DecidableEq AccountId] [Fintype AccountId] (T : Config PoolId)
  {s : State PoolId AccountId CurrencyId} (who : AccountId) {pool : PoolId} (addAmount : Nat)

/-- `add_share` keeps the totals the sums of the accounts while those sums
fit in a `u128`: below that its saturating additions are exact, and at it the
account that saturates holds the whole sum. -/
theorem balanced_addShare (hb : Balanced (s.view pool))
    (hbound : Bounded ((addShare T s who pool addAmount).2.view pool)) :
    Balanced ((addShare T s who pool addAmount).2.view pool) := by
  rcases addShare_spec T s who pool addAmount with
    e | ⟨-, hts, hreward, hshare, hwithdrawn, -, hother, -, -⟩
  · rw [e]
    exact hb
  have hentry : ∀ j, j ≠ who →
      ((addShare T s who pool addAmount).2.view pool).entries j = (s.view pool).entries j := hother
  constructor
  · have hsum := FinSum.sum_add_eq_of_eq_off (fun j => ((addShare T s who pool addAmount).2.view pool).share j)
      (fun j => (s.view pool).share j) who fun j hj => by simp only [PoolView.share, hentry j hj]
    have hle := share_le_sum (v := s.view pool) who
    rw [hshare, ← hb.shares] at hsum
    rw [← hb.shares] at hle
    rw [hts]
    exact saturatingAdd_eq_of_sum_lt hle hsum hbound.1
  · intro c
    have hsum := FinSum.sum_add_eq_of_eq_off
      (fun j => ((addShare T s who pool addAmount).2.view pool).withdrawn c j)
      (fun j => (s.view pool).withdrawn c j) who fun j hj => by simp only [PoolView.withdrawn, hentry j hj]
    have htotal := hb.withdrawn c
    unfold PoolView.totalWithdrawn at htotal ⊢
    rw [hreward c]
    rw [hwithdrawn c] at hsum
    cases hc : (s.view pool).reward c with
    | none =>
        simp only [hc, Option.map_none, Option.getD_none] at htotal hsum ⊢
        omega
    | some r =>
        simp only [hc, Option.map_some, Option.getD_some] at htotal hsum ⊢
        rw [htotal]
        exact saturatingAdd_eq_of_sum_lt (withdrawn_le_sum c who) hsum (hbound.2 c)

end AddShare

/-! ## Removing shares -/

theorem Covered.sum_withdrawn_eq [Fintype AccountId] [DecidableEq AccountId] {v : PoolView AccountId CurrencyId}
    (h : Covered v) {who : AccountId} (hsole : ∑ j, v.share j ≤ v.share who) (c : CurrencyId) :
    ∑ j, v.withdrawn c j = v.withdrawn c who := by
  refine Finset.sum_eq_single who (fun j _ hj => h.withdrawn_eq_zero ?_ c) (fun h => absurd (Finset.mem_univ who) h)
  have := FinSum.add_le_sum (fun j => v.share j) hj
  omega

section RemoveShare

variable [DecidableEq PoolId] [DecidableEq AccountId] [Fintype AccountId] (T : Config PoolId)
  {s : State PoolId AccountId CurrencyId} (who : AccountId) {pool : PoolId} (removeAmount : Nat)

/-- `remove_share` keeps the totals the sums of the accounts: it takes the
same shares from both, and from a currency's withdrawn total what it takes
from the account's withdrawn reward; a currency or a pool it drops has
nothing left withdrawn. -/
theorem balanced_removeShare (hc : Covered (s.view pool)) (hb : Balanced (s.view pool)) :
    Balanced ((removeShare T s who pool removeAmount).2.view pool) := by
  have hc₁ := covered_claimRewards who hc
  have hb₁ := balanced_claimRewards who hc hb
  rcases removeShare_spec T s who pool removeAmount with
    e | e | ⟨⟨withdrawnRewards, hzero⟩, -⟩ |
      ⟨share, withdrawnRewards, poolInfo', withdrawnRewards', hentry, hpos, -, hsome, hinfo, hentries, -, -⟩
  · rw [e]
    exact hb
  · rw [e]
    exact hb₁
  · exact absurd (hc₁.positive who _ hzero) (Nat.lt_irrefl 0)
  generalize (claimRewards s who pool).view pool = v at *
  generalize (removeShare T s who pool removeAmount).2.view pool = v' at *
  have hshare : v.share who = share := PoolView.share_of_entries hentry
  have hw : ∀ c, v.withdrawn c who = (withdrawnRewards c).getD 0 := fun c => by
    simp [PoolView.withdrawn, hentry]
  have hle : share ≤ v.totalShares := by
    rw [hb₁.shares, ← hshare]
    exact share_le_sum who
  obtain ⟨poolInfo, hp⟩ : ∃ poolInfo, v.poolInfo = some poolInfo := by
    cases hp : v.poolInfo with
    | none =>
        simp only [PoolView.totalShares, hp, Option.map_none, Option.getD_none] at hle
        omega
    | some poolInfo => exact ⟨poolInfo, rfl⟩
  have hremoved := hsome poolInfo hp
  have hts : v.totalShares = poolInfo.totalShares := by simp [PoolView.totalShares, hp]
  have hothers : ∀ j, j ≠ who → v'.entries j = v.entries j := fun j hj => by
    rw [hentries, Function.update_of_ne hj]
  have hlt := hc₁.totalShares_lt
  have hshares := hb₁.shares
  constructor
  · have hsum := FinSum.sum_add_eq_of_eq_off (fun j => v'.share j) (fun j => v.share j) who fun j hj => by
      simp only [PoolView.share, hothers j hj]
    have hshare' : v'.share who = share - min removeAmount share := by
      simp only [PoolView.share, hentries, Function.update_self]
      split_ifs with hs
      · rfl
      · simp only [Option.map_none, Option.getD_none]
        omega
    have hts' : v'.totalShares = poolInfo.totalShares - min removeAmount share := by
      have h := removeFromPool_totalShares (min removeAmount share) share withdrawnRewards poolInfo
      rw [hremoved] at h
      rw [PoolView.totalShares, hinfo]
      exact h
    omega
  · intro c
    have hx : ((withdrawnRewards c).map fun w => withdrawnRewardToRemove (min removeAmount share) w share).getD 0 ≤
        v.withdrawn c who := by
      rw [hw]
      cases withdrawnRewards c with
      | none => exact Nat.zero_le _
      | some w => exact withdrawnRewardToRemove_le _ _ (min_le_right _ _)
    have hwlt : v.withdrawn c who < 2 ^ 128 := by
      have := withdrawn_le_sum (v := v) c who
      have := hc₁.totalWithdrawn_lt c
      rw [hb₁.withdrawn c] at this
      omega
    have hall : min removeAmount share = share →
        ((withdrawnRewards c).map fun w => withdrawnRewardToRemove (min removeAmount share) w share).getD 0 =
          v.withdrawn c who := by
      intro hrm
      rw [hrm, hw c]
      rw [hw c] at hwlt
      cases hwc : withdrawnRewards c with
      | none => rfl
      | some w =>
          rw [hwc] at hwlt
          exact withdrawnRewardToRemove_self share (by omega) (by omega) hwlt
    have hw' : v'.withdrawn c who = v.withdrawn c who -
        ((withdrawnRewards c).map fun w => withdrawnRewardToRemove (min removeAmount share) w share).getD 0 := by
      rw [hw c]
      simp only [PoolView.withdrawn, hentries, Function.update_self]
      split_ifs with hs
      · have h := removeFromPool_withdrawn (min removeAmount share) share withdrawnRewards poolInfo c
        rw [hremoved] at h
        simpa using h
      · rw [hall (by omega), hw c]
        simp
    have hsum := FinSum.sum_add_eq_of_eq_off (fun j => v'.withdrawn c j) (fun j => v.withdrawn c j) who
      fun j hj => by simp only [PoolView.withdrawn, hothers j hj]
    have htotal := hb₁.withdrawn c
    unfold PoolView.totalWithdrawn PoolView.reward at htotal ⊢
    rw [hinfo]
    rw [hp, Option.bind_some] at htotal
    rcases removeFromPool_reward (min removeAmount share) share withdrawnRewards poolInfo c with
      ⟨hnone, hwhy⟩ | ⟨tr, tw, hc', hsome'⟩
    · rw [hremoved] at hnone
      rw [hnone, Option.map_none, Option.getD_none]
      rcases hwhy with hdrop | hcover
      · -- the pool is dropped: the account held every share, so everything withdrawn
        have hsole : ∑ j, v.share j ≤ v.share who := by omega
        have hsum₁ := hc₁.sum_withdrawn_eq hsole c
        have hx := hall (by omega)
        omega
      · -- what is taken back covers the currency's whole reward, so all it had withdrawn
        cases hc' : poolInfo.rewards c with
        | none =>
            rw [hc'] at htotal
            simp only [Option.map_none, Option.getD_none] at htotal
            omega
        | some r =>
            have hcov := hcover r.1 r.2 hc'
            have hrle := (hc₁.reward_le c r.1 r.2 (by rw [PoolView.reward, hp, Option.bind_some, hc'])).1
            rw [hc'] at htotal
            simp only [Option.map_some, Option.getD_some] at htotal
            omega
    · rw [hremoved] at hsome'
      rw [hsome', Option.map_some, Option.getD_some]
      rw [hc'] at htotal
      simp only [Option.map_some, Option.getD_some] at htotal
      omega

end RemoveShare

/-! ## Transferring shares -/

section Transfer

variable [DecidableEq PoolId] [DecidableEq AccountId] [Fintype AccountId] (T : Config PoolId)
  {s : State PoolId AccountId CurrencyId} (who : AccountId) {pool : PoolId} (moveShare : Nat) (other : AccountId)

/-- `transfer_share_and_rewards` moves shares, and parts of withdrawn rewards,
between two accounts without saturating: what the receiver ends with is part
of a sum that fits. -/
theorem balanced_transferShareAndRewards (hc : Covered (s.view pool)) (hb : Balanced (s.view pool)) :
    Balanced ((transferShareAndRewards T s who pool moveShare other).2.view pool) := by
  rcases transferShareAndRewards_spec T s who pool moveShare other with
    e | ⟨share, rewards, hentry, -, hlt, hself, hinfo, -, -, hothers, -, -, hshare', hshareOther, hwithdrawn⟩
  · rw [e]
    exact hb
  generalize (transferShareAndRewards T s who pool moveShare other).2.view pool = v' at *
  have hshare : (s.view pool).share who = share := PoolView.share_of_entries hentry
  have hsame : ∀ j, j ≠ who → j ≠ other → v'.share j = (s.view pool).share j := fun j h₁ h₂ => by
    simp only [PoolView.share, hothers j h₁ h₂]
  constructor
  · have hsum := FinSum.sum_add_eq_of_eq_off_two (fun j => v'.share j) (fun j => (s.view pool).share j) hself hsame
    have hboth := FinSum.add_le_sum (fun j => (s.view pool).share j) hself
    have hts : v'.totalShares = (s.view pool).totalShares := by
      unfold PoolView.totalShares
      rw [hinfo]
    have hshares := hb.shares
    have hlt₁ := hc.totalShares_lt
    rw [hts, hshare', hshareOther] at *
    simp only [Balance.saturatingAdd] at hsum
    omega
  · intro c
    have hsum := FinSum.sum_add_eq_of_eq_off_two (fun j => v'.withdrawn c j) (fun j => (s.view pool).withdrawn c j)
      hself fun j h₁ h₂ => by simp only [PoolView.withdrawn, hothers j h₁ h₂]
    have hboth := FinSum.add_le_sum (fun j => (s.view pool).withdrawn c j) hself
    have htw : v'.totalWithdrawn c = (s.view pool).totalWithdrawn c := by
      unfold PoolView.totalWithdrawn PoolView.reward
      rw [hinfo]
    have htotal := hb.withdrawn c
    have hlt₁ := hc.totalWithdrawn_lt c
    obtain ⟨hwho, hwother⟩ := hwithdrawn c
    rw [htw]
    cases hm : moveBalance moveShare share rewards c with
    | none =>
        simp only [hm, Option.map_none, Option.getD_none] at hwho hwother
        omega
    | some m =>
        obtain ⟨-, balance, hbalance, hmle⟩ := moveBalance_eq_some hm hlt
        have hw : (s.view pool).withdrawn c who = balance := by
          simp only [PoolView.withdrawn, hentry, Option.bind_some, hbalance, Option.getD_some]
        simp only [hm, Option.map_some, Option.getD_some, Balance.saturatingAdd] at hwho hwother
        omega

end Transfer

/-! ## Every call keeps the totals while the sums fit -/

section System

variable [DecidableEq PoolId] [DecidableEq AccountId] [DecidableEq CurrencyId] [Fintype AccountId]
  (T : Config PoolId)

omit [DecidableEq CurrencyId] in
theorem balanced_setShare {s : State PoolId AccountId CurrencyId} {pool : PoolId} (hc : Covered (s.view pool))
    (hb : Balanced (s.view pool)) (who : AccountId) (newShare : Nat)
    (hbound : Bounded ((setShare T s who pool newShare).2.view pool)) :
    Balanced ((setShare T s who pool newShare).2.view pool) := by
  unfold setShare at hbound ⊢
  dsimp only at hbound ⊢
  split_ifs at hbound ⊢
  · exact balanced_addShare T who _ hb hbound
  · exact balanced_removeShare T who _ hc hb

theorem balanced_dispatch {s : State PoolId AccountId CurrencyId} (hc : ∀ p, Covered (s.view p))
    (hb : ∀ p, Balanced (s.view p)) (call : Call PoolId AccountId CurrencyId)
    (hbound : ∀ p, Bounded ((dispatch T s call).2.view p)) (p : PoolId) :
    Balanced ((dispatch T s call).2.view p) := by
  cases call with
  | accumulateReward pool rewardCurrency rewardIncrement =>
      by_cases hp : p = pool
      · subst hp
        exact balanced_accumulateReward (hb p) rewardCurrency rewardIncrement
      · rw [dispatch, view_accumulateReward_of_ne s hp]
        exact hb p
  | addShare who pool addAmount =>
      by_cases hp : p = pool
      · subst hp
        exact balanced_addShare T who addAmount (hb p) (hbound p)
      · rw [dispatch, view_addShare_of_ne T s hp]
        exact hb p
  | removeShare who pool removeAmount =>
      by_cases hp : p = pool
      · subst hp
        exact balanced_removeShare T who removeAmount (hc p) (hb p)
      · rw [dispatch, view_removeShare_of_ne T s hp]
        exact hb p
  | setShare who pool newShare =>
      by_cases hp : p = pool
      · subst hp
        exact balanced_setShare T (hc p) (hb p) who newShare (hbound p)
      · rw [dispatch, view_setShare_of_ne T s hp]
        exact hb p
  | claimRewards who pool =>
      by_cases hp : p = pool
      · subst hp
        exact balanced_claimRewards who (hc p) (hb p)
      · rw [dispatch, view_claimRewards_of_ne s hp]
        exact hb p
  | claimReward who pool rewardCurrency =>
      by_cases hp : p = pool
      · subst hp
        exact balanced_claimReward who (hc p) (hb p) rewardCurrency
      · rw [dispatch, view_claimReward_of_ne s hp]
        exact hb p
  | transferShareAndRewards who pool moveShare other =>
      by_cases hp : p = pool
      · subst hp
        exact balanced_transferShareAndRewards T who moveShare other (hc p) (hb p)
      · rw [dispatch, view_transferShareAndRewards_of_ne T s hp]
        exact hb p

theorem balanced_run (calls : List (Call PoolId AccountId CurrencyId))
    (hbound : ∀ k p, Bounded (((system T).run State.empty (calls.take k)).view p)) :
    (∀ p, Covered (((system T).run State.empty calls).view p)) ∧
      ∀ p, Balanced (((system T).run State.empty calls).view p) := by
  refine Transition.System.run_invariant_while (system T)
    (P := fun s => (∀ p, Covered (s.view p)) ∧ ∀ p, Balanced (s.view p)) (B := fun s => ∀ p, Bounded (s.view p))
    (fun s call h hb => ⟨covered_dispatch T h.1 call, balanced_dispatch T h.1 h.2 call hb⟩) calls
    ⟨covered_empty, balanced_empty⟩ hbound

theorem run_share_le_totalShares (calls : List (Call PoolId AccountId CurrencyId))
    (hbound : ∀ k p, Bounded (((system T).run State.empty (calls.take k)).view p)) (pool : PoolId) :
    (∀ who, (((system T).run State.empty calls).view pool).share who ≤
        (((system T).run State.empty calls).view pool).totalShares) ∧
      ∀ c who, (((system T).run State.empty calls).view pool).withdrawn c who ≤
        (((system T).run State.empty calls).view pool).totalWithdrawn c := by
  have hb := (balanced_run T calls hbound).2 pool
  refine ⟨fun who => ?_, fun c who => ?_⟩
  · rw [hb.shares]
    exact share_le_sum who
  · rw [hb.withdrawn c]
    exact withdrawn_le_sum c who

end System

namespace Reference

/-- A deployment with no minimal shares, one pool, two accounts and one reward currency. -/
def rewardsConfig : Config Unit := ⟨fun _ => 0⟩

/-- `true` joins with `100` shares, `60` is accumulated, `false` joins with
`50` shares and is charged `30` of inflation, and `true` claims its `60`. -/
def sharingCalls : List (Call Unit Bool Unit) :=
  [.addShare true () 100, .accumulateReward () () 60, .addShare false () 50, .claimRewards true ()]

/-- Each account adds `2 ^ 127` shares to the pool. -/
def saturatingCalls : List (Call Unit Bool Unit) :=
  [.addShare true () ⟨2 ^ 127, by norm_num⟩, .addShare false () ⟨2 ^ 127, by norm_num⟩]

end Reference

/-- For every run of the pallet's calls, on `u128` amounts, from empty
storage: no currency of a pool has more withdrawn than rewarded, and no more
was paid out of a pool in a currency than was accumulated in it; and while
the accounts' shares and withdrawn rewards of every pool sum to values that
fit in a `u128`, each existing pool's total shares and total withdrawn
rewards are those sums. -/
theorem reward_pool_accounting [DecidableEq PoolId] [DecidableEq AccountId] [DecidableEq CurrencyId]
    [Fintype AccountId] (T : Config PoolId) (calls : List (Call PoolId AccountId CurrencyId)) :
    let s := (system T).run State.empty calls
    (∀ pool poolInfo c totalReward totalWithdrawnReward, s.poolInfos pool = some poolInfo →
      poolInfo.rewards c = some (totalReward, totalWithdrawnReward) → totalWithdrawnReward ≤ totalReward) ∧
    (∀ pool c, s.paid pool c ≤ s.accumulated pool c) ∧
    ((∀ k pool, Bounded (((system T).run State.empty (calls.take k)).view pool)) →
      ∀ pool poolInfo, s.poolInfos pool = some poolInfo →
        poolInfo.totalShares = ∑ who, ((s.sharesAndWithdrawnRewards pool who).map Prod.fst).getD 0 ∧
        ∀ c totalReward totalWithdrawnReward, poolInfo.rewards c = some (totalReward, totalWithdrawnReward) →
          totalWithdrawnReward = ∑ who, ((s.sharesAndWithdrawnRewards pool who).bind fun e => e.2 c).getD 0) := by
  intro s
  have hcovered : ∀ p, Covered (s.view p) :=
    covered_invariant T s (Transition.Reachable.run (.init rfl) calls)
  refine ⟨fun pool poolInfo c tr tw hp hc => ?_, fun pool c => ?_, fun hbound pool poolInfo hp => ?_⟩
  · have hreward : (s.view pool).reward c = some (tr, tw) := by
      simp [PoolView.reward, State.view, hp, hc]
    exact ((hcovered pool).reward_le c tr tw hreward).1
  · have := (hcovered pool).paid_le c
    simp only [State.view] at this
    omega
  · have hb : Balanced (s.view pool) := (balanced_run T calls hbound).2 pool
    refine ⟨?_, fun c tr tw hc => ?_⟩
    · have := hb.shares
      simp only [PoolView.totalShares, State.view, hp] at this
      exact this
    · have := hb.withdrawn c
      simp only [PoolView.totalWithdrawn, PoolView.reward, State.view, hp, Option.bind_some, hc, Option.map_some,
        Option.getD_some] at this
      exact this

theorem reward_pool_accounting_reference :
    (∀ k pool, Bounded (((system Reference.rewardsConfig).run State.empty
      (Reference.sharingCalls.take k)).view pool)) ∧
    ∀ poolInfo, ((system Reference.rewardsConfig).run State.empty Reference.sharingCalls).poolInfos () =
        some poolInfo →
      poolInfo.totalShares = ∑ who, ((((system Reference.rewardsConfig).run State.empty
        Reference.sharingCalls).sharesAndWithdrawnRewards () who).map Prod.fst).getD 0 ∧
      ∀ c totalReward totalWithdrawnReward, poolInfo.rewards c = some (totalReward, totalWithdrawnReward) →
        totalWithdrawnReward = ∑ who, ((((system Reference.rewardsConfig).run State.empty
          Reference.sharingCalls).sharesAndWithdrawnRewards () who).bind fun e => e.2 c).getD 0 := by
  have hbound : ∀ k pool, Bounded (((system Reference.rewardsConfig).run State.empty
      (Reference.sharingCalls.take k)).view pool) := by
    intro k ⟨⟩
    unfold Bounded Reference.sharingCalls
    rcases k with _ | _ | _ | _ | _ | k <;>
      simp only [List.take_succ_cons, List.take_zero, List.take_nil, Nat.zero_add] <;> decide
  exact ⟨hbound, (reward_pool_accounting Reference.rewardsConfig Reference.sharingCalls).2.2 hbound ()⟩

/-- Past `u128::MAX` the total shares stop while the accounts' shares do not:
two additions of `2 ^ 127` leave a total of `2 ^ 128 - 1` over shares that sum
to `2 ^ 128`. -/
theorem reward_pool_accounting_saturates :
    (((system Reference.rewardsConfig).run State.empty Reference.saturatingCalls).poolInfos ()).map
        PoolInfo.totalShares = some (2 ^ 128 - 1) ∧
      ∑ who, ((((system Reference.rewardsConfig).run State.empty
        Reference.saturatingCalls).sharesAndWithdrawnRewards () who).map Prod.fst).getD 0 = 2 ^ 128 := by
  decide

end Setheum.Rewards
