import Setheum.Rewards.Totals
import Setheum.Lib.Proportion

/-!
# What an account can claim

`reward_to_withdraw` of an account's entry against its pool is what
`claim_rewards` pays it. Joining a pool inflates the total reward by the new
shares' rounded-down part and charges it to the newcomer as withdrawn, so the
newcomer can claim nothing of what was there before, and the others lose at
most the unit the rounding takes from them, as long as no total saturates.
Moving shares between two accounts leaves every other account's claim as it
was; taking shares out of a pool does not, since the withdrawn reward it
removes from the totals is rounded down.
-/

namespace Setheum.Rewards

variable {PoolId AccountId CurrencyId : Type}

theorem rewardToWithdraw_eq {share totalReward totalShares withdrawnReward totalWithdrawnReward : Nat}
    (hmul : share * totalReward < 2 ^ 256) (hdiv : share * totalReward / totalShares < 2 ^ 128) :
    rewardToWithdraw share totalReward totalShares withdrawnReward totalWithdrawnReward =
      min (share * totalReward / totalShares - withdrawnReward) (totalReward - totalWithdrawnReward) := by
  unfold rewardToWithdraw
  rw [U256.saturatedInto_div_eq hmul hdiv]

theorem rewardInflation_eq {addAmount totalReward initialTotalShares : Nat}
    (hmul : addAmount * totalReward < 2 ^ 256) (hdiv : addAmount * totalReward / initialTotalShares < 2 ^ 128) :
    rewardInflation addAmount totalReward initialTotalShares = addAmount * totalReward / initialTotalShares := by
  unfold rewardInflation
  split_ifs with h
  · simp [h]
  · exact U256.saturatedInto_div_eq hmul hdiv

namespace PoolView

variable (v : PoolView AccountId CurrencyId)

/-- What claiming in a currency would pay an account. -/
def claimable (c : CurrencyId) (who : AccountId) : Nat :=
  match v.reward c with
  | some (totalReward, totalWithdrawnReward) =>
      rewardToWithdraw (v.share who) totalReward v.totalShares (v.withdrawn c who) totalWithdrawnReward
  | none => 0

variable {v}

theorem claimable_of_reward_none {c : CurrencyId} (hc : v.reward c = none) (who : AccountId) :
    v.claimable c who = 0 := by
  simp [claimable, hc]

theorem claimable_of_share_eq_zero {who : AccountId} (h : v.share who = 0) (c : CurrencyId) :
    v.claimable c who = 0 := by
  unfold claimable
  split
  · rw [h, rewardToWithdraw_eq (by simp) (by simp)]
    simp
  · rfl

theorem claimable_eq {c : CurrencyId} {who : AccountId} {totalReward totalWithdrawnReward : Nat}
    (hc : v.reward c = some (totalReward, totalWithdrawnReward)) (hshare : v.share who ≤ v.totalShares)
    (hts : v.totalShares < 2 ^ 128) (htr : totalReward < 2 ^ 128) :
    v.claimable c who = min (v.share who * totalReward / v.totalShares - v.withdrawn c who)
      (totalReward - totalWithdrawnReward) := by
  have hpart : v.share who * totalReward / v.totalShares ≤ totalReward :=
    Nat.div_le_of_le_mul (Nat.mul_le_mul_right _ hshare)
  unfold claimable
  rw [hc]
  exact rewardToWithdraw_eq (U256.mul_lt_of_lt (by omega) htr) (by omega)

theorem claimable_congr {v' : PoolView AccountId CurrencyId} {who : AccountId} (hinfo : v'.poolInfo = v.poolInfo)
    (hentry : v'.entries who = v.entries who) (c : CurrencyId) : v'.claimable c who = v.claimable c who := by
  simp [claimable, reward, totalShares, share, withdrawn, hinfo, hentry]

end PoolView

section Claim

variable [DecidableEq PoolId] [DecidableEq AccountId] (s : State PoolId AccountId CurrencyId) (who : AccountId)
  (pool : PoolId)

theorem paid_claimRewards (c : CurrencyId) :
    ((claimRewards s who pool).view pool).paid c = (s.view pool).paid c + (s.view pool).claimable c who := by
  unfold claimRewards
  split
  · next hentry =>
    rw [PoolView.claimable_of_share_eq_zero (by simp [PoolView.share, State.view, hentry]), Nat.add_zero]
  next share withdrawnRewards hentry =>
  split_ifs with h0
  · rw [PoolView.claimable_of_share_eq_zero (by simp [PoolView.share, State.view, hentry, h0]), Nat.add_zero]
  split
  · next hinfo =>
    rw [PoolView.claimable_of_reward_none (by simp [PoolView.reward, State.view, hinfo]), Nat.add_zero]
  next poolInfo hinfo =>
  simp only [State.view_payout_self, State.view_setShares_self, State.view_setPoolInfo_self]
  simp [State.view, PoolView.claimable, PoolView.reward, PoolView.share, PoolView.totalShares,
    PoolView.withdrawn, hentry, hinfo, claimIn]
  cases poolInfo.rewards c <;> rfl

end Claim

/-! ## Joining a pool -/

section Inflation

variable {share totalReward totalShares withdrawn totalWithdrawn addAmount : Nat}

theorem claim_of_inflation (hS : 0 < totalShares) (hshare : share ≤ totalShares) :
    let inflation := addAmount * totalReward / totalShares
    min (share * (totalReward + inflation) / (totalShares + addAmount) - withdrawn)
        (totalReward + inflation - (totalWithdrawn + inflation)) ≤
      min (share * totalReward / totalShares - withdrawn) (totalReward - totalWithdrawn) ∧
    min (share * totalReward / totalShares - withdrawn) (totalReward - totalWithdrawn) ≤
      min (share * (totalReward + inflation) / (totalShares + addAmount) - withdrawn)
        (totalReward + inflation - (totalWithdrawn + inflation)) + 1 := by
  dsimp only
  have hle := Proportion.inflated_le share totalReward totalShares addAmount hS
  have hge := Proportion.le_inflated_add_one share totalReward totalShares addAmount hS (by omega)
  omega

theorem claim_of_joined (hS : 0 < totalShares) :
    let inflation := addAmount * totalReward / totalShares
    min ((share + addAmount) * (totalReward + inflation) / (totalShares + addAmount) - (withdrawn + inflation))
        (totalReward + inflation - (totalWithdrawn + inflation)) ≤
      min (share * totalReward / totalShares - withdrawn) (totalReward - totalWithdrawn) + 1 := by
  dsimp only
  have hle := Proportion.joined_le share totalReward totalShares addAmount hS
  omega

theorem claim_of_newcomer (hS : 0 < totalShares) :
    let inflation := addAmount * totalReward / totalShares
    min (addAmount * (totalReward + inflation) / (totalShares + addAmount) - (withdrawn + inflation))
        (totalReward + inflation - (totalWithdrawn + inflation)) = 0 := by
  dsimp only
  have hle := Proportion.charged_le totalReward totalShares addAmount hS
  omega

end Inflation

section AddShare

variable [DecidableEq PoolId] [DecidableEq AccountId] (T : Config PoolId) (s : State PoolId AccountId CurrencyId)
  (who : AccountId) (pool : PoolId) (addAmount : Nat)

/-- `add_share` in a pool with shares, where no account holds more than the
pool, `who` has withdrawn at most the pool's withdrawn total, and neither the
total shares nor a total reward with its inflation saturates: `who` can claim
at most one unit more than before, and nothing if it held no share; every
other account can claim no more than before, and at most one unit less. -/
theorem addShare_claimable (hcov : Covered (s.view pool)) (hpos : 0 < (s.view pool).totalShares)
    (hshares : ∀ who', (s.view pool).share who' ≤ (s.view pool).totalShares)
    (hwithdrawn : ∀ c, (s.view pool).withdrawn c who ≤ (s.view pool).totalWithdrawn c)
    (hfit : (s.view pool).totalShares + addAmount < 2 ^ 128)
    (hfitReward : ∀ c tr tw, (s.view pool).reward c = some (tr, tw) →
      tr + addAmount * tr / (s.view pool).totalShares < 2 ^ 128) (c : CurrencyId) :
    let v := s.view pool
    let v' := (addShare T s who pool addAmount).2.view pool
    v'.claimable c who ≤ v.claimable c who + 1 ∧ (v.share who = 0 → v'.claimable c who = 0) ∧
      ∀ who', who' ≠ who → v'.claimable c who' ≤ v.claimable c who' ∧
        v.claimable c who' ≤ v'.claimable c who' + 1 := by
  dsimp only
  rcases addShare_spec T s who pool addAmount with e | ⟨-, hts, hreward, hshare, hwd, -, hother, -, -⟩
  · -- nothing changed
    rw [e]
    exact ⟨by omega, fun h0 => PoolView.claimable_of_share_eq_zero h0 c, fun _ _ => ⟨le_rfl, by omega⟩⟩
  set v := s.view pool
  set v' := (addShare T s who pool addAmount).2.view pool
  have hS' : v'.totalShares = v.totalShares + addAmount := by rw [hts, Balance.saturatingAdd_eq hfit]
  have hsharewho : v'.share who = v.share who + addAmount := by
    have := hshares who
    rw [hshare, Balance.saturatingAdd_eq (by omega)]
  have hentry : ∀ who', who' ≠ who → v'.share who' = v.share who' ∧ v'.withdrawn c who' = v.withdrawn c who' :=
    fun who' hne => by simp only [PoolView.share, PoolView.withdrawn, hother who' hne, and_self]
  cases hc : v.reward c with
  | none =>
      have hc' : v'.reward c = none := by rw [hreward, hc]; rfl
      simp [PoolView.claimable_of_reward_none hc, PoolView.claimable_of_reward_none hc']
  | some r =>
      obtain ⟨tr, tw⟩ := r
      obtain ⟨htw, htr⟩ := hcov.reward_le c tr tw hc
      have hfitc := hfitReward c tr tw hc
      have hw : v.withdrawn c who ≤ tw := by simpa [PoolView.totalWithdrawn, hc] using hwithdrawn c
      have hx : rewardInflation addAmount tr v.totalShares = addAmount * tr / v.totalShares :=
        rewardInflation_eq (U256.mul_lt_of_lt (by omega) htr) (by omega)
      have hc' : v'.reward c = some (tr + addAmount * tr / v.totalShares, tw + addAmount * tr / v.totalShares) := by
        rw [hreward, hc]
        simp only [Option.map_some, hx, Balance.saturatingAdd_eq hfitc,
          Balance.saturatingAdd_eq (show tw + addAmount * tr / v.totalShares < 2 ^ 128 by omega)]
      have hwho : v'.withdrawn c who = v.withdrawn c who + addAmount * tr / v.totalShares := by
        rw [hwd c, hc]
        simp only [Option.map_some, Option.getD_some, hx,
          Balance.saturatingAdd_eq (show v.withdrawn c who + addAmount * tr / v.totalShares < 2 ^ 128 by omega)]
      have hclaim := fun who' => PoolView.claimable_eq hc (hshares who') hcov.totalShares_lt htr
      have hclaim' := fun who' (h : v'.share who' ≤ v'.totalShares) =>
        PoolView.claimable_eq hc' h (by omega) hfitc
      have hwhoshare := hshares who
      refine ⟨?_, fun h0 => ?_, fun who' hne => ?_⟩
      · rw [hclaim who, hclaim' who (by omega), hsharewho, hwho, hS']
        exact claim_of_joined hpos
      · rw [hclaim' who (by omega), hsharewho, hwho, hS', h0, Nat.zero_add]
        exact claim_of_newcomer hpos
      · obtain ⟨hs', hw'⟩ := hentry who' hne
        have hshare' := hshares who'
        rw [hclaim who', hclaim' who' (by omega), hs', hw', hS']
        exact claim_of_inflation hpos (hshares who')

end AddShare

section Transfer

variable [DecidableEq PoolId] [DecidableEq AccountId] (T : Config PoolId) (s : State PoolId AccountId CurrencyId)
  (who : AccountId) (pool : PoolId) (moveShare : Nat) (other : AccountId)

theorem transferShareAndRewards_claimable_of_ne {who' : AccountId} (hwho : who' ≠ who) (hother : who' ≠ other)
    (c : CurrencyId) :
    ((transferShareAndRewards T s who pool moveShare other).2.view pool).claimable c who' =
      (s.view pool).claimable c who' := by
  rcases transferShareAndRewards_spec T s who pool moveShare other with e | ⟨-, -, -, -, -, -, hinfo, -, -, hentries, -⟩
  · rw [e]
  · exact PoolView.claimable_congr hinfo (hentries who' hwho hother) c

end Transfer

section Fairness

variable [DecidableEq PoolId] [DecidableEq AccountId] (T : Config PoolId) (s : State PoolId AccountId CurrencyId)
  (who : AccountId) (pool : PoolId) (addAmount : Nat)

/-- In a pool with shares, where no account holds more than the pool, `who`
has withdrawn at most the pool's withdrawn total, and neither the total shares
nor any total reward with its inflation saturates: after `add_share` by `who`,
`who` can claim at most one unit more than before in each currency, and
nothing if it held no share, and every other account can claim no more than
before and at most one unit less; and `transfer_share_and_rewards` from `who`
changes no third account's claim. -/
theorem joining_pool_keeps_claims_within_one_unit (hcov : Covered (s.view pool))
    (hpos : 0 < (s.view pool).totalShares)
    (hshares : ∀ who', (s.view pool).share who' ≤ (s.view pool).totalShares)
    (hwithdrawn : ∀ c, (s.view pool).withdrawn c who ≤ (s.view pool).totalWithdrawn c)
    (hfit : (s.view pool).totalShares + addAmount < 2 ^ 128)
    (hfitReward : ∀ c tr tw, (s.view pool).reward c = some (tr, tw) →
      tr + addAmount * tr / (s.view pool).totalShares < 2 ^ 128) :
    (∀ c, let v := s.view pool
      let v' := (addShare T s who pool addAmount).2.view pool
      v'.claimable c who ≤ v.claimable c who + 1 ∧ (v.share who = 0 → v'.claimable c who = 0) ∧
        ∀ who', who' ≠ who → v'.claimable c who' ≤ v.claimable c who' ∧
          v.claimable c who' ≤ v'.claimable c who' + 1) ∧
    ∀ moveShare other who' c, who' ≠ who → who' ≠ other →
      ((transferShareAndRewards T s who pool moveShare other).2.view pool).claimable c who' =
        (s.view pool).claimable c who' :=
  ⟨addShare_claimable T s who pool addAmount hcov hpos hshares hwithdrawn hfit hfitReward,
    fun moveShare other _ c hwho hother =>
      transferShareAndRewards_claimable_of_ne T s who pool moveShare other hwho hother c⟩

theorem joining_pool_keeps_claims_within_one_unit_reference :
    let s := (system Reference.rewardsConfig).run State.empty (Reference.sharingCalls.take 2)
    Covered (s.view ()) ∧ 0 < (s.view ()).totalShares ∧
    (∀ who', (s.view ()).share who' ≤ (s.view ()).totalShares) ∧
    (∀ c, (s.view ()).withdrawn c false ≤ (s.view ()).totalWithdrawn c) ∧
    (s.view ()).totalShares + 50 < 2 ^ 128 ∧
    (∀ c tr tw, (s.view ()).reward c = some (tr, tw) → tr + 50 * tr / (s.view ()).totalShares < 2 ^ 128) ∧
    (∀ c, let v := s.view ()
      let v' := (addShare Reference.rewardsConfig s false () 50).2.view ()
      v'.claimable c false ≤ v.claimable c false + 1 ∧ (v.share false = 0 → v'.claimable c false = 0) ∧
        ∀ who', who' ≠ false → v'.claimable c who' ≤ v.claimable c who' ∧
          v.claimable c who' ≤ v'.claimable c who' + 1) := by
  intro s
  have hcov : Covered (s.view ()) :=
    covered_invariant Reference.rewardsConfig _ ((Transition.Reachable.init rfl).run _) ()
  have hpos : 0 < (s.view ()).totalShares := by decide
  have hbound : ∀ k p, Bounded (((system Reference.rewardsConfig).run State.empty
      ((Reference.sharingCalls.take 2).take k)).view p) := by
    intro k ⟨⟩
    unfold Bounded Reference.sharingCalls
    rcases k with _ | _ | _ | k <;> simp only [List.take_succ_cons, List.take_zero, List.take_nil] <;> decide
  obtain ⟨hshares, hwithdrawn'⟩ :=
    run_share_le_totalShares Reference.rewardsConfig (Reference.sharingCalls.take 2) hbound ()
  have hwithdrawn : ∀ c, (s.view ()).withdrawn c false ≤ (s.view ()).totalWithdrawn c :=
    fun c => hwithdrawn' c false
  have hfit : (s.view ()).totalShares + 50 < 2 ^ 128 := by decide
  have hfitReward : ∀ c tr tw, (s.view ()).reward c = some (tr, tw) →
      tr + 50 * tr / (s.view ()).totalShares < 2 ^ 128 := by
    rintro ⟨⟩ tr tw h
    have hr : (s.view ()).reward () = some (60, 0) := by decide
    rw [hr, Option.some.injEq, Prod.mk.injEq] at h
    obtain ⟨rfl, rfl⟩ := h
    decide
  exact ⟨hcov, hpos, hshares, hwithdrawn, hfit, hfitReward,
    (joining_pool_keeps_claims_within_one_unit Reference.rewardsConfig s false () 50 hcov hpos hshares hwithdrawn
      hfit hfitReward).1⟩

end Fairness

namespace Reference

/-- Three accounts join a pool with 700, 9 and 8 shares, and 351 is accumulated. -/
def removalCalls : List (Call Unit (Fin 4) Unit) :=
  [.addShare 0 () 700, .addShare 1 () 9, .addShare 3 () 8, .accumulateReward () () 351]

end Reference

/-- Taking shares out of a pool can raise a third account's claim by two
units: account 3 removes 5 of its 8 shares, which claims its 3 and then takes
only 1 of them out of the totals, and account 0's claim goes from 342 to 344. -/
theorem removeShare_raises_third_claim :
    let s := (system Reference.rewardsConfig).run State.empty Reference.removalCalls
    ((s.view ()).claimable () 0, ((removeShare Reference.rewardsConfig s 3 () 5).2.view ()).claimable () 0) =
      (342, 344) := by
  decide

end Setheum.Rewards
