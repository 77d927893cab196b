import Setheum.DexOracle.Pallet

/-!
# What the average price averages

`try_update_cumulative` multiplies the price of the pool it is given by the
time since the cumulative was last extended. The DEX gives it the pool after
a change, so the interval before the change, during which the old pool was
quoted, is counted at the new pool's price. Over one averaging interval in
which the pool changes once, the stored average is the new pool's price,
whatever the old pool was and however late the change came.
-/

namespace Setheum.DexOracle

open Transition

theorem rateInner_lt (n d : Nat) : rateInner n d < 2 ^ 128 :=
  ((FixedU128.checkedFromRational n d).getD default).inner_lt

theorem saturatedIntoU128_eq {a : Nat} (h : a < 2 ^ 128) : saturatedIntoU128 a = a := by
  unfold saturatedIntoU128
  omega

/-! ## The cumulative -/

variable {s : State} {pair : TradingPair}

/-- The cumulative of a pair after `try_update_cumulative` with a pool, from
an extension at or before now, when nothing saturates: each cumulative has
grown by the pool's price times the time since the last extension. -/
theorem tryUpdateCumulative_cumulative {pool0 pool1 : Nat}
    (henabled : (s.averagePrices pair).isSome)
    (hle : (s.cumulatives pair).lastCumulativeTimestamp ≤ s.now)
    (hfit0 : (s.cumulatives pair).cumulative0 +
      rateInner pool1 pool0 * (s.now - (s.cumulatives pair).lastCumulativeTimestamp) < 2 ^ 256)
    (hfit1 : (s.cumulatives pair).cumulative1 +
      rateInner pool0 pool1 * (s.now - (s.cumulatives pair).lastCumulativeTimestamp) < 2 ^ 256) :
    (tryUpdateCumulative pair pool0 pool1 s).cumulatives pair =
      ⟨(s.cumulatives pair).cumulative0 +
          rateInner pool1 pool0 * (s.now - (s.cumulatives pair).lastCumulativeTimestamp),
        (s.cumulatives pair).cumulative1 +
          rateInner pool0 pool1 * (s.now - (s.cumulatives pair).lastCumulativeTimestamp),
        s.now⟩ := by
  rcases hc : s.cumulatives pair with ⟨c0, c1, last⟩
  simp only [hc] at hle hfit0 hfit1
  unfold tryUpdateCumulative
  simp only [if_pos henabled, hc]
  by_cases hnow : last = s.now
  · -- extended already at this timestamp: nothing changes, and no time has passed
    subst hnow
    simp [hc]
  · have hmul0 : rateInner pool1 pool0 * (s.now - last) < 2 ^ 256 := by omega
    have hmul1 : rateInner pool0 pool1 * (s.now - last) < 2 ^ 256 := by omega
    simp only [ne_eq, hnow, not_false_eq_true, if_true, State.setCumulative_cumulatives,
      Function.update_self]
    rw [U256.saturatingMul_eq hmul0, U256.saturatingMul_eq hmul1, U256.saturatingAdd_eq hfit0,
      U256.saturatingAdd_eq hfit1]

theorem tryUpdateCumulative_eq (pool0 pool1 : Nat) :
    tryUpdateCumulative pair pool0 pool1 s =
      s.setCumulative pair ((tryUpdateCumulative pair pool0 pool1 s).cumulatives pair) := by
  unfold tryUpdateCumulative
  dsimp only
  split_ifs <;> simp [State.setCumulative]

@[simp] theorem tryUpdateCumulative_averagePrices (pool0 pool1 : Nat) :
    (tryUpdateCumulative pair pool0 pool1 s).averagePrices = s.averagePrices := by
  rw [tryUpdateCumulative_eq]
  rfl

@[simp] theorem tryUpdateCumulative_liquidityPool (pool0 pool1 : Nat) :
    (tryUpdateCumulative pair pool0 pool1 s).liquidityPool = s.liquidityPool := by
  rw [tryUpdateCumulative_eq]
  rfl

@[simp] theorem tryUpdateCumulative_now (pool0 pool1 : Nat) :
    (tryUpdateCumulative pair pool0 pool1 s).now = s.now := by
  rw [tryUpdateCumulative_eq]
  rfl

/-! ## The DEX's report -/

@[simp] theorem liquidityPoolUpdated_averagePrices (pool0 pool1 : Nat) :
    (liquidityPoolUpdated pair pool0 pool1 s).averagePrices = s.averagePrices := by
  unfold liquidityPoolUpdated happened
  dsimp only
  split_ifs <;> simp

@[simp] theorem liquidityPoolUpdated_liquidityPool (pool0 pool1 : Nat) :
    (liquidityPoolUpdated pair pool0 pool1 s).liquidityPool =
      Function.update s.liquidityPool pair (pool0, pool1) := by
  unfold liquidityPoolUpdated happened
  dsimp only
  split_ifs <;> simp

@[simp] theorem liquidityPoolUpdated_now (pool0 pool1 : Nat) :
    (liquidityPoolUpdated pair pool0 pool1 s).now = s.now := by
  unfold liquidityPoolUpdated happened
  dsimp only
  split_ifs <;> simp

/-- After the DEX reports a pool, the pair's cumulative was extended, at the
reported pool's price, up to some time between its last extension and now:
now if the pool changed, not at all if it did not. -/
theorem liquidityPoolUpdated_cumulative {pool0 pool1 : Nat}
    (henabled : (s.averagePrices pair).isSome)
    (hle : (s.cumulatives pair).lastCumulativeTimestamp ≤ s.now)
    (hfit0 : (s.cumulatives pair).cumulative0 +
      rateInner pool1 pool0 * (s.now - (s.cumulatives pair).lastCumulativeTimestamp) < 2 ^ 256)
    (hfit1 : (s.cumulatives pair).cumulative1 +
      rateInner pool0 pool1 * (s.now - (s.cumulatives pair).lastCumulativeTimestamp) < 2 ^ 256) :
    ∃ t, (s.cumulatives pair).lastCumulativeTimestamp ≤ t ∧ t ≤ s.now ∧
      (liquidityPoolUpdated pair pool0 pool1 s).cumulatives pair =
        ⟨(s.cumulatives pair).cumulative0 +
            rateInner pool1 pool0 * (t - (s.cumulatives pair).lastCumulativeTimestamp),
          (s.cumulatives pair).cumulative1 +
            rateInner pool0 pool1 * (t - (s.cumulatives pair).lastCumulativeTimestamp), t⟩ := by
  unfold liquidityPoolUpdated happened
  dsimp only
  split_ifs
  · -- the pool changed: the hook extends the cumulative up to now
    exact ⟨s.now, hle, le_rfl, tryUpdateCumulative_cumulative henabled hle hfit0 hfit1⟩
  · exact ⟨(s.cumulatives pair).lastCumulativeTimestamp, le_rfl, hle, by simp⟩

/-! ## The average -/

/-- The prices `on_initialize` stores for a pair whose interval has passed:
the growth of each cumulative, after its extension with the current pool,
over the time since the last average. -/
theorem onInitialize_prices {a : AveragePrice} {c : Cumulative}
    (henabled : s.averagePrices pair = some a)
    (hdue : a.updateInterval ≤ s.now - a.lastUpdatePriceTime)
    (hc : (tryUpdateCumulative pair (s.liquidityPool pair).1 (s.liquidityPool pair).2 s).cumulatives
      pair = c) :
    ((onInitialize s).averagePrices pair).map (fun a => (a.averagePrice0.inner, a.averagePrice1.inner)) =
      some (saturatedIntoU128 ((c.cumulative0 - a.lastCumulative0) / (s.now - a.lastUpdatePriceTime)),
        saturatedIntoU128 ((c.cumulative1 - a.lastCumulative1) / (s.now - a.lastUpdatePriceTime))) := by
  simp only [onInitialize, onInitializePair, henabled, if_pos hdue, updateAveragePrice, hc,
    State.setAveragePrice_averagePrices, Function.update_self, Option.map_some,
    tryUpdateCumulative_now]
  rfl

/-- Over one averaging interval from a pair's last average, in which the DEX
reports the pool `(pool0, pool1)` after `d₁` and the average is taken `d₂`
later, the stored average is the price of `(pool0, pool1)`: the pool quoted
during the first `d₁` does not enter it. -/
theorem averagePrice_after_report {a : AveragePrice} {d₁ d₂ pool0 pool1 : Nat}
    (henabled : s.averagePrices pair = some a)
    (hsync : s.cumulatives pair = ⟨a.lastCumulative0, a.lastCumulative1, s.now⟩)
    (hnow : a.lastUpdatePriceTime = s.now) (hinterval : a.updateInterval ≤ d₁ + d₂)
    (hfit0 : a.lastCumulative0 + rateInner pool1 pool0 * (d₁ + d₂) < 2 ^ 256)
    (hfit1 : a.lastCumulative1 + rateInner pool0 pool1 * (d₁ + d₂) < 2 ^ 256) :
    ((system.run s [.tick d₁, .liquidityPoolUpdated pair pool0 pool1, .tick d₂, .onInitialize]).averagePrices
        pair).map (fun a => (a.averagePrice0.inner, a.averagePrice1.inner)) =
      some (rateInner pool1 pool0, rateInner pool0 pool1) := by
  have hrun : system.run s [.tick d₁, .liquidityPoolUpdated pair pool0 pool1, .tick d₂, .onInitialize] =
      onInitialize { liquidityPoolUpdated pair pool0 pool1 { s with now := s.now + d₁ } with
        now := (liquidityPoolUpdated pair pool0 pool1 { s with now := s.now + d₁ }).now + d₂ } := by
    rfl
  rw [hrun]
  have hpos : 0 < d₁ + d₂ := lt_of_lt_of_le a.updateInterval_pos hinterval
  let s₁ : State := { s with now := s.now + d₁ }
  have hnow₁ : s₁.now - s.now = d₁ := by simp [s₁]
  have hsync₁ : s₁.cumulatives pair = ⟨a.lastCumulative0, a.lastCumulative1, s.now⟩ := hsync
  have henabled₁ : (s₁.averagePrices pair).isSome := by simp [s₁, henabled]
  have hle₁ : (s₁.cumulatives pair).lastCumulativeTimestamp ≤ s₁.now := by
    rw [hsync₁]
    exact Nat.le_add_right _ _
  have hfit0₁ : a.lastCumulative0 + rateInner pool1 pool0 * d₁ < 2 ^ 256 :=
    lt_of_le_of_lt (Nat.add_le_add_left (Nat.mul_le_mul_left _ (Nat.le_add_right _ _)) _) hfit0
  have hfit1₁ : a.lastCumulative1 + rateInner pool0 pool1 * d₁ < 2 ^ 256 :=
    lt_of_le_of_lt (Nat.add_le_add_left (Nat.mul_le_mul_left _ (Nat.le_add_right _ _)) _) hfit1
  obtain ⟨t, ht₀, ht₁, hreport⟩ := @liquidityPoolUpdated_cumulative s₁ pair pool0 pool1 henabled₁
    hle₁ (by rwa [hsync₁, hnow₁]) (by rwa [hsync₁, hnow₁])
  rw [hsync₁] at hreport ht₀
  let s₃ : State := { liquidityPoolUpdated pair pool0 pool1 s₁ with
    now := (liquidityPoolUpdated pair pool0 pool1 s₁).now + d₂ }
  have hnow₃ : s₃.now = s.now + (d₁ + d₂) := by simp [s₃, s₁, Nat.add_assoc]
  have hcum₃ : s₃.cumulatives pair = ⟨a.lastCumulative0 + rateInner pool1 pool0 * (t - s.now),
      a.lastCumulative1 + rateInner pool0 pool1 * (t - s.now), t⟩ := hreport
  have hpool₃ : s₃.liquidityPool pair = (pool0, pool1) := by simp [s₃]
  have henabled₃ : s₃.averagePrices pair = some a := by simp [s₃, s₁, henabled]
  have hle₃ : (s₃.cumulatives pair).lastCumulativeTimestamp ≤ s₃.now := by
    rw [hcum₃, hnow₃]
    exact le_trans ht₁ (Nat.add_le_add_left (Nat.le_add_right _ _) _)
  -- the two extensions at one price add up to one over the whole interval
  have hsplit : ∀ r, r * (t - s.now) + r * (s₃.now - t) = r * (d₁ + d₂) := by
    intro r
    rw [← Nat.mul_add]
    congr 1
    have hlo : s.now ≤ t := ht₀
    have hhi : t ≤ s.now + d₁ := ht₁
    omega
  have hext : (tryUpdateCumulative pair (s₃.liquidityPool pair).1 (s₃.liquidityPool pair).2 s₃).cumulatives
      pair = ⟨a.lastCumulative0 + rateInner pool1 pool0 * (d₁ + d₂),
        a.lastCumulative1 + rateInner pool0 pool1 * (d₁ + d₂), s₃.now⟩ := by
    rw [hpool₃, @tryUpdateCumulative_cumulative s₃ pair pool0 pool1 (by simp [henabled₃]) hle₃
      (by rw [hcum₃]; dsimp only; rw [Nat.add_assoc, hsplit]; exact hfit0)
      (by rw [hcum₃]; dsimp only; rw [Nat.add_assoc, hsplit]; exact hfit1), hcum₃]
    dsimp only
    rw [Nat.add_assoc, Nat.add_assoc, hsplit, hsplit]
  rw [onInitialize_prices henabled₃ (by rw [hnow₃, hnow, Nat.add_sub_cancel_left]; exact hinterval) hext]
  dsimp only
  rw [hnow₃, hnow, Nat.add_sub_cancel_left, Nat.add_sub_cancel_left, Nat.add_sub_cancel_left,
    Nat.mul_div_cancel _ hpos, Nat.mul_div_cancel _ hpos, saturatedIntoU128_eq (rateInner_lt _ _),
    saturatedIntoU128_eq (rateInner_lt _ _)]

namespace Reference

def seuSeusd : TradingPair := ⟨.token .SEU, .token .SEUSD, by decide, rfl, rfl⟩

/-- At time 0 every pool holds 1000 against 1000, and no average is enabled. -/
def genesisState : State := ⟨fun _ => default, fun _ => none, fun _ => (1000, 1000), 0⟩

/-- The average of SEU/SEUSD enabled at time 0 with an interval of 100. -/
def enabled : State := system.run genesisState [.enableAveragePrice (.token .SEU) (.token .SEUSD) 100]

/-- The pool is 1000/1000 for 99 time units; a swap then leaves it at
2000/500, and the average taken one unit later is that pool's price, 0.25,
where the prices that prevailed average 0.9925. -/
theorem averagePrice_after_report_reference :
    Reachable system enabled ∧
      ((system.run enabled [.tick 99, .liquidityPoolUpdated seuSeusd 2000 500, .tick 1,
        .onInitialize]).averagePrices seuSeusd).map
          (fun a => (a.averagePrice0.inner, a.averagePrice1.inner)) =
        some (25 * 10 ^ 16, 4 * 10 ^ 18) := by
  have henabled : enabled.averagePrices seuSeusd =
      some ⟨FixedU128.one, FixedU128.one, 0, 0, 0, 100, by decide⟩ := by decide
  have hsync : enabled.cumulatives seuSeusd = ⟨0, 0, enabled.now⟩ := by decide
  have hnow : enabled.now = 0 := by decide
  have hinit : system.init genesisState := ⟨rfl, rfl⟩
  refine ⟨(Reachable.init hinit).run _, ?_⟩
  rw [averagePrice_after_report henabled hsync hnow.symm (by decide) (by decide)
    (by decide)]
  decide

end Reference

end Setheum.DexOracle
