import Setheum.DexOracle.Average

/-!
# Runs of the DEX oracle

Over every run each pair's bookkeeping stays in order. An enabled pair's
cumulative was last extended no earlier than its last average and no later
than now, and each cumulative lies between the value the last average started
from and `2 ^ 256`; so the `saturating_sub` of `on_initialize` takes the exact
growth of each cumulative, and `saturating_add` never caps it below what was
recorded. A disabled pair's cumulative is the zero default, as
`disable_average_price` leaves it and `enable_average_price` expects it.
-/

namespace Setheum.DexOracle

open Result Transition

/-- The cumulative of an enabled pair against its average, at time `now`. -/
structure Tracks (c : Cumulative) (a : AveragePrice) (now : Nat) : Prop where
  price_time_le : a.lastUpdatePriceTime ≤ c.lastCumulativeTimestamp
  time_le : c.lastCumulativeTimestamp ≤ now
  last0_le : a.lastCumulative0 ≤ c.cumulative0
  last1_le : a.lastCumulative1 ≤ c.cumulative1
  lt0 : c.cumulative0 < 2 ^ 256
  lt1 : c.cumulative1 < 2 ^ 256

/-- Every pair's bookkeeping is in order. -/
structure Sound (s : State) : Prop where
  enabled : ∀ pair a, s.averagePrices pair = some a → Tracks (s.cumulatives pair) a s.now
  disabled : ∀ pair, s.averagePrices pair = none → s.cumulatives pair = default

variable {s s' : State} {pair : TradingPair} {c : Cumulative} {a : AveragePrice} {now : Nat}

/-! ## One cumulative -/

theorem Tracks.mono (h : Tracks c a now) {now' : Nat} (hle : now ≤ now') : Tracks c a now' :=
  { h with time_le := h.time_le.trans hle }

theorem le_saturatingAdd {x : Nat} (hx : x < 2 ^ 256) (y : Nat) : x ≤ U256.saturatingAdd x y := by
  unfold U256.saturatingAdd
  omega

theorem saturatingAdd_lt (x y : Nat) : U256.saturatingAdd x y < 2 ^ 256 := by
  unfold U256.saturatingAdd
  omega

theorem Tracks.extend (h : Tracks c a now) (inc0 inc1 : Nat) :
    Tracks ⟨U256.saturatingAdd c.cumulative0 inc0, U256.saturatingAdd c.cumulative1 inc1, now⟩ a now where
  price_time_le := h.price_time_le.trans h.time_le
  time_le := le_rfl
  last0_le := h.last0_le.trans (le_saturatingAdd h.lt0 inc0)
  last1_le := h.last1_le.trans (le_saturatingAdd h.lt1 inc1)
  lt0 := saturatingAdd_lt _ _
  lt1 := saturatingAdd_lt _ _

theorem tracks_tryUpdateCumulative (ha : s.averagePrices pair = some a)
    (h : Tracks (s.cumulatives pair) a s.now) (pool0 pool1 : Nat) :
    Tracks ((tryUpdateCumulative pair pool0 pool1 s).cumulatives pair) a s.now ∧
      ((tryUpdateCumulative pair pool0 pool1 s).cumulatives pair).lastCumulativeTimestamp = s.now := by
  unfold tryUpdateCumulative
  rw [if_pos (by rw [ha]; rfl)]
  dsimp only
  split_ifs with hnow
  · rw [State.setCumulative_cumulatives, Function.update_self]
    exact ⟨h.extend _ _, rfl⟩
  · -- extended already at this timestamp
    exact ⟨h, not_not.1 hnow⟩

theorem tryUpdateCumulative_of_none (ha : s.averagePrices pair = none) (pool0 pool1 : Nat) :
    tryUpdateCumulative pair pool0 pool1 s = s := by
  unfold tryUpdateCumulative
  rw [if_neg (by rw [ha]; exact Bool.false_ne_true)]

/-! ## Every call -/

variable (pair) in
theorem Sound.update (h : Sound s) {s' : State} (hnow : s.now ≤ s'.now)
    (hcum : ∀ q, q ≠ pair → s'.cumulatives q = s.cumulatives q)
    (havg : ∀ q, q ≠ pair → s'.averagePrices q = s.averagePrices q)
    (henabled : ∀ a, s'.averagePrices pair = some a → Tracks (s'.cumulatives pair) a s'.now)
    (hdisabled : s'.averagePrices pair = none → s'.cumulatives pair = default) : Sound s' := by
  refine ⟨fun q b hb => ?_, fun q hq => ?_⟩
  · by_cases hq : q = pair
    · exact hq ▸ henabled b (hq ▸ hb)
    · rw [havg q hq] at hb
      rw [hcum q hq]
      exact (h.enabled q b hb).mono hnow
  · by_cases hqp : q = pair
    · exact hqp ▸ hdisabled (hqp ▸ hq)
    · rw [havg q hqp] at hq
      rw [hcum q hqp]
      exact h.disabled q hq

theorem Sound.tryUpdateCumulative (h : Sound s) (pool0 pool1 : Nat) :
    Sound (tryUpdateCumulative pair pool0 pool1 s) := by
  cases ha : s.averagePrices pair with
  | none => rw [tryUpdateCumulative_of_none ha]; exact h
  | some a =>
      have ht := tracks_tryUpdateCumulative ha (h.enabled pair a ha) pool0 pool1
      refine h.update pair (by rw [tryUpdateCumulative_now]) (fun q hq => ?_) (fun q _ => ?_)
        (fun b hb => ?_) (fun hn => ?_)
      · rw [tryUpdateCumulative_eq, State.setCumulative_cumulatives, Function.update_of_ne hq]
      · rw [tryUpdateCumulative_averagePrices]
      · rw [tryUpdateCumulative_averagePrices, ha, Option.some_inj] at hb
        rw [← hb, tryUpdateCumulative_now]
        exact ht.1
      · rw [tryUpdateCumulative_averagePrices, ha] at hn
        cases hn

theorem Sound.liquidityPoolUpdated (h : Sound s) (pool0 pool1 : Nat) :
    Sound (liquidityPoolUpdated pair pool0 pool1 s) := by
  -- the pool itself is read by no field of the invariant
  have hpool : Sound { s with liquidityPool := Function.update s.liquidityPool pair (pool0, pool1) } :=
    ⟨h.enabled, h.disabled⟩
  unfold DexOracle.liquidityPoolUpdated happened
  dsimp only
  split_ifs
  · exact hpool.tryUpdateCumulative pool0 pool1
  · exact hpool

theorem Sound.tick (h : Sound s) (d : Nat) : Sound { s with now := s.now + d } :=
  ⟨fun q b hb => (h.enabled q b hb).mono (Nat.le_add_right _ _), h.disabled⟩

theorem tracks_onInitializePair (h : Sound s) (pair : TradingPair) :
    (∀ b, (onInitializePair pair s).2 = some b → Tracks (onInitializePair pair s).1 b s.now) ∧
      ((onInitializePair pair s).2 = none → (onInitializePair pair s).1 = default) := by
  unfold onInitializePair
  cases ha : s.averagePrices pair with
  | none =>
      dsimp only
      exact ⟨fun b hb => (by cases hb), fun _ => h.disabled pair ha⟩
  | some a =>
      dsimp only
      split_ifs with hdue
      · obtain ⟨ht, hts⟩ := tracks_tryUpdateCumulative ha (h.enabled pair a ha)
          (s.liquidityPool pair).1 (s.liquidityPool pair).2
        refine ⟨fun b hb => ?_, fun hn => ?_⟩
        · simp only [updateAveragePrice, State.setAveragePrice_averagePrices, Function.update_self,
            Option.some_inj, State.setAveragePrice_cumulatives, tryUpdateCumulative_now] at hb ⊢
          rw [← hb]
          exact ⟨hts.ge, ht.time_le, le_rfl, le_rfl, ht.lt0, ht.lt1⟩
        · simp only [updateAveragePrice, State.setAveragePrice_averagePrices, Function.update_self,
            reduceCtorEq] at hn
      · refine ⟨fun b hb => ?_, fun hn => by cases hn⟩
        rw [Option.some_inj] at hb
        exact hb ▸ h.enabled pair a ha

theorem Sound.onInitialize (h : Sound s) : Sound (onInitialize s) :=
  ⟨fun q b hb => (tracks_onInitializePair h q).1 b hb, fun q hq => (tracks_onInitializePair h q).2 hq⟩

theorem Sound.enableAveragePrice (h : Sound s) {currencyIdA currencyIdB : CurrencyId} {interval : Nat}
    (hr : enableAveragePrice currencyIdA currencyIdB interval s = .ok s') : Sound s' := by
  unfold DexOracle.enableAveragePrice at hr
  simp only [bind_eq_ok, okOr_eq_ok, ensure_eq_ok] at hr
  obtain ⟨pair, -, _, -, hr⟩ := hr
  split at hr
  · cases hr
  · obtain ⟨⟨price0, price1⟩, -, hr⟩ := bind_eq_ok.1 hr
    rw [pure_eq_ok] at hr
    subst hr
    refine h.update pair le_rfl (fun q hq => ?_) (fun q hq => ?_) (fun b hb => ?_) (fun hn => ?_)
    · simp only [State.setCumulative_cumulatives, State.setAveragePrice_cumulatives, Function.update_of_ne hq]
    · simp only [State.setCumulative_averagePrices, State.setAveragePrice_averagePrices,
        Function.update_of_ne hq]
    · -- both cumulatives start at zero, at the time of the average
      simp only [State.setCumulative_averagePrices, State.setAveragePrice_averagePrices, Function.update_self,
        Option.some_inj] at hb
      subst hb
      simp only [State.setCumulative_cumulatives, Function.update_self, State.setCumulative_now,
        State.setAveragePrice_now]
      exact ⟨le_rfl, le_rfl, le_rfl, le_rfl, by norm_num, by norm_num⟩
    · simp only [State.setCumulative_averagePrices, State.setAveragePrice_averagePrices, Function.update_self,
        reduceCtorEq] at hn

theorem Sound.disableAveragePrice (h : Sound s) {currencyIdA currencyIdB : CurrencyId}
    (hr : disableAveragePrice currencyIdA currencyIdB s = .ok s') : Sound s' := by
  unfold DexOracle.disableAveragePrice at hr
  simp only [bind_eq_ok, okOr_eq_ok, pure_eq_ok] at hr
  obtain ⟨pair, -, _, -, rfl⟩ := hr
  refine h.update pair le_rfl (fun q hq => ?_) (fun q hq => ?_) (fun b hb => ?_) (fun _ => ?_)
  · simp only [State.setCumulative_cumulatives, State.setAveragePrice_cumulatives, Function.update_of_ne hq]
  · simp only [State.setCumulative_averagePrices, State.setAveragePrice_averagePrices,
      Function.update_of_ne hq]
  · simp only [State.setCumulative_averagePrices, State.setAveragePrice_averagePrices, Function.update_self,
      reduceCtorEq] at hb
  · simp only [State.setCumulative_cumulatives, Function.update_self]

theorem Sound.updateAveragePriceInterval (h : Sound s) {currencyIdA currencyIdB : CurrencyId}
    {newInterval : Nat} (hr : updateAveragePriceInterval currencyIdA currencyIdB newInterval s = .ok s') :
    Sound s' := by
  unfold DexOracle.updateAveragePriceInterval at hr
  simp only [bind_eq_ok, okOr_eq_ok] at hr
  obtain ⟨pair, -, a, ha, hr⟩ := hr
  split at hr
  · cases hr
  · rw [pure_eq_ok] at hr
    subst hr
    refine h.update pair le_rfl (fun q _ => rfl) (fun q hq => ?_) (fun b hb => ?_) (fun hn => ?_)
    · simp only [State.setAveragePrice_averagePrices, Function.update_of_ne hq]
    · -- only the interval changes, which the invariant does not read
      simp only [State.setAveragePrice_averagePrices, Function.update_self, Option.some_inj] at hb
      subst hb
      have ht := h.enabled pair a ha
      exact ⟨ht.price_time_le, ht.time_le, ht.last0_le, ht.last1_le, ht.lt0, ht.lt1⟩
    · simp only [State.setAveragePrice_averagePrices, Function.update_self, reduceCtorEq] at hn

theorem Sound.dispatch (h : Sound s) {call : Call} (hr : DexOracle.dispatch s call = .ok s') : Sound s' := by
  cases call with
  | enableAveragePrice a b interval => exact h.enableAveragePrice hr
  | disableAveragePrice a b => exact h.disableAveragePrice hr
  | updateAveragePriceInterval a b newInterval => exact h.updateAveragePriceInterval hr
  | liquidityPoolUpdated pair pool0 pool1 =>
      rw [DexOracle.dispatch, pure_eq_ok] at hr
      exact hr ▸ h.liquidityPoolUpdated pool0 pool1
  | onInitialize =>
      rw [DexOracle.dispatch, pure_eq_ok] at hr
      exact hr ▸ h.onInitialize
  | tick d =>
      rw [DexOracle.dispatch, pure_eq_ok] at hr
      exact hr ▸ h.tick d

theorem Sound.init (hs : system.init s) : Sound s := by
  obtain ⟨hc, ha⟩ := hs
  refine ⟨fun pair a hp => ?_, fun pair _ => by rw [hc]⟩
  rw [ha] at hp
  cases hp

theorem sound_reachable : Invariant system Sound :=
  invariant_of_inductive _ (fun _ hs => Sound.init hs) fun _ _ _ h hstep => h.dispatch (toOption_eq_some.1 hstep)

/-- In every state the DEX oracle reaches, an enabled pair's cumulative was
last extended no earlier than its last average and no later than now, and
each cumulative lies between the value its last average started from and
`2 ^ 256`, so `on_initialize` averages the exact growth; a disabled pair's
cumulative is the zero default. -/
theorem cumulatives_track_averages (hs : Reachable system s) (pair : TradingPair) :
    (∀ a, s.averagePrices pair = some a →
      a.lastUpdatePriceTime ≤ (s.cumulatives pair).lastCumulativeTimestamp ∧
        (s.cumulatives pair).lastCumulativeTimestamp ≤ s.now ∧
        a.lastCumulative0 ≤ (s.cumulatives pair).cumulative0 ∧ (s.cumulatives pair).cumulative0 < 2 ^ 256 ∧
        a.lastCumulative1 ≤ (s.cumulatives pair).cumulative1 ∧ (s.cumulatives pair).cumulative1 < 2 ^ 256) ∧
      (s.averagePrices pair = none → s.cumulatives pair = default) := by
  have h := sound_reachable s hs
  refine ⟨fun a ha => ?_, h.disabled pair⟩
  have ht := h.enabled pair a ha
  exact ⟨ht.price_time_le, ht.time_le, ht.last0_le, ht.lt0, ht.last1_le, ht.lt1⟩

namespace Reference

/-- The reference run of the averaging claim: enabled at time 0, a swap
reported at 99, and the average taken at 100. -/
def averaged : State :=
  system.run enabled [.tick 99, .liquidityPoolUpdated seuSeusd 2000 500, .tick 1, .onInitialize]

/-- After the reference run, SEU/SEUSD's cumulative is on track. -/
theorem averaged_cumulatives_track :
    (∀ a, averaged.averagePrices seuSeusd = some a →
      a.lastUpdatePriceTime ≤ (averaged.cumulatives seuSeusd).lastCumulativeTimestamp ∧
        (averaged.cumulatives seuSeusd).lastCumulativeTimestamp ≤ averaged.now ∧
        a.lastCumulative0 ≤ (averaged.cumulatives seuSeusd).cumulative0 ∧
        (averaged.cumulatives seuSeusd).cumulative0 < 2 ^ 256 ∧
        a.lastCumulative1 ≤ (averaged.cumulatives seuSeusd).cumulative1 ∧
        (averaged.cumulatives seuSeusd).cumulative1 < 2 ^ 256) ∧
      (averaged.averagePrices seuSeusd = none → averaged.cumulatives seuSeusd = default) :=
  cumulatives_track_averages
    (((Reachable.init (show system.init genesisState from ⟨rfl, rfl⟩)).run _).run _) seuSeusd

end Reference

end Setheum.DexOracle
