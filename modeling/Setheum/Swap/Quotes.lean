import Setheum.Swap.Provisioning
import Setheum.Lib.ConstantProduct

/-!
# Quotes and their execution

`get_target_amounts` and `get_supply_amounts` quote every hop of a path
against the pools as they are before the swap; `_swap_by_path` then applies
the hops one after the other, each to pools the earlier hops may have moved.
When the hops use different trading pairs, every hop meets its pool as
quoted, and the constant-product facts of `ConstantProduct` show that the
quoted amounts pass `_swap`'s checks: the swap succeeds and pays, or charges,
exactly the quote. When a pair comes back along the path, a later hop meets
a pool an earlier hop has already moved, and the quote can fail the
invariant check; so can a backward quote whose numerator clamps in `U256`.
`get_swap_amount` and `swap_with_specific_path` of the `SwapManager` are
the quotes and the swaps under a `SwapLimit`. `swap-legacy`, deployed as the
runtime's Dex, has the same quotes and swaps up to formatting, and shares
this model.
-/

namespace Setheum.Swap

open Transition

variable {AccountId L : Type} (T : Config AccountId L)

/-- The trading pair of each hop of a path. -/
def hopPairs : List CurrencyId → List (Option TradingPair)
  | a :: b :: rest => TradingPair.fromCurrencyIds a b :: hopPairs (b :: rest)
  | _ => []

/-- Every hop stays within the `u128` pools of the source: the target side of
the hop's pool is a `u128`, and so is its supply side once the hop's supply
is added. -/
def HopsFit (s : State AccountId L) : List CurrencyId → List Nat → Prop
  | a :: b :: rest, x :: amounts =>
      (getLiquidity s a b).1 + x < 2 ^ 128 ∧ (getLiquidity s a b).2 < 2 ^ 128 ∧
        HopsFit s (b :: rest) amounts
  | _, _ => True

/-- No hop of a supply quote saturates `U256`: the product of the supply pool,
the hop's target amount and the fee denominator is below `2 ^ 256`. -/
def HopProductsFit (s : State AccountId L) : List CurrencyId → List Nat → Prop
  | a :: b :: rest, _ :: t :: amounts =>
      (getLiquidity s a b).1 * t * T.getExchangeFee.2 < 2 ^ 256 ∧
        HopProductsFit s (b :: rest) (t :: amounts)
  | _, _ => True

instance HopsFit.decidable (s : State AccountId L) :
    ∀ path amounts, Decidable (HopsFit s path amounts)
  | _ :: b :: rest, _ :: amounts =>
      haveI := HopsFit.decidable s (b :: rest) amounts
      inferInstanceAs (Decidable (_ ∧ _ ∧ _))
  | [], _ => isTrue trivial
  | [_], _ => isTrue trivial
  | _ :: _ :: _, [] => isTrue trivial

instance HopProductsFit.decidable (s : State AccountId L) :
    ∀ path amounts, Decidable (HopProductsFit T s path amounts)
  | _ :: b :: rest, _ :: t :: amounts =>
      haveI := HopProductsFit.decidable s (b :: rest) (t :: amounts)
      inferInstanceAs (Decidable (_ ∧ _))
  | [], _ => isTrue trivial
  | [_], _ => isTrue trivial
  | _ :: _ :: _, [] => isTrue trivial
  | _ :: _ :: _, [_] => isTrue trivial

/-- The hops of the quote `get_swap_amount` makes for `limit` stay within
`u128` pools, and under `ExactTarget` no hop's numerator saturates `U256`. -/
def QuoteFits (s : State AccountId L) (path : List CurrencyId) : SwapLimit → Prop
  | .exactSupply exactSupplyAmount _ =>
      ∀ amounts, getTargetAmounts T s path exactSupplyAmount = .ok amounts → HopsFit s path amounts
  | .exactTarget _ exactTargetAmount =>
      ∀ amounts, getSupplyAmounts T s path exactTargetAmount = .ok amounts →
        HopsFit s path amounts ∧ HopProductsFit T s path amounts

theorem getSwapAmount_exactSupply_eq {s : State AccountId L} {path : List CurrencyId}
    {exactSupplyAmount minimumTargetAmount : Nat} {quote : Nat × Nat}
    (h : getSwapAmount T s path (.exactSupply exactSupplyAmount minimumTargetAmount) = some quote) :
    ∃ amounts, getTargetAmounts T s path exactSupplyAmount = .ok amounts ∧
      minimumTargetAmount ≤ amounts.getLastD 0 ∧ quote = (exactSupplyAmount, amounts.getLastD 0) := by
  obtain ⟨amounts, hq, h⟩ := Option.bind_eq_some_iff.mp h
  split_ifs at h with hm
  cases h
  exact ⟨amounts, toOption_eq_some.1 hq, hm, rfl⟩

theorem getSwapAmount_exactTarget_eq {s : State AccountId L} {path : List CurrencyId}
    {maximumSupplyAmount exactTargetAmount : Nat} {quote : Nat × Nat}
    (h : getSwapAmount T s path (.exactTarget maximumSupplyAmount exactTargetAmount) = some quote) :
    ∃ amounts, getSupplyAmounts T s path exactTargetAmount = .ok amounts ∧
      amounts.headD 0 ≤ maximumSupplyAmount ∧ quote = (amounts.headD 0, exactTargetAmount) := by
  obtain ⟨amounts, hq, h⟩ := Option.bind_eq_some_iff.mp h
  split_ifs at h with hm
  cases h
  exact ⟨amounts, toOption_eq_some.1 hq, hm, rfl⟩

/-! ## One hop -/

theorem getTargetAmount_products_lt (hD : T.getExchangeFee.2 < 2 ^ 32) {a x : Nat} (ha : a < 2 ^ 128)
    (hx : x < 2 ^ 128) :
    x * (T.getExchangeFee.2 - T.getExchangeFee.1) < 2 ^ 160 ∧ a * T.getExchangeFee.2 < 2 ^ 160 := by
  constructor
  · calc x * (T.getExchangeFee.2 - T.getExchangeFee.1) < 2 ^ 128 * 2 ^ 32 :=
          Nat.mul_lt_mul'' hx (Nat.lt_of_le_of_lt (Nat.sub_le _ _) hD)
      _ = 2 ^ 160 := by norm_num
  · calc a * T.getExchangeFee.2 < 2 ^ 128 * 2 ^ 32 := Nat.mul_lt_mul'' ha hD
      _ = 2 ^ 160 := by norm_num

/-- Past its zero guard, `get_target_amount` divides the clamped numerator by
the exact denominator: with `u128` amounts and a `u32` fee only the numerator
can reach `2 ^ 256`. -/
theorem getTargetAmount_eq_div (hD : T.getExchangeFee.2 < 2 ^ 32) {a b x : Nat} (ha : a < 2 ^ 128)
    (hx : x < 2 ^ 128) (h0 : ¬(x = 0 ∨ a = 0 ∨ b = 0)) :
    getTargetAmount T a b x =
      ((U256.checkedDiv (U256.saturatingMul (x * (T.getExchangeFee.2 - T.getExchangeFee.1)) b)
        (a * T.getExchangeFee.2 + x * (T.getExchangeFee.2 - T.getExchangeFee.1))).bind
          U256.tryIntoBalance).getD 0 := by
  obtain ⟨hxf, haf⟩ := getTargetAmount_products_lt T hD ha hx
  unfold getTargetAmount
  rw [if_neg h0]
  dsimp only
  rw [U256.saturatingMul_eq (a := x) (hxf.trans (by norm_num)),
    U256.saturatingMul_eq (a := a) (haf.trans (by norm_num)), U256.saturatingAdd_eq (by omega)]

theorem getTargetAmount_guard {a b x : Nat} (hy : getTargetAmount T a b x ≠ 0) :
    ¬(x = 0 ∨ a = 0 ∨ b = 0) := by
  intro h
  apply hy
  unfold getTargetAmount
  rw [if_pos h]

theorem getTargetAmount_spec (hD : T.getExchangeFee.2 < 2 ^ 32) {a b x : Nat} (ha : a < 2 ^ 128)
    (hx : x < 2 ^ 128) (hy : getTargetAmount T a b x ≠ 0) :
    0 < a ∧ 0 < T.getExchangeFee.2 ∧
      getTargetAmount T a b x * (a * T.getExchangeFee.2 +
          x * (T.getExchangeFee.2 - T.getExchangeFee.1)) ≤
        x * (T.getExchangeFee.2 - T.getExchangeFee.1) * b := by
  have h0 := getTargetAmount_guard T hy
  rw [getTargetAmount_eq_div T hD ha hx h0] at hy ⊢
  obtain ⟨hden, hq⟩ := U256.divIntoBalance_ne_zero hy
  rw [hq]
  have hD0 : 0 < T.getExchangeFee.2 := by
    rcases Nat.eq_zero_or_pos T.getExchangeFee.2 with h | h
    · simp only [h, Nat.zero_sub, Nat.mul_zero, Nat.add_zero] at hden
      exact absurd hden (lt_irrefl 0)
    · exact h
  refine ⟨Nat.pos_of_ne_zero (by omega), hD0, ?_⟩
  calc _ ≤ U256.saturatingMul (x * (T.getExchangeFee.2 - T.getExchangeFee.1)) b :=
        Nat.div_mul_le_self _ _
    _ ≤ x * (T.getExchangeFee.2 - T.getExchangeFee.1) * b := U256.saturatingMul_le _ _

theorem getTargetAmount_eq (hD : T.getExchangeFee.2 < 2 ^ 32) {a b x : Nat} (ha : a < 2 ^ 128)
    (hb : b < 2 ^ 128) (hx : x < 2 ^ 128) (h0 : ¬(x = 0 ∨ a = 0 ∨ b = 0))
    (hnum : x * (T.getExchangeFee.2 - T.getExchangeFee.1) * b < 2 ^ 256) :
    getTargetAmount T a b x = x * (T.getExchangeFee.2 - T.getExchangeFee.1) * b /
      (a * T.getExchangeFee.2 + x * (T.getExchangeFee.2 - T.getExchangeFee.1)) := by
  rw [getTargetAmount_eq_div T hD ha hx h0, U256.saturatingMul_eq hnum]
  refine U256.divIntoBalance_eq (Nat.lt_of_le_of_lt (Nat.div_le_of_le_mul ?_) hb)
  exact Nat.mul_le_mul_right b (Nat.le_add_left _ _)

theorem getSupplyAmount_spec (hD : T.getExchangeFee.2 < 2 ^ 32) {a b t : Nat} (hb : b < 2 ^ 128)
    (hsat : a * t * T.getExchangeFee.2 < 2 ^ 256) (hs : getSupplyAmount T a b t ≠ 0) :
    t ≤ b ∧ a * t * T.getExchangeFee.2 <
      getSupplyAmount T a b t * ((b - t) * (T.getExchangeFee.2 - T.getExchangeFee.1)) := by
  unfold getSupplyAmount at hs ⊢
  split_ifs at hs ⊢ with h0
  · exact absurd rfl hs
  · dsimp only at hs ⊢
    push Not at h0
    obtain ⟨ht0, -, -⟩ := h0
    have hden : (b - t) * (T.getExchangeFee.2 - T.getExchangeFee.1) < 2 ^ 256 :=
      calc (b - t) * (T.getExchangeFee.2 - T.getExchangeFee.1) < 2 ^ 128 * 2 ^ 32 :=
            Nat.mul_lt_mul'' (Nat.lt_of_le_of_lt (Nat.sub_le _ _) hb)
              (Nat.lt_of_le_of_lt (Nat.sub_le _ _) hD)
        _ < 2 ^ 256 := by norm_num
    have hat : a * t < 2 ^ 256 := by
      rcases Nat.eq_zero_or_pos T.getExchangeFee.2 with h | h
      · -- no fee denominator: the quote's denominator is zero
        simp only [U256.saturatingSub, h, Nat.zero_sub, U256.saturatingMul, Nat.mul_zero,
          Nat.zero_le, min_eq_left] at hs
        exact absurd (U256.divSuccIntoBalance_ne_zero hs).1 (lt_irrefl 0)
      · exact Nat.lt_of_le_of_lt (Nat.le_mul_of_pos_right _ h) hsat
    rw [U256.saturatingSub, U256.saturatingMul_eq hat, U256.saturatingMul_eq hsat,
      U256.saturatingMul_eq hden] at hs ⊢
    obtain ⟨hpos, hq⟩ := U256.divSuccIntoBalance_ne_zero hs
    rw [hq]
    have htb : t ≤ b := by
      by_contra hlt
      rw [Nat.sub_eq_zero_of_le (by omega), Nat.zero_mul] at hpos
      exact lt_irrefl 0 hpos
    exact ⟨htb, by simpa [Nat.mul_comm] using Nat.lt_mul_div_succ (a * t * T.getExchangeFee.2) hpos⟩

theorem getSupplyAmount_lt (a b t : Nat) : getSupplyAmount T a b t < 2 ^ 128 := by
  unfold getSupplyAmount
  split_ifs
  · norm_num
  · exact U256.getD_bind_tryIntoBalance_lt _

theorem getSupplyAmount_guard {a b t : Nat} (hs : getSupplyAmount T a b t ≠ 0) :
    ¬(t = 0 ∨ a = 0 ∨ b = 0) := by
  intro h
  apply hs
  unfold getSupplyAmount
  rw [if_pos h]

theorem getSupplyAmount_pred_mul_le (hD : T.getExchangeFee.2 < 2 ^ 32) {a b t : Nat} (hb : b < 2 ^ 128)
    (hs : getSupplyAmount T a b t ≠ 0) :
    0 < (b - t) * (T.getExchangeFee.2 - T.getExchangeFee.1) ∧
      (getSupplyAmount T a b t - 1) * ((b - t) * (T.getExchangeFee.2 - T.getExchangeFee.1)) ≤
        a * t * T.getExchangeFee.2 := by
  have h0 := getSupplyAmount_guard T hs
  have hden : (b - t) * (T.getExchangeFee.2 - T.getExchangeFee.1) < 2 ^ 256 :=
    calc (b - t) * (T.getExchangeFee.2 - T.getExchangeFee.1) < 2 ^ 128 * 2 ^ 32 :=
          Nat.mul_lt_mul'' (Nat.lt_of_le_of_lt (Nat.sub_le _ _) hb)
            (Nat.lt_of_le_of_lt (Nat.sub_le _ _) hD)
      _ < 2 ^ 256 := by norm_num
  unfold getSupplyAmount at hs ⊢
  rw [if_neg h0] at hs ⊢
  dsimp only at hs ⊢
  rw [U256.saturatingSub, U256.saturatingMul_eq hden] at hs ⊢
  obtain ⟨hpos, hq⟩ := U256.divSuccIntoBalance_ne_zero hs
  rw [hq, Nat.add_sub_cancel]
  refine ⟨hpos, (Nat.div_mul_le_self _ _).trans ?_⟩
  calc U256.saturatingMul (U256.saturatingMul a t) T.getExchangeFee.2
      ≤ U256.saturatingMul a t * T.getExchangeFee.2 := U256.saturatingMul_le _ _
    _ ≤ a * t * T.getExchangeFee.2 := Nat.mul_le_mul_right _ (U256.saturatingMul_le _ _)

theorem getTargetAmount_keeps_product (hD : T.getExchangeFee.2 < 2 ^ 32) {a b x : Nat}
    (ha : a < 2 ^ 128) (hx : x < 2 ^ 128) (hb0 : 0 < b) :
    getTargetAmount T a b x < b ∧ a * b ≤ (a + x) * (b - getTargetAmount T a b x) := by
  by_cases hy : getTargetAmount T a b x = 0
  · rw [hy, Nat.sub_zero]
    exact ⟨hb0, Nat.mul_le_mul_right b (Nat.le_add_right a x)⟩
  · obtain ⟨ha0, hD0, hq⟩ := getTargetAmount_spec T hD ha hx hy
    exact ⟨ConstantProduct.payment_lt_of_floor_quote ha0 hD0 hb0 hq,
      (ConstantProduct.payment_of_floor_quote ha0 hD0 hq).2⟩

theorem getTargetAmount_pred_pred_lt (hD : T.getExchangeFee.2 < 2 ^ 32) {a b t : Nat}
    (ha : a < 2 ^ 128) (hb : b < 2 ^ 128) (hs : getSupplyAmount T a b t ≠ 0) :
    getTargetAmount T a b (getSupplyAmount T a b t - 2) < t := by
  have h0 := getSupplyAmount_guard T hs
  by_cases hy : getTargetAmount T a b (getSupplyAmount T a b t - 2) = 0
  · rw [hy]
    omega
  obtain ⟨hpos, hle⟩ := getSupplyAmount_pred_mul_le T hD hb hs
  have hx0 := getTargetAmount_guard T hy
  obtain ⟨-, -, hq⟩ :=
    getTargetAmount_spec T hD ha ((Nat.sub_le _ _).trans_lt (getSupplyAmount_lt T a b t)) hy
  rw [show getSupplyAmount T a b t - 1 = getSupplyAmount T a b t - 2 + 1 by omega] at hle
  exact ConstantProduct.floor_quote_lt_of_ceil hpos hle hq

theorem le_getTargetAmount_getSupplyAmount (hD : T.getExchangeFee.2 < 2 ^ 32) {a b t : Nat}
    (ha : a < 2 ^ 128) (hb : b < 2 ^ 128) (hs : getSupplyAmount T a b t ≠ 0)
    (hsat : a * t * T.getExchangeFee.2 < 2 ^ 256)
    (hnum : getSupplyAmount T a b t * (T.getExchangeFee.2 - T.getExchangeFee.1) * b < 2 ^ 256) :
    t ≤ getTargetAmount T a b (getSupplyAmount T a b t) := by
  have h0 := getSupplyAmount_guard T hs
  obtain ⟨htb, hlt⟩ := getSupplyAmount_spec T hD hb hsat hs
  obtain ⟨hpos, -⟩ := getSupplyAmount_pred_mul_le T hD hb hs
  rw [getTargetAmount_eq T hD ha hb (getSupplyAmount_lt T a b t) (by omega) hnum]
  have hden : 0 < a * T.getExchangeFee.2 +
      getSupplyAmount T a b t * (T.getExchangeFee.2 - T.getExchangeFee.1) :=
    Nat.lt_of_lt_of_le (Nat.mul_pos (Nat.pos_of_ne_zero hs) (Nat.pos_of_mul_pos_left hpos))
      (Nat.le_add_left _ _)
  exact (Nat.le_div_iff_mul_le hden).2 (ConstantProduct.le_floor_quote_of_ceil htb hlt)

/-- Constant-product quotes, one hop: the forward quote pays less than the
target pool and keeps its product; the backward quote lowered by two is quoted
below its target; and when neither quote's numerator clamps in `U256`, the
backward quote is quoted back at least its target. -/
theorem getSupplyAmount_near_inverse (hD : T.getExchangeFee.2 < 2 ^ 32) {a b : Nat}
    (ha : a < 2 ^ 128) (hb0 : 0 < b) (hb : b < 2 ^ 128) :
    (∀ x < 2 ^ 128, getTargetAmount T a b x < b ∧
      a * b ≤ (a + x) * (b - getTargetAmount T a b x)) ∧
    ∀ t, getSupplyAmount T a b t ≠ 0 →
      getTargetAmount T a b (getSupplyAmount T a b t - 2) < t ∧
      (a * t * T.getExchangeFee.2 < 2 ^ 256 →
        getSupplyAmount T a b t * (T.getExchangeFee.2 - T.getExchangeFee.1) * b < 2 ^ 256 →
        t ≤ getTargetAmount T a b (getSupplyAmount T a b t)) :=
  ⟨fun _ hx => getTargetAmount_keeps_product T hD ha hx hb0,
    fun _ hs => ⟨getTargetAmount_pred_pred_lt T hD ha hb hs,
      fun hsat hnum => le_getTargetAmount_getSupplyAmount T hD ha hb hs hsat hnum⟩⟩

/-- The reference fee of 3/1000 and a pool of 1000 of each side. -/
theorem getSupplyAmount_near_inverse_reference :
    Reference.testConfig.getExchangeFee.2 < 2 ^ 32 ∧ (1000 : Nat) < 2 ^ 128 ∧ 0 < 1000 ∧
      getSupplyAmount Reference.testConfig 1000 1000 90 = 100 ∧
      getTargetAmount Reference.testConfig 1000 1000 100 = 90 ∧
      getTargetAmount Reference.testConfig 1000 1000 (getSupplyAmount Reference.testConfig 1000 1000 90 - 2) < 90 ∧
      (∀ x < 2 ^ 128, getTargetAmount Reference.testConfig 1000 1000 x < 1000 ∧
        1000 * 1000 ≤ (1000 + x) * (1000 - getTargetAmount Reference.testConfig 1000 1000 x)) :=
  have h := getSupplyAmount_near_inverse Reference.testConfig (by decide) (a := 1000) (b := 1000)
    (by decide) (by decide) (by decide)
  ⟨by decide, by decide, by decide, by decide, by decide,
    (h.2 90 (by decide)).1, h.1⟩

/-- When `U256` clamps, the backward quote falls short: from a supply pool of
`2 ^ 127` and a target pool of `3 * 2 ^ 126`, 2^126 of the target is quoted a
supply that buys back far less; and with a supply pool of 1 the backward
quote is exact but the forward quote of it clamps. -/
theorem getSupplyAmount_clamped :
    getSupplyAmount Reference.testConfig (2 ^ 127) (3 * 2 ^ 126) (2 ^ 126) ≠ 0 ∧
      getTargetAmount Reference.testConfig (2 ^ 127) (3 * 2 ^ 126)
        (getSupplyAmount Reference.testConfig (2 ^ 127) (3 * 2 ^ 126) (2 ^ 126)) < 2 ^ 126 ∧
      getSupplyAmount Reference.testConfig 1 (2 ^ 127 + 1) (2 ^ 127) ≠ 0 ∧
      getTargetAmount Reference.testConfig 1 (2 ^ 127 + 1)
        (getSupplyAmount Reference.testConfig 1 (2 ^ 127 + 1) (2 ^ 127)) < 2 ^ 127 := by
  decide

theorem getLiquidity_congr {s s₀ : State AccountId L} {a b : CurrencyId} {p : TradingPair}
    (hp : TradingPair.fromCurrencyIds a b = some p)
    (h : s₀.liquidityPool p = s.liquidityPool p) : getLiquidity s₀ a b = getLiquidity s a b := by
  simp [getLiquidity, hp, h]

theorem swap_eq_ok_of_product {s : State AccountId L} {a b : CurrencyId} {p : TradingPair}
    (hp : TradingPair.fromCurrencyIds a b = some p) {x y : Nat}
    (hx : (getLiquidity s a b).1 + x < 2 ^ 128) (hb : (getLiquidity s a b).2 < 2 ^ 128)
    (hy : y ≤ (getLiquidity s a b).2)
    (hk : (getLiquidity s a b).1 * (getLiquidity s a b).2 ≤
      ((getLiquidity s a b).1 + x) * ((getLiquidity s a b).2 - y)) :
    swap s a b x y = .ok (s.setPool p (swappedPool p a (s.liquidityPool p) x y)) := by
  -- the product after the hop is below `2 ^ 256`, so its check does not clamp
  have hafter : ((getLiquidity s a b).1 + x) * ((getLiquidity s a b).2 - y) < 2 ^ 256 :=
    calc _ < 2 ^ 128 * 2 ^ 128 :=
          Nat.mul_lt_mul'' hx (Nat.lt_of_le_of_lt (Nat.sub_le _ _) hb)
      _ = 2 ^ 256 := by norm_num
  have hcheck := (U256.saturatingMul_le _ _).trans (hk.trans (U256.saturatingMul_eq hafter).ge)
  simp only [getLiquidity, hp] at hx hb hy hcheck
  by_cases hfirst : a = p.first
  · simp only [if_pos hfirst] at hx hb hy hcheck
    have e1 := Balance.checkedAdd_eq_some.2 ⟨hx, rfl⟩
    have e2 := Balance.checkedSub_eq_some.2 ⟨hy, rfl⟩
    simp only [swap, hp, if_pos hfirst, e1, e2, okOr, pure_bind, ensure, ge_iff_le, hcheck,
      decide_true, if_true, swappedPool]
    rfl
  · -- seen from the second currency the pool and its product are the other way round
    simp only [if_neg hfirst] at hx hb hy hcheck
    rw [U256.saturatingMul_comm (s.liquidityPool p).2, U256.saturatingMul_comm (_ + x)] at hcheck
    have e1 := Balance.checkedAdd_eq_some.2 ⟨hx, rfl⟩
    have e2 := Balance.checkedSub_eq_some.2 ⟨hy, rfl⟩
    simp only [swap, hp, if_neg hfirst, e1, e2, okOr, pure_bind, ensure, ge_iff_le, hcheck,
      decide_true, if_true, swappedPool]
    rfl

theorem swapByPath_cons_of_swap {s s' : State AccountId L} {a b : CurrencyId}
    {rest : List CurrencyId} {x y : Nat} {amounts : List Nat} (h : swap s a b x y = .ok s') :
    swapByPath s (a :: b :: rest) (x :: y :: amounts) = swapByPath s' (b :: rest) (y :: amounts) := by
  rw [swapByPath, h]
  rfl

/-! ## Along a path -/

section Path

variable {T} (hD : T.getExchangeFee.2 < 2 ^ 32)
include hD

/-- On hops of different pairs, `_swap_by_path` runs the amounts of a forward
quote: every hop meets its pool as quoted, from any state whose pools of the
path's pairs are those the quote read. -/
theorem swapByPath_of_targetAmountsFrom {s : State AccountId L} :
    ∀ {path : List CurrencyId} {x : Nat} {amounts : List Nat} (s₀ : State AccountId L),
      targetAmountsFrom T s path x = .ok amounts → (hopPairs path).Nodup →
      HopsFit s path amounts →
      (∀ q, some q ∈ hopPairs path → s₀.liquidityPool q = s.liquidityPool q) →
      ∃ s₁, swapByPath s₀ path amounts = .ok s₁
  | a :: b :: rest, x, amounts, s₀, hq, hd, hfit, hagree => by
      obtain ⟨pools, later, hpools, hy, hlater, rfl⟩ := targetAmountsFrom_cons_ok T hq
      obtain ⟨p, hp, -, rfl, h1, -⟩ := hopLiquidity_ok hpools
      obtain ⟨-, hlen, hhead⟩ := targetAmountsFrom_shape T (List.cons_ne_nil _ _) hlater
      obtain _ | ⟨y, later⟩ := later
      · simp at hlen
      simp only [List.headD_cons] at hhead
      subst hhead
      simp only [hopPairs, hp, List.nodup_cons, List.mem_cons, Option.some.injEq] at hd hagree
      obtain ⟨hfx, hfb, hfit⟩ := hfit
      have hpool := getLiquidity_congr hp (hagree p (.inl rfl))
      obtain ⟨ha0, hD0, hquote⟩ := getTargetAmount_spec T hD (by omega) (by omega) hy
      obtain ⟨hyb, hk⟩ := ConstantProduct.payment_of_floor_quote ha0 hD0 hquote
      have hswap := swap_eq_ok_of_product (s := s₀)
        (y := getTargetAmount T (getLiquidity s a b).1 (getLiquidity s a b).2 x) hp
        (by rwa [hpool]) (by rwa [hpool]) (by rwa [hpool]) (by rwa [hpool])
      -- the later hops use other pairs, whose pools the first hop leaves alone
      rw [swapByPath_cons_of_swap hswap]
      exact swapByPath_of_targetAmountsFrom _ hlater hd.2 hfit fun q hq' => by
        have hqp : q ≠ p := fun e => hd.1 (e ▸ hq')
        rw [State.setPool_pool, Function.update_of_ne hqp]
        exact hagree q (.inr hq')
  | [], _, amounts, s₀, _, _, _, _ => ⟨s₀, by cases amounts <;> rfl⟩
  | [_], _, amounts, s₀, _, _, _, _ => ⟨s₀, by cases amounts <;> rfl⟩

theorem swapByPath_of_supplyAmountsTo {s : State AccountId L} :
    ∀ {path : List CurrencyId} {t : Nat} {r : Nat × List Nat} (s₀ : State AccountId L),
      supplyAmountsTo T s path t = .ok r → (hopPairs path).Nodup →
      HopsFit s path r.2 → HopProductsFit T s path r.2 →
      (∀ q, some q ∈ hopPairs path → s₀.liquidityPool q = s.liquidityPool q) →
      ∃ s₁, swapByPath s₀ path r.2 = .ok s₁
  | a :: b :: rest, t, r, s₀, hq, hd, hfit, hprod, hagree => by
      obtain ⟨later, pools, hlater, hpools, hs, rfl⟩ := supplyAmountsTo_cons_ok T hq
      obtain ⟨p, hp, -, rfl, -, -⟩ := hopLiquidity_ok hpools
      obtain ⟨-, hlen, hhead, -⟩ := supplyAmountsTo_shape T (List.cons_ne_nil _ _) hlater
      obtain ⟨u, _ | ⟨y, ys⟩⟩ := later
      · simp at hlen
      simp only [List.headD_cons] at hhead
      subst hhead
      simp only [hopPairs, hp, List.nodup_cons, List.mem_cons, Option.some.injEq] at hd hagree
      obtain ⟨hfx, hfb, hfit⟩ := hfit
      obtain ⟨hsat, hprod⟩ := hprod
      have hpool := getLiquidity_congr hp (hagree p (.inl rfl))
      obtain ⟨htb, hquote⟩ := getSupplyAmount_spec T hD hfb hsat hs
      have hk := ConstantProduct.payment_of_ceil_quote htb hquote
      have hswap := swap_eq_ok_of_product (s := s₀) (y := y) hp
        (by rwa [hpool]) (by rwa [hpool]) (by rwa [hpool]) (by rwa [hpool])
      rw [swapByPath_cons_of_swap hswap]
      exact swapByPath_of_supplyAmountsTo _ hlater hd.2 hfit hprod fun q hq' => by
        have hqp : q ≠ p := fun e => hd.1 (e ▸ hq')
        rw [State.setPool_pool, Function.update_of_ne hqp]
        exact hagree q (.inr hq')
  | [], _, r, s₀, _, _, _, _, _ => ⟨s₀, by obtain ⟨_, _ | ⟨_, _ | _⟩⟩ := r <;> rfl⟩
  | [_], _, r, s₀, _, _, _, _, _ => ⟨s₀, by obtain ⟨_, _ | ⟨_, _ | _⟩⟩ := r <;> rfl⟩

/-- `do_swap_with_exact_supply` runs a forward quote on hops of different
pairs within `u128` pools, for any minimum the quote meets, when the
transfers in and out go through. -/
theorem doSwapWithExactSupply_of_quote {s : State AccountId L} {who : AccountId} {path : List CurrencyId}
    {x minTargetAmount : Nat} {amounts : List Nat} {l1 l2 : L} (hq : getTargetAmounts T s path x = .ok amounts)
    (hd : (hopPairs path).Nodup) (hfit : HopsFit s path amounts) (hmin : minTargetAmount ≤ amounts.getLastD 0)
    (hl1 : T.currency.transfer (path.headD default) who T.palletAccount x s.ledger = some l1)
    (hl2 : T.currency.transfer (path.getLastD default) T.palletAccount who (amounts.getLastD 0) l1 = some l2) :
    ∃ s', doSwapWithExactSupply T s who path x minTargetAmount = .ok (amounts.getLastD 0, s') := by
  obtain ⟨-, -, -, hfrom, -, -, -⟩ := getTargetAmounts_ok T hq
  obtain ⟨s₁, hs₁⟩ := swapByPath_of_targetAmountsFrom hD (s.setLedger l1) hfrom hd hfit fun _ _ => rfl
  have hl : s₁.ledger = l1 := (swapByPath_frame hs₁).1
  refine ⟨s₁.setLedger l2, ?_⟩
  simp only [doSwapWithExactSupply, bind_eq_ok, ensure_eq_ok, external_eq_ok, pure_eq_ok]
  exact ⟨amounts, hq, (), by simpa using hmin, l1, hl1, s₁, hs₁, l2, hl ▸ hl2, rfl⟩

/-- `do_swap_with_exact_target` runs a backward quote on hops of different
pairs within `u128` pools whose numerators do not saturate, for any maximum
the quote meets, when the transfers in and out go through. -/
theorem doSwapWithExactTarget_of_quote {s : State AccountId L} {who : AccountId} {path : List CurrencyId}
    {t maxSupplyAmount : Nat} {amounts : List Nat} {l1 l2 : L} (hq : getSupplyAmounts T s path t = .ok amounts)
    (hd : (hopPairs path).Nodup) (hfit : HopsFit s path amounts) (hprod : HopProductsFit T s path amounts)
    (hmax : amounts.headD 0 ≤ maxSupplyAmount)
    (hl1 : T.currency.transfer (path.headD default) who T.palletAccount (amounts.headD 0) s.ledger = some l1)
    (hl2 : T.currency.transfer (path.getLastD default) T.palletAccount who t l1 = some l2) :
    ∃ s', doSwapWithExactTarget T s who path t maxSupplyAmount = .ok (amounts.headD 0, s') := by
  obtain ⟨-, -, -, hto, -, -, -⟩ := getSupplyAmounts_ok T hq
  obtain ⟨s₁, hs₁⟩ := swapByPath_of_supplyAmountsTo hD (s.setLedger l1) hto hd hfit hprod fun _ _ => rfl
  have hl : s₁.ledger = l1 := (swapByPath_frame hs₁).1
  refine ⟨s₁.setLedger l2, ?_⟩
  simp only [doSwapWithExactTarget, bind_eq_ok, ensure_eq_ok, external_eq_ok, pure_eq_ok]
  exact ⟨amounts, hq, (), by simpa using hmax, l1, hl1, s₁, hs₁, l2, hl ▸ hl2, rfl⟩

end Path

/-- On a path whose hops use different trading pairs and stay within the
source's `u128` pools, the swaps run their quotes: with the supply quoted by
`get_target_amounts`, `do_swap_with_exact_supply` succeeds and pays the last
amount of the quote; with the target quoted by `get_supply_amounts`, and no
hop's numerator saturating `U256`, `do_swap_with_exact_target` succeeds and
charges the first; and what `get_swap_amount` quotes for a limit,
`swap_with_specific_path` swaps with it. The transfers in and out of the DEX
account are those of `MultiCurrency`, assumed to go through. -/
theorem quote_agrees_with_swap (hD : T.getExchangeFee.2 < 2 ^ 32) (s : State AccountId L)
    (who : AccountId) (path : List CurrencyId) :
    (∀ x amounts l1 l2, getTargetAmounts T s path x = .ok amounts → (hopPairs path).Nodup →
      HopsFit s path amounts →
      T.currency.transfer (path.headD default) who T.palletAccount x s.ledger = some l1 →
      T.currency.transfer (path.getLastD default) T.palletAccount who (amounts.getLastD 0) l1 =
        some l2 →
      ∃ s', doSwapWithExactSupply T s who path x (amounts.getLastD 0) =
        .ok (amounts.getLastD 0, s')) ∧
    (∀ t amounts l1 l2, getSupplyAmounts T s path t = .ok amounts → (hopPairs path).Nodup →
      HopsFit s path amounts → HopProductsFit T s path amounts →
      T.currency.transfer (path.headD default) who T.palletAccount (amounts.headD 0) s.ledger =
        some l1 →
      T.currency.transfer (path.getLastD default) T.palletAccount who t l1 = some l2 →
      ∃ s', doSwapWithExactTarget T s who path t (amounts.headD 0) =
        .ok (amounts.headD 0, s')) ∧
    (∀ limit supplyAmount targetAmount l1 l2,
      getSwapAmount T s path limit = some (supplyAmount, targetAmount) → (hopPairs path).Nodup →
      QuoteFits T s path limit →
      T.currency.transfer (path.headD default) who T.palletAccount supplyAmount s.ledger = some l1 →
      T.currency.transfer (path.getLastD default) T.palletAccount who targetAmount l1 = some l2 →
      ∃ s', swapWithSpecificPath T s who path limit = .ok ((supplyAmount, targetAmount), s')) := by
  refine ⟨fun x amounts l1 l2 hq hd hfit hl1 hl2 =>
      doSwapWithExactSupply_of_quote hD hq hd hfit le_rfl hl1 hl2,
    fun t amounts l1 l2 hq hd hfit hprod hl1 hl2 =>
      doSwapWithExactTarget_of_quote hD hq hd hfit hprod le_rfl hl1 hl2, ?_⟩
  intro limit supplyAmount targetAmount l1 l2 hquote hd hfits hl1 hl2
  cases limit with
  | exactSupply x m =>
      obtain ⟨amounts, hq, hm, heq⟩ := getSwapAmount_exactSupply_eq T hquote
      obtain ⟨rfl, rfl⟩ := Prod.mk.inj heq
      obtain ⟨s', hs'⟩ := doSwapWithExactSupply_of_quote hD hq hd (hfits amounts hq) hm hl1 hl2
      exact ⟨s', by simp [swapWithSpecificPath, hs']⟩
  | exactTarget M t =>
      obtain ⟨amounts, hq, hM, heq⟩ := getSwapAmount_exactTarget_eq T hquote
      obtain ⟨rfl, rfl⟩ := Prod.mk.inj heq
      obtain ⟨hfit, hprod⟩ := hfits amounts hq
      obtain ⟨s', hs'⟩ := doSwapWithExactTarget_of_quote hD hq hd hfit hprod hM hl1 hl2
      exact ⟨s', by simp [swapWithSpecificPath, hs']⟩

namespace Reference

/-- Genesis enables the pair of the two tokens and Alice adds 1000 of each
to its pool. -/
def pooledGenesis : GenesisConfig Account :=
  ⟨[], [seuSeusd], [(.alice, [(seuSeusd, (1000, 1000))])]⟩

/-- The storage `pooledGenesis` builds. -/
def pooled : State Account (Balances Account) :=
  (pooledGenesis.build testConfig (State.empty genesisBalances 0)).getD
    (State.empty genesisBalances 0)

theorem pooled_reachable : Reachable (system testConfig) pooled := by
  obtain ⟨t, ht⟩ := Option.isSome_iff_exists.1
    (by rfl : (pooledGenesis.build testConfig (State.empty genesisBalances 0)).isSome)
  refine .init ⟨pooledGenesis, genesisBalances, 0, by decide, ?_⟩
  unfold pooled
  rw [ht]
  rfl

/-- The one hop from SEU to SEUSD. -/
def seuPath : List CurrencyId := [.token .SEU, .token .SEUSD]

/-- From the pool of 1000 of each token, Bob's swap of 100 SEU is quoted 90
SEUSD and pays it, his swap for 90 SEUSD is quoted 100 SEU and charges it,
and the swap manager's quote of 100 SEU for at least 80 SEUSD is swapped as
quoted. -/
theorem quote_agrees_with_swap_reference :
    testConfig.getExchangeFee.2 < 2 ^ 32 ∧
      (∃ s', doSwapWithExactSupply testConfig pooled .bob seuPath 100 90 = .ok (90, s')) ∧
      (∃ s', doSwapWithExactTarget testConfig pooled .bob seuPath 90 100 = .ok (100, s')) ∧
      getSwapAmount testConfig pooled seuPath (.exactSupply 100 80) = some (100, 90) ∧
      ∃ s', swapWithSpecificPath testConfig pooled .bob seuPath (.exactSupply 100 80) = .ok ((100, 90), s') := by
  have hD : testConfig.getExchangeFee.2 < 2 ^ 32 := by decide
  obtain ⟨l2, hl⟩ := Option.isSome_iff_exists.1
    (by decide : ((testConfig.currency.transfer (.token .SEU) .bob .dex 100
      pooled.ledger).bind (testConfig.currency.transfer (.token .SEUSD) .dex .bob 90)).isSome)
  obtain ⟨l1, hl1, hl2⟩ := Option.bind_eq_some_iff.1 hl
  have hquote : getSwapAmount testConfig pooled seuPath (.exactSupply 100 80) = some (100, 90) := by decide
  have hfits : QuoteFits testConfig pooled seuPath (.exactSupply 100 80) := by
    intro amounts h
    rw [show getTargetAmounts testConfig pooled seuPath 100 = .ok [100, 90] by decide] at h
    cases h
    decide
  refine ⟨hD, ?_, ?_, hquote, ?_⟩
  · exact (quote_agrees_with_swap testConfig hD pooled .bob seuPath).1 100 [100, 90] l1 l2 (by decide)
      (by decide) (by decide) hl1 hl2
  · exact (quote_agrees_with_swap testConfig hD pooled .bob seuPath).2.1 90 [100, 90] l1 l2 (by decide)
      (by decide) (by decide) (by decide) hl1 hl2
  · exact (quote_agrees_with_swap testConfig hD pooled .bob seuPath).2.2 (.exactSupply 100 80) 100 90 l1 l2
      hquote (by decide) hfits hl1 hl2

/-- Twice round the pair of the two tokens: a path that `validate_path`
accepts, with a pair that comes back. -/
def loopPath : List CurrencyId := [.token .SEU, .token .SEUSD, .token .SEU, .token .SEUSD]

/-- Alice holds 2^127 SEU and 3 * 2^126 SEUSD, Bob 2^127 SEU. -/
def clampedBalances : Balances Account := fun c a =>
  match a, c with
  | .alice, .token .SEU => 2 ^ 127
  | .alice, .token .SEUSD => 3 * 2 ^ 126
  | .bob, .token .SEU => 2 ^ 127
  | _, _ => 0

/-- Genesis enables the pair of the two tokens and Alice adds all she holds
to its pool. -/
def clampedGenesis : GenesisConfig Account :=
  ⟨[], [seuSeusd], [(.alice, [(seuSeusd, (2 ^ 127, 3 * 2 ^ 126))])]⟩

/-- The storage `clampedGenesis` builds. -/
def clamped : State Account (Balances Account) :=
  (clampedGenesis.build testConfig (State.empty clampedBalances 0)).getD
    (State.empty clampedBalances 0)

theorem clamped_reachable : Reachable (system testConfig) clamped := by
  obtain ⟨t, ht⟩ := Option.isSome_iff_exists.1
    (by rfl : (clampedGenesis.build testConfig (State.empty clampedBalances 0)).isSome)
  refine .init ⟨clampedGenesis, clampedBalances, 0, by decide, ?_⟩
  unfold clamped
  rw [ht]
  rfl

/-- The quote and the swap part in two ways. From the pool of 1000 of each
token, 1000 SEU along `loopPath` is quoted 499, 332 and 248 at the three
hops, each read against the pool as it was; Bob holds the 1000 SEU, and the
swap fails the invariant check at the third hop, which meets the pool the
first two hops have moved. On the one hop of `seuPath`, from a pool of 2^127
SEU and 3 * 2^126 SEUSD, the supply quoted for 2^126 SEUSD clamps in `U256`
and is too low: the hop stays within `u128` and Bob holds the supply, but the
swap fails the invariant check. -/
theorem quoted_swaps_fail :
    (Reachable (system testConfig) pooled ∧
      getTargetAmounts testConfig pooled loopPath 1000 = .ok [1000, 499, 332, 248] ∧
      (testConfig.currency.transfer (.token .SEU) .bob .dex 1000 pooled.ledger).isSome ∧
      doSwapWithExactSupply testConfig pooled .bob loopPath 1000 248 =
        .error (.module .invariantCheckFailed)) ∧
    Reachable (system testConfig) clamped ∧
      ∃ q, getSupplyAmounts testConfig clamped seuPath (2 ^ 126) = .ok [q, 2 ^ 126] ∧
        (hopPairs seuPath).Nodup ∧ HopsFit clamped seuPath [q, 2 ^ 126] ∧
        ¬ HopProductsFit testConfig clamped seuPath [q, 2 ^ 126] ∧
        (testConfig.currency.transfer (.token .SEU) .bob .dex q clamped.ledger).isSome ∧
        doSwapWithExactTarget testConfig clamped .bob seuPath (2 ^ 126) q =
          .error (.module .invariantCheckFailed) := by
  refine ⟨⟨pooled_reachable, by decide, by decide, rfl⟩, clamped_reachable,
    682612571556546566626629102170046563, ?_, by decide, by decide, by decide, by decide, rfl⟩
  have hpool : hopLiquidity clamped (.token .SEU) (.token .SEUSD) = .ok (2 ^ 127, 3 * 2 ^ 126) := by decide
  simp only [getSupplyAmounts, seuPath, supplyAmountsTo, hpool]
  decide

end Reference

end Setheum.Swap
