import Setheum.Lib.Proportion
import Setheum.Primitives.Currency
import Setheum.Primitives.Arithmetic
import Setheum.Swap.Quotes

/-!
# The prices pallet

`access_price` gives the price of one basic unit of a currency: a currency
configured as pegged is priced as the one it is pegged to; SEUSD has a fixed
price and any other token the oracle's, each divided by `10 ^ decimals`. A
liquidity share (`DexShare`) is priced by `lp_token_fair_price` from the prices
of its two components, the DEX pool and the shares issued, with no decimals
adjustment.

The fair price is `2 * ⌊√(a b)⌋ * ⌊√(P Q)⌋ / S` for reserves `a`, `b`, prices
`P`, `Q` and supply `S`. It sees the reserves only through `⌊√(a b)⌋`, so a
trade along the pool's constant product cannot lower it, and by the
arithmetic-geometric mean inequality it is never more than the spot value of
the pool per share.

`access_price` recurses on the components' prices; the source sets no bound
on the depth (the components are tokens, but a token may be pegged to a share),
so the model counts the depth and gives `none` once it is used up.
-/

namespace Setheum.Prices

/-! ## The fair price of a liquidity share -/

/-- The numerator of `lp_token_fair_price`, in saturating `U256`: the floor
square root of the reserves' product times that of the prices' product. -/
def fairValue (poolA poolB : Nat) (priceA priceB : FixedU128) : Nat :=
  U256.saturatingMul (U256.saturatingMul poolA poolB).sqrt (U256.saturatingMul priceA.inner priceB.inner).sqrt

/-- `lp_token_fair_price`. -/
def lpTokenFairPrice (totalShares poolA poolB : Nat) (priceA priceB : FixedU128) : Option FixedU128 := do
  let n ← U256.checkedDiv (fairValue poolA poolB priceA priceB) totalShares
  let r ← U256.checkedMul n 2
  -- `TryInto::<u128>`, then `Price::from_inner`
  if h : r < 2 ^ 128 then some ⟨r, h⟩ else none

variable {S a b a' b' : Nat} {P Q x : FixedU128}

theorem lpTokenFairPrice_eq_some :
    lpTokenFairPrice S a b P Q = some x ↔ S ≠ 0 ∧ x.inner = fairValue a b P Q / S * 2 := by
  unfold lpTokenFairPrice U256.checkedDiv U256.checkedMul
  by_cases hS : S = 0
  · simp [hS]
  · simp only [hS, if_false, Option.bind_eq_bind, Option.bind_some, ne_eq, not_false_eq_true, true_and]
    by_cases hmul : fairValue a b P Q / S * 2 < 2 ^ 256
    · rw [if_pos hmul, Option.bind_some]
      constructor
      · intro h
        split at h
        · cases h
          rfl
        · cases h
      · intro hx
        rw [dif_pos (hx ▸ x.inner_lt)]
        obtain ⟨inner, hlt⟩ := x
        dsimp only at hx
        subst hx
        rfl
    · rw [if_neg hmul]
      simp only [Option.bind_none, reduceCtorEq, false_iff]
      intro hx
      have := x.inner_lt
      omega

theorem lpTokenFairPrice_of_lt (hS : S ≠ 0) (hfit : fairValue a b P Q / S * 2 < 2 ^ 128) :
    lpTokenFairPrice S a b P Q = some ⟨_, hfit⟩ :=
  lpTokenFairPrice_eq_some.mpr ⟨hS, rfl⟩

theorem fairValue_eq (ha : a < 2 ^ 128) (hb : b < 2 ^ 128) :
    fairValue a b P Q = Nat.sqrt (a * b) * Nat.sqrt (P.inner * Q.inner) := by
  have hab := U256.mul_lt_of_lt ha hb
  have hPQ := U256.mul_lt_of_lt P.inner_lt Q.inner_lt
  -- a square root of a product of two `u128`s is below `2 ^ 128`
  have hroot : ∀ {n}, n < 2 ^ 256 → Nat.sqrt n < 2 ^ 128 := fun hn =>
    Nat.sqrt_lt.mpr (by norm_num at hn ⊢; omega)
  unfold fairValue
  rw [U256.saturatingMul_eq hab, U256.saturatingMul_eq hPQ,
    U256.saturatingMul_eq (U256.mul_lt_of_lt (hroot hab) (hroot hPQ))]

theorem lpTokenFairPrice_eq_of_sqrt_eq (ha : a < 2 ^ 128) (hb : b < 2 ^ 128) (ha' : a' < 2 ^ 128)
    (hb' : b' < 2 ^ 128) (h : Nat.sqrt (a * b) = Nat.sqrt (a' * b')) :
    lpTokenFairPrice S a b P Q = lpTokenFairPrice S a' b' P Q := by
  unfold lpTokenFairPrice
  rw [fairValue_eq ha hb, fairValue_eq ha' hb', h]

theorem fairValue_mono (h : a * b ≤ a' * b') : fairValue a b P Q ≤ fairValue a' b' P Q := by
  unfold fairValue U256.saturatingMul
  have hroot : Nat.sqrt (min (a * b) (2 ^ 256 - 1)) ≤ Nat.sqrt (min (a' * b') (2 ^ 256 - 1)) :=
    Nat.sqrt_le_sqrt (min_le_min_right _ h)
  exact min_le_min_right _ (Nat.mul_le_mul_right _ hroot)

theorem two_mul_fairValue_le (a b : Nat) (P Q : FixedU128) : 2 * fairValue a b P Q ≤ a * P.inner + b * Q.inner := by
  have hle : fairValue a b P Q ≤ Nat.sqrt (a * b) * Nat.sqrt (P.inner * Q.inner) := calc
    fairValue a b P Q
        ≤ (U256.saturatingMul a b).sqrt * (U256.saturatingMul P.inner Q.inner).sqrt := U256.saturatingMul_le _ _
    _ ≤ Nat.sqrt (a * b) * Nat.sqrt (P.inner * Q.inner) :=
      Nat.mul_le_mul (Nat.sqrt_le_sqrt (U256.saturatingMul_le _ _)) (Nat.sqrt_le_sqrt (U256.saturatingMul_le _ _))
  -- the square of the product of the roots is at most `(a P) (b Q)`
  have hsq : Nat.sqrt (a * b) * Nat.sqrt (P.inner * Q.inner) * (Nat.sqrt (a * b) * Nat.sqrt (P.inner * Q.inner)) ≤
      a * P.inner * (b * Q.inner) := calc
    _ ≤ a * b * (P.inner * Q.inner) := Proportion.sqrt_mul_sqrt_mul_self_le _ _
    _ = a * P.inner * (b * Q.inner) := by ring
  calc 2 * fairValue a b P Q ≤ 2 * (Nat.sqrt (a * b) * Nat.sqrt (P.inner * Q.inner)) := Nat.mul_le_mul_left 2 hle
    _ ≤ a * P.inner + b * Q.inner := Proportion.two_mul_le_add_of_mul_self_le hsq

theorem lpTokenFairPrice_mul_le (h : lpTokenFairPrice S a b P Q = some x) : x.inner * S ≤ a * P.inner + b * Q.inner := by
  obtain ⟨-, hx⟩ := lpTokenFairPrice_eq_some.mp h
  calc x.inner * S = fairValue a b P Q / S * S * 2 := by rw [hx]; ring
    _ ≤ fairValue a b P Q * 2 := Nat.mul_le_mul_right 2 (Nat.div_mul_le_self _ _)
    _ = 2 * fairValue a b P Q := Nat.mul_comm _ _
    _ ≤ a * P.inner + b * Q.inner := two_mul_fairValue_le a b P Q

theorem lpTokenFairPrice_mono (hab : a * b ≤ a' * b') {x' : FixedU128} (h : lpTokenFairPrice S a' b' P Q = some x') :
    ∃ x, lpTokenFairPrice S a b P Q = some x ∧ x.inner ≤ x'.inner := by
  obtain ⟨hS, hx'⟩ := lpTokenFairPrice_eq_some.mp h
  have hle : fairValue a b P Q / S * 2 ≤ x'.inner :=
    hx' ▸ Nat.mul_le_mul_right 2 (Nat.div_le_div_right (fairValue_mono hab))
  exact ⟨_, lpTokenFairPrice_of_lt hS (lt_of_le_of_lt hle x'.inner_lt), hle⟩

theorem lpTokenFairPrice_after_swap {AccountId : Type} {L : Type} (T : Swap.Config AccountId L)
    (hD : T.getExchangeFee.2 < 2 ^ 32) {amount : Nat} (ha : a < 2 ^ 128) (hx : amount < 2 ^ 128) (hb0 : 0 < b)
    {x' : FixedU128}
    (h : lpTokenFairPrice S (a + amount) (b - Swap.getTargetAmount T a b amount) P Q = some x') :
    ∃ x, lpTokenFairPrice S a b P Q = some x ∧ x.inner ≤ x'.inner :=
  lpTokenFairPrice_mono (Swap.getTargetAmount_keeps_product T hD ha hx hb0).2 h

/-! ## `access_price` -/

/-- What `access_price` reads from the pallet's configuration and from the
pallets it calls. -/
structure Config where
  /-- `Source`: the oracle's price of a whole token. -/
  source : CurrencyId → Option FixedU128
  seusdFixedPrice : FixedU128
  getSEUSDCurrencyId : CurrencyId
  /-- `SwapManager::get_liquidity_pool`. -/
  getLiquidityPool : CurrencyId → CurrencyId → Nat × Nat
  /-- `Currency::total_issuance`. -/
  totalIssuance : CurrencyId → Nat
  /-- `Erc20InfoMapping::decimals`. -/
  decimals : CurrencyId → Option Nat
  pricingPegged : CurrencyId → Option CurrencyId

namespace Config

variable (cfg : Config)

/-- The tail of `access_price` for the price of a whole token: divided by
`10 ^ decimals`, the price of one basic unit. -/
def perBasicUnit (currencyId : CurrencyId) (maybePrice : Option FixedU128) : Option FixedU128 := do
  let decimals ← cfg.decimals currencyId
  -- `10u128.checked_pow(decimals)`
  let maybeAdjustmentMultiplier := if 10 ^ decimals < 2 ^ 128 then some (10 ^ decimals) else none
  match maybePrice, maybeAdjustmentMultiplier with
  | some price, some adjustmentMultiplier => FixedU128.checkedFromRational price.inner adjustmentMultiplier
  | _, _ => none

/-- `access_price`, with the depth of its recursion counted. -/
def accessPrice : Nat → CurrencyId → Option FixedU128
  | 0, _ => none
  | depth + 1, currencyId =>
      -- a currency configured as pegged is priced as the one it is pegged to
      let currencyId := (cfg.pricingPegged currencyId).getD currencyId
      if currencyId = cfg.getSEUSDCurrencyId then cfg.perBasicUnit currencyId (some cfg.seusdFixedPrice)
      else
        match currencyId with
        | .dexShare share0 share1 =>
            -- the fair price is returned directly, with no decimals adjustment
            let token0 := share0.toCurrencyId
            let token1 := share1.toCurrencyId
            match accessPrice depth token0, accessPrice depth token1 with
            | some price0, some price1 =>
                let pool := cfg.getLiquidityPool token0 token1
                lpTokenFairPrice (cfg.totalIssuance currencyId) pool.1 pool.2 price0 price1
            | _, _ => none
        | _ => cfg.perBasicUnit currencyId (cfg.source currencyId)

variable {cfg} {c c' : CurrencyId} {depth : Nat} {x : FixedU128}

@[simp] theorem perBasicUnit_none : cfg.perBasicUnit c none = none := by
  unfold perBasicUnit
  cases cfg.decimals c <;> rfl

theorem perBasicUnit_eq_some {price : FixedU128} :
    cfg.perBasicUnit c (some price) = some x ↔
      ∃ decimals, cfg.decimals c = some decimals ∧ 10 ^ decimals < 2 ^ 128 ∧
        x.inner = price.inner * FixedU128.DIV / 10 ^ decimals := by
  unfold perBasicUnit
  cases hdecimals : cfg.decimals c with
  | none => simp
  | some decimals =>
      simp only [Option.bind_eq_bind, Option.bind_some, Option.some.injEq, exists_eq_left']
      by_cases hfit : 10 ^ decimals < 2 ^ 128
      · -- the power fits: `checked_from_rational` divides by it
        rw [if_pos hfit, FixedU128.checkedFromRational_eq_some]
        have hpos : 10 ^ decimals ≠ 0 := by positivity
        exact ⟨fun hx => ⟨hfit, hx.2⟩, fun hx => ⟨hpos, hx.2⟩⟩
      · rw [if_neg hfit]
        simp only [reduceCtorEq, false_iff, not_and]
        exact fun h => absurd h hfit

theorem accessPrice_dexShare {share0 share1 : DexShare} (hpeg : (cfg.pricingPegged c).getD c = .dexShare share0 share1)
    (hseusd : CurrencyId.dexShare share0 share1 ≠ cfg.getSEUSDCurrencyId) :
    cfg.accessPrice (depth + 1) c =
      (cfg.accessPrice depth share0.toCurrencyId).bind fun price0 =>
        (cfg.accessPrice depth share1.toCurrencyId).bind fun price1 =>
          lpTokenFairPrice (cfg.totalIssuance (.dexShare share0 share1))
            (cfg.getLiquidityPool share0.toCurrencyId share1.toCurrencyId).1
            (cfg.getLiquidityPool share0.toCurrencyId share1.toCurrencyId).2 price0 price1 := by
  simp only [accessPrice, hpeg, if_neg hseusd]
  cases cfg.accessPrice depth share0.toCurrencyId <;> cases cfg.accessPrice depth share1.toCurrencyId <;> rfl

theorem accessPrice_other (hpeg : (cfg.pricingPegged c).getD c = c')
    (hother : c' = cfg.getSEUSDCurrencyId ∨ ∀ share0 share1, c' ≠ .dexShare share0 share1) :
    cfg.accessPrice (depth + 1) c =
      cfg.perBasicUnit c' (if c' = cfg.getSEUSDCurrencyId then some cfg.seusdFixedPrice else cfg.source c') := by
  simp only [accessPrice, hpeg]
  by_cases hseusd : c' = cfg.getSEUSDCurrencyId
  · rw [if_pos hseusd, if_pos hseusd]
  · rw [if_neg hseusd, if_neg hseusd]
    have hshare : ∀ share0 share1, c' ≠ .dexShare share0 share1 := hother.resolve_left hseusd
    cases c' with
    | dexShare share0 share1 => exact absurd rfl (hshare share0 share1)
    | token _ | erc20 _ | foreignAsset _ => rfl

theorem accessPrice_dexShare_mul_le {share0 share1 : DexShare}
    (hpeg : (cfg.pricingPegged c).getD c = .dexShare share0 share1)
    (hseusd : CurrencyId.dexShare share0 share1 ≠ cfg.getSEUSDCurrencyId) (h : cfg.accessPrice (depth + 1) c = some x) :
    ∃ price0 price1, cfg.accessPrice depth share0.toCurrencyId = some price0 ∧
      cfg.accessPrice depth share1.toCurrencyId = some price1 ∧
      x.inner * cfg.totalIssuance (.dexShare share0 share1) ≤
        (cfg.getLiquidityPool share0.toCurrencyId share1.toCurrencyId).1 * price0.inner +
          (cfg.getLiquidityPool share0.toCurrencyId share1.toCurrencyId).2 * price1.inner := by
  rw [accessPrice_dexShare hpeg hseusd] at h
  obtain ⟨price0, hprice0, h⟩ := Option.bind_eq_some_iff.mp h
  obtain ⟨price1, hprice1, h⟩ := Option.bind_eq_some_iff.mp h
  exact ⟨price0, price1, hprice0, hprice1, lpTokenFairPrice_mul_le h⟩

theorem accessPrice_other_depth (hpeg : (cfg.pricingPegged c).getD c = c')
    (hother : c' = cfg.getSEUSDCurrencyId ∨ ∀ share0 share1, c' ≠ .dexShare share0 share1) (depth : Nat) :
    cfg.accessPrice (depth + 1) c = cfg.accessPrice 1 c :=
  (accessPrice_other hpeg hother).trans (accessPrice_other hpeg hother).symm

theorem accessPrice_dexShare_depth {share0 share1 : DexShare} {c0 c1 : CurrencyId}
    (hpeg : (cfg.pricingPegged c).getD c = .dexShare share0 share1)
    (hseusd : CurrencyId.dexShare share0 share1 ≠ cfg.getSEUSDCurrencyId)
    (hpeg0 : (cfg.pricingPegged share0.toCurrencyId).getD share0.toCurrencyId = c0)
    (hother0 : c0 = cfg.getSEUSDCurrencyId ∨ ∀ share0 share1, c0 ≠ .dexShare share0 share1)
    (hpeg1 : (cfg.pricingPegged share1.toCurrencyId).getD share1.toCurrencyId = c1)
    (hother1 : c1 = cfg.getSEUSDCurrencyId ∨ ∀ share0 share1, c1 ≠ .dexShare share0 share1) (depth : Nat) :
    cfg.accessPrice (depth + 1 + 1) c = cfg.accessPrice (0 + 1 + 1) c := by
  rw [accessPrice_dexShare hpeg hseusd, accessPrice_dexShare hpeg hseusd,
    accessPrice_other_depth hpeg0 hother0 depth, accessPrice_other_depth hpeg1 hother1 depth,
    accessPrice_other_depth hpeg0 hother0 0, accessPrice_other_depth hpeg1 hother1 0]

end Config

/-- Share prices are well founded and conservative. A share whose components
are priced as no share gets the same price at every depth of the recursion
above one, so the bound the model counts is not reached; the price of a
share priced by its pool, times its supply, is at most the pool's value at
its components' prices; and a swap along the pool's curve never lowers the
fair price. -/
theorem share_price_sound :
    (∀ (cfg : Config) (c c0 c1 : CurrencyId) (share0 share1 : DexShare) (depth : Nat),
      (cfg.pricingPegged c).getD c = .dexShare share0 share1 →
      CurrencyId.dexShare share0 share1 ≠ cfg.getSEUSDCurrencyId →
      (cfg.pricingPegged share0.toCurrencyId).getD share0.toCurrencyId = c0 →
      (c0 = cfg.getSEUSDCurrencyId ∨ ∀ share0 share1, c0 ≠ .dexShare share0 share1) →
      (cfg.pricingPegged share1.toCurrencyId).getD share1.toCurrencyId = c1 →
      (c1 = cfg.getSEUSDCurrencyId ∨ ∀ share0 share1, c1 ≠ .dexShare share0 share1) →
      cfg.accessPrice (depth + 1 + 1) c = cfg.accessPrice (0 + 1 + 1) c) ∧
    (∀ (cfg : Config) (c : CurrencyId) (share0 share1 : DexShare) (depth : Nat) (x : FixedU128),
      (cfg.pricingPegged c).getD c = .dexShare share0 share1 →
      CurrencyId.dexShare share0 share1 ≠ cfg.getSEUSDCurrencyId → cfg.accessPrice (depth + 1) c = some x →
      ∃ price0 price1, cfg.accessPrice depth share0.toCurrencyId = some price0 ∧
        cfg.accessPrice depth share1.toCurrencyId = some price1 ∧
        x.inner * cfg.totalIssuance (.dexShare share0 share1) ≤
          (cfg.getLiquidityPool share0.toCurrencyId share1.toCurrencyId).1 * price0.inner +
            (cfg.getLiquidityPool share0.toCurrencyId share1.toCurrencyId).2 * price1.inner) ∧
    ∀ {AccountId L : Type} (T : Swap.Config AccountId L) (S a b amount : Nat) (P Q x' : FixedU128),
      T.getExchangeFee.2 < 2 ^ 32 → a < 2 ^ 128 → amount < 2 ^ 128 → 0 < b →
      lpTokenFairPrice S (a + amount) (b - Swap.getTargetAmount T a b amount) P Q = some x' →
      ∃ x, lpTokenFairPrice S a b P Q = some x ∧ x.inner ≤ x'.inner :=
  ⟨fun _ _ _ _ _ _ _ hpeg hseusd hpeg0 hother0 hpeg1 hother1 =>
      Config.accessPrice_dexShare_depth hpeg hseusd hpeg0 hother0 hpeg1 hother1 _,
    fun _ _ _ _ _ _ hpeg hseusd h => Config.accessPrice_dexShare_mul_le hpeg hseusd h,
    fun T _ _ _ _ _ _ _ hD ha hx hb0 h => lpTokenFairPrice_after_swap T hD ha hx hb0 h⟩

theorem fair_price_resists_manipulation :
    (∀ (S a b a' b' : Nat) (P Q : FixedU128), a < 2 ^ 128 → b < 2 ^ 128 → a' < 2 ^ 128 → b' < 2 ^ 128 →
      Nat.sqrt (a * b) = Nat.sqrt (a' * b') → lpTokenFairPrice S a b P Q = lpTokenFairPrice S a' b' P Q) ∧
    (∀ (S a b a' b' : Nat) (P Q x' : FixedU128), a * b ≤ a' * b' → lpTokenFairPrice S a' b' P Q = some x' →
      ∃ x, lpTokenFairPrice S a b P Q = some x ∧ x.inner ≤ x'.inner) ∧
    (∀ (S a b : Nat) (P Q x : FixedU128),
      lpTokenFairPrice S a b P Q = some x → x.inner * S ≤ a * P.inner + b * Q.inner) ∧
    (∀ (cfg : Config) (depth : Nat) (c : CurrencyId) (share0 share1 : DexShare),
      (cfg.pricingPegged c).getD c = .dexShare share0 share1 →
      CurrencyId.dexShare share0 share1 ≠ cfg.getSEUSDCurrencyId →
      cfg.accessPrice (depth + 1) c =
        (cfg.accessPrice depth share0.toCurrencyId).bind fun price0 =>
          (cfg.accessPrice depth share1.toCurrencyId).bind fun price1 =>
            lpTokenFairPrice (cfg.totalIssuance (.dexShare share0 share1))
              (cfg.getLiquidityPool share0.toCurrencyId share1.toCurrencyId).1
              (cfg.getLiquidityPool share0.toCurrencyId share1.toCurrencyId).2 price0 price1) ∧
    (∀ (cfg : Config) (depth : Nat) (c c' : CurrencyId) (x : FixedU128),
      (cfg.pricingPegged c).getD c = c' →
      (c' = cfg.getSEUSDCurrencyId ∨ ∀ share0 share1, c' ≠ .dexShare share0 share1) →
      (cfg.accessPrice (depth + 1) c = some x ↔
        ∃ price decimals,
          (if c' = cfg.getSEUSDCurrencyId then some cfg.seusdFixedPrice else cfg.source c') = some price ∧
          cfg.decimals c' = some decimals ∧ 10 ^ decimals < 2 ^ 128 ∧
          x.inner = price.inner * FixedU128.DIV / 10 ^ decimals)) := by
  refine ⟨fun S a b a' b' P Q ha hb ha' hb' h => lpTokenFairPrice_eq_of_sqrt_eq ha hb ha' hb' h,
    fun S a b a' b' P Q x' hab h => lpTokenFairPrice_mono hab h,
    fun S a b P Q x h => lpTokenFairPrice_mul_le h,
    fun cfg depth c share0 share1 hpeg hseusd => Config.accessPrice_dexShare hpeg hseusd, ?_⟩
  intro cfg depth c c' x hpeg hother
  rw [Config.accessPrice_other hpeg hother]
  cases (if c' = cfg.getSEUSDCurrencyId then some cfg.seusdFixedPrice else cfg.source c') with
  | none => simp
  | some price => simp [Config.perBasicUnit_eq_some]

namespace Reference

/-- A liquidity share of SEU and SEUSD. -/
def seuSeusdShare : CurrencyId := .dexShare (.token .SEU) (.token .SEUSD)

/-- A configuration that pegs the SEU-SEUSD share to SEUSD, which has 12 decimals. -/
def peggedShare : Config where
  source _ := none
  seusdFixedPrice := FixedU128.one
  getSEUSDCurrencyId := .token .SEUSD
  getLiquidityPool _ _ := (0, 0)
  totalIssuance _ := 0
  decimals _ := some 12
  pricingPegged c := if c = seuSeusdShare then some (.token .SEUSD) else none

theorem pegged_share_priced_as_seusd : peggedShare.accessPrice 2 seuSeusdShare = some ⟨10 ^ 24, by norm_num⟩ :=
  (fair_price_resists_manipulation.2.2.2.2 peggedShare 1 seuSeusdShare (.token .SEUSD) ⟨10 ^ 24, by norm_num⟩
    (by decide) (.inl rfl)).mpr ⟨FixedU128.one, 12, by decide, rfl, by norm_num, by decide⟩

/-- The peg is read before the share: a pegged liquidity share is priced as
SEUSD, per basic unit, while the fair price from its components gives none. -/
theorem pegged_share_not_fair_price :
    peggedShare.accessPrice 2 seuSeusdShare = some ⟨10 ^ 24, by norm_num⟩ ∧
      ((peggedShare.accessPrice 1 (.token .SEU)).bind fun price0 =>
        (peggedShare.accessPrice 1 (.token .SEUSD)).bind fun price1 =>
          lpTokenFairPrice 0 0 0 price0 price1) = none := by
  constructor <;> decide

/-- A configuration that prices every token at one per whole token of 12
decimals and the SEU-SEUSD share by its pool of 10^12 of each, with 10^12
shares issued. -/
def pooledShare : Config where
  source _ := some FixedU128.one
  seusdFixedPrice := FixedU128.one
  getSEUSDCurrencyId := .token .SEUSD
  getLiquidityPool _ _ := (10 ^ 12, 10 ^ 12)
  totalIssuance _ := 10 ^ 12
  decimals _ := some 12
  pricingPegged _ := none

/-- The share of the pooled configuration is priced the same at depth 7 as
at depth 2, and any price it gets, times its supply, is within the pool's
value. -/
theorem pooled_share_priced_at_depth_two :
    pooledShare.accessPrice 7 seuSeusdShare = pooledShare.accessPrice 2 seuSeusdShare ∧
      ∀ x, pooledShare.accessPrice 2 seuSeusdShare = some x →
        ∃ price0 price1, pooledShare.accessPrice 1 (.token .SEU) = some price0 ∧
          pooledShare.accessPrice 1 (.token .SEUSD) = some price1 ∧
          x.inner * 10 ^ 12 ≤ 10 ^ 12 * price0.inner + 10 ^ 12 * price1.inner := by
  refine ⟨share_price_sound.1 pooledShare seuSeusdShare (.token .SEU) (.token .SEUSD) (.token .SEU)
    (.token .SEUSD) 5 rfl (by decide) rfl (.inr fun _ _ h => CurrencyId.noConfusion h) rfl (.inl rfl),
    fun x hx => ?_⟩
  exact share_price_sound.2.1 pooledShare seuSeusdShare (.token .SEU) (.token .SEUSD) 1 x rfl (by decide) hx

end Reference

end Setheum.Prices
