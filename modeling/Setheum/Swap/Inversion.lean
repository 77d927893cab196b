import Setheum.Swap.Calls

/-!
# What a successful call does

One inversion lemma per call of the pallet: from `call = .ok r` it recovers
every check that passed, every call into `MultiCurrency` and `Incentives`
with its result, and the new storage as a composition of writes. Later proofs
cite these lemmas and never unfold a call. The lemmas on the quotes give the
shape of the amounts a successful quote returns.
-/

namespace Setheum.Swap

variable {AccountId L : Type} (T : Config AccountId L)
variable {s s' : State AccountId L} {origin : Origin AccountId} {who : AccountId} {a b : CurrencyId}

/-! ## Quotes -/

/-- Consecutive currencies of a path form trading pairs. -/
def ValidHops (path : List CurrencyId) : Prop :=
  path.IsChain fun a b => (TradingPair.fromCurrencyIds a b).isSome

theorem hopLiquidity_ok {pools : Nat × Nat} (h : hopLiquidity s a b = .ok pools) :
    ∃ p, TradingPair.fromCurrencyIds a b = some p ∧ s.tradingPairStatuses p = .enabled ∧
      pools = getLiquidity s a b ∧ pools.1 ≠ 0 ∧ pools.2 ≠ 0 := by
  unfold hopLiquidity at h
  simp only [bind_eq_ok, okOr_eq_ok, ensure_eq_ok, pure_eq_ok, decide_eq_true_eq] at h
  obtain ⟨p, hp, -, hs, -, ⟨h1, h2⟩, rfl⟩ := h
  exact ⟨p, hp, hs, rfl, h1, h2⟩

theorem targetAmountsFrom_cons_ok {c d : CurrencyId} {rest : List CurrencyId} {x : Nat}
    {amounts : List Nat} (h : targetAmountsFrom T s (c :: d :: rest) x = .ok amounts) :
    ∃ pools later, hopLiquidity s c d = .ok pools ∧
      getTargetAmount T pools.1 pools.2 x ≠ 0 ∧
      targetAmountsFrom T s (d :: rest) (getTargetAmount T pools.1 pools.2 x) = .ok later ∧
      amounts = x :: later := by
  simp only [targetAmountsFrom, bind_eq_ok, ensure_eq_ok, pure_eq_ok, decide_eq_true_eq] at h
  obtain ⟨pools, hp, -, hne, later, hl, rfl⟩ := h
  exact ⟨pools, later, hp, hne, hl, rfl⟩

theorem targetAmountsFrom_shape {path : List CurrencyId} {x : Nat} {amounts : List Nat}
    (hne : path ≠ []) (h : targetAmountsFrom T s path x = .ok amounts) :
    ValidHops path ∧ amounts.length = path.length ∧ amounts.headD 0 = x := by
  induction path generalizing x amounts with
  | nil => exact absurd rfl hne
  | cons c rest ih =>
      cases rest with
      | nil =>
          simp only [targetAmountsFrom, pure_eq_ok] at h
          subst h
          exact ⟨List.isChain_singleton c, rfl, rfl⟩
      | cons d rest =>
          obtain ⟨pools, later, hpools, -, hlater, rfl⟩ := targetAmountsFrom_cons_ok T h
          obtain ⟨p, hp, -⟩ := hopLiquidity_ok hpools
          obtain ⟨hv, hlen, -⟩ := ih (List.cons_ne_nil _ _) hlater
          exact ⟨List.isChain_cons_cons.2 ⟨by simp [hp], hv⟩, by simp [hlen], rfl⟩

theorem supplyAmountsTo_cons_ok {c d : CurrencyId} {rest : List CurrencyId} {t : Nat}
    {r : Nat × List Nat} (h : supplyAmountsTo T s (c :: d :: rest) t = .ok r) :
    ∃ later pools, supplyAmountsTo T s (d :: rest) t = .ok later ∧ hopLiquidity s c d = .ok pools ∧
      getSupplyAmount T pools.1 pools.2 later.1 ≠ 0 ∧
      r = (getSupplyAmount T pools.1 pools.2 later.1, getSupplyAmount T pools.1 pools.2 later.1 :: later.2) := by
  simp only [supplyAmountsTo, bind_eq_ok, ensure_eq_ok, pure_eq_ok, decide_eq_true_eq] at h
  obtain ⟨later, hl, pools, hp, -, hne, rfl⟩ := h
  exact ⟨later, pools, hl, hp, hne, rfl⟩

theorem supplyAmountsTo_shape {path : List CurrencyId} {t : Nat} {r : Nat × List Nat}
    (hne : path ≠ []) (h : supplyAmountsTo T s path t = .ok r) :
    ValidHops path ∧ r.2.length = path.length ∧ r.2.headD 0 = r.1 ∧ r.2.getLastD 0 = t := by
  induction path generalizing r with
  | nil => exact absurd rfl hne
  | cons c rest ih =>
      cases rest with
      | nil =>
          simp only [supplyAmountsTo, pure_eq_ok] at h
          subst h
          exact ⟨List.isChain_singleton c, rfl, rfl, rfl⟩
      | cons d rest =>
          obtain ⟨later, pools, hlater, hpools, -, rfl⟩ := supplyAmountsTo_cons_ok T h
          obtain ⟨p, hp, -⟩ := hopLiquidity_ok hpools
          obtain ⟨hv, hlen, -, hlast⟩ := ih (List.cons_ne_nil _ _) hlater
          have hne' : later.2 ≠ [] := by
            intro e; rw [e] at hlen; simp at hlen
          refine ⟨List.isChain_cons_cons.2 ⟨by simp [hp], hv⟩, by simp [hlen], rfl, ?_⟩
          obtain ⟨y, ys, hys⟩ := List.exists_cons_of_ne_nil hne'
          rw [hys] at hlast ⊢
          simpa only [List.getLastD_cons] using hlast

theorem validatePath_ok {path : List CurrencyId} {u : Unit} (h : validatePath T path = .ok u) :
    2 ≤ path.length ∧ path.length ≤ T.tradingPathLimit ∧ path.head? ≠ path.getLast? := by
  unfold validatePath at h
  simp only [bind_eq_ok, ensure_eq_ok, decide_eq_true_eq] at h
  obtain ⟨-, ⟨h1, h2⟩, h3⟩ := h
  exact ⟨h1, h2, h3⟩

theorem getTargetAmounts_ok {path : List CurrencyId} {x : Nat} {amounts : List Nat}
    (h : getTargetAmounts T s path x = .ok amounts) :
    2 ≤ path.length ∧ path.length ≤ T.tradingPathLimit ∧ path.head? ≠ path.getLast? ∧
      targetAmountsFrom T s path x = .ok amounts ∧
      ValidHops path ∧ amounts.length = path.length ∧ amounts.headD 0 = x := by
  unfold getTargetAmounts at h
  simp only [bind_eq_ok] at h
  obtain ⟨u, hv, h⟩ := h
  obtain ⟨h2, hlim, hends⟩ := validatePath_ok T hv
  have hne : path ≠ [] := by rintro rfl; simp at h2
  exact ⟨h2, hlim, hends, h, targetAmountsFrom_shape T hne h⟩

theorem getSupplyAmounts_ok {path : List CurrencyId} {t : Nat} {amounts : List Nat}
    (h : getSupplyAmounts T s path t = .ok amounts) :
    2 ≤ path.length ∧ path.length ≤ T.tradingPathLimit ∧ path.head? ≠ path.getLast? ∧
      supplyAmountsTo T s path t = .ok (amounts.headD 0, amounts) ∧
      ValidHops path ∧ amounts.length = path.length ∧ amounts.getLastD 0 = t := by
  unfold getSupplyAmounts at h
  simp only [bind_eq_ok, pure_eq_ok] at h
  obtain ⟨u, hv, r, hr, rfl⟩ := h
  obtain ⟨h2, hlim, hends⟩ := validatePath_ok T hv
  have hne : path ≠ [] := by rintro rfl; simp at h2
  obtain ⟨hvalid, hlen, hhead, hlast⟩ := supplyAmountsTo_shape T hne hr
  refine ⟨h2, hlim, hends, ?_, hvalid, hlen, hlast⟩
  rw [hhead]
  exact hr

/-! ## Liquidity and swaps -/

theorem doAddLiquidity_ok {maxAmountA maxAmountB minShareIncrement : Nat} {stakeIncrementShare : Bool}
    {r : (Nat × Nat × Nat) × State AccountId L}
    (h : doAddLiquidity T s who a b maxAmountA maxAmountB minShareIncrement stakeIncrementShare = .ok r) :
    ∃ p increment, TradingPair.fromCurrencyIds a b = some p ∧
      s.tradingPairStatuses p = .enabled ∧ maxAmountA ≠ 0 ∧ maxAmountB ≠ 0 ∧
      let pool := s.liquidityPool p
      let maxAmount := orient p a maxAmountA maxAmountB
      liquidityIncrement pool.1 pool.2 maxAmount.1 maxAmount.2
        (T.currency.totalIssuance s.ledger p.dexShareCurrencyId) = .ok increment ∧
      increment.2.2 ≠ 0 ∧ increment.1 ≠ 0 ∧ increment.2.1 ≠ 0 ∧ increment.2.2 ≥ minShareIncrement ∧
      pool.1 + increment.1 < 2 ^ 128 ∧ pool.2 + increment.2.1 < 2 ^ 128 ∧
      ∃ l1 l2 l3 l4, T.currency.transfer p.first who T.palletAccount increment.1 s.ledger = some l1 ∧
        T.currency.transfer p.second who T.palletAccount increment.2.1 l1 = some l2 ∧
        T.currency.deposit p.dexShareCurrencyId who increment.2.2 l2 = some l3 ∧
        (if stakeIncrementShare then
          T.incentives.doDepositDexShare who p.dexShareCurrencyId increment.2.2 l3 else some l3) =
          some l4 ∧
        r = (((orient p a increment.1 increment.2.1).1, (orient p a increment.1 increment.2.1).2,
            increment.2.2),
          (s.setLedger l4).setPool p (pool.1 + increment.1, pool.2 + increment.2.1)) := by
  unfold doAddLiquidity at h
  simp only [bind_eq_ok, okOr_eq_ok, external_eq_ok, ensure_eq_ok, Balance.checkedAdd_eq_some,
    decide_eq_true_eq] at h
  obtain ⟨p, hp, -, hs, -, ⟨ha, hb⟩, inc, hinc, -, ⟨hi0, hi1, hi2⟩, -, hmin, l1, hl1, l2, hl2, l3, hl3,
    _, ⟨h0, rfl⟩, _, ⟨h1, rfl⟩, h⟩ := h
  refine ⟨p, inc, hp, hs, ha, hb, hinc, hi0, hi1, hi2, hmin, h0, h1, l1, l2, l3, ?_⟩
  cases stakeIncrementShare
  · simp only [pure_bind, Bool.false_eq_true, if_false, pure_eq_ok] at h
    exact ⟨l3, hl1, hl2, hl3, rfl, h.symm⟩
  · simp only [bind_eq_ok, external_eq_ok, pure_eq_ok, if_true] at h
    obtain ⟨l4, hl4, rfl⟩ := h
    exact ⟨l4, hl1, hl2, hl3, hl4, rfl⟩

theorem doRemoveLiquidity_ok {removeShare minWithdrawnA minWithdrawnB : Nat} {byUnstake : Bool}
    {r : (Nat × Nat) × State AccountId L}
    (h : doRemoveLiquidity T s who a b removeShare minWithdrawnA minWithdrawnB byUnstake = .ok r) :
    removeShare = 0 ∧ r = ((0, 0), s) ∨
    removeShare ≠ 0 ∧ ∃ p proportion, TradingPair.fromCurrencyIds a b = some p ∧
      let pool := s.liquidityPool p
      let minWithdrawn := orient p a minWithdrawnA minWithdrawnB
      FixedU128.checkedFromRational removeShare
        (T.currency.totalIssuance s.ledger p.dexShareCurrencyId) = some proportion ∧
      proportion.mulFloor pool.1 < 2 ^ 128 ∧ proportion.mulFloor pool.2 < 2 ^ 128 ∧
      proportion.mulFloor pool.1 ≥ minWithdrawn.1 ∧ proportion.mulFloor pool.2 ≥ minWithdrawn.2 ∧
      proportion.mulFloor pool.1 ≤ pool.1 ∧ proportion.mulFloor pool.2 ≤ pool.2 ∧
      ∃ l0 l1 l2 l3,
        (if byUnstake then
          T.incentives.doWithdrawDexShare who p.dexShareCurrencyId removeShare s.ledger
          else some s.ledger) = some l0 ∧
        T.currency.withdraw p.dexShareCurrencyId who removeShare l0 = some l1 ∧
        T.currency.transfer p.first T.palletAccount who (proportion.mulFloor pool.1) l1 = some l2 ∧
        T.currency.transfer p.second T.palletAccount who (proportion.mulFloor pool.2) l2 = some l3 ∧
        r = (orient p a (proportion.mulFloor pool.1) (proportion.mulFloor pool.2),
          (s.setLedger l3).setPool p
            (pool.1 - proportion.mulFloor pool.1, pool.2 - proportion.mulFloor pool.2)) := by
  unfold doRemoveLiquidity at h
  split at h
  · exact .inl ⟨‹_›, (pure_eq_ok.1 h).symm⟩
  right
  refine ⟨‹_›, ?_⟩
  simp only [bind_eq_ok, okOr_eq_ok, ensure_eq_ok, FixedU128.checkedMulInt_eq_some,
    decide_eq_true_eq] at h
  obtain ⟨p, hp, q, hq, _, ⟨hd0, rfl⟩, _, ⟨hd1, rfl⟩, -, ⟨hm0, hm1⟩, h⟩ := h
  refine ⟨p, q, hp, hq, hd0, hd1, hm0, hm1, ?_⟩
  cases byUnstake with
  | false =>
      simp only [Bool.false_eq_true, if_false, pure_bind, bind_eq_ok, external_eq_ok, okOr_eq_ok,
        Balance.checkedSub_eq_some, pure_eq_ok] at h
      obtain ⟨l1, hl1, l2, hl2, l3, hl3, _, ⟨hs0, rfl⟩, _, ⟨hs1, rfl⟩, rfl⟩ := h
      exact ⟨hs0, hs1, s.ledger, l1, l2, l3, rfl, hl1, hl2, hl3, rfl⟩
  | true =>
      simp only [if_true, bind_eq_ok, external_eq_ok, okOr_eq_ok, Balance.checkedSub_eq_some,
        pure_eq_ok] at h
      obtain ⟨l0, hl0, l1, hl1, l2, hl2, l3, hl3, _, ⟨hs0, rfl⟩, _, ⟨hs1, rfl⟩, rfl⟩ := h
      exact ⟨hs0, hs1, l0, l1, l2, l3, hl0, hl1, hl2, hl3, rfl⟩

/-- The pool `_swap` leaves behind: supply added on the supply side, target taken on the other. -/
def swappedPool (p : TradingPair) (supplyCurrencyId : CurrencyId) (pool : Nat × Nat)
    (supplyIncrement targetDecrement : Nat) : Nat × Nat :=
  if supplyCurrencyId = p.first then (pool.1 + supplyIncrement, pool.2 - targetDecrement)
  else (pool.1 - targetDecrement, pool.2 + supplyIncrement)

theorem swap_ok {x y : Nat} (h : swap s a b x y = .ok s') :
    TradingPair.fromCurrencyIds a b = none ∧ s' = s ∨
    ∃ p, TradingPair.fromCurrencyIds a b = some p ∧
      let pool := s.liquidityPool p
      (if a = p.first then pool.1 + x < 2 ^ 128 ∧ y ≤ pool.2 else y ≤ pool.1 ∧ pool.2 + x < 2 ^ 128) ∧
      U256.saturatingMul (swappedPool p a pool x y).1 (swappedPool p a pool x y).2 ≥
        U256.saturatingMul pool.1 pool.2 ∧
      s' = s.setPool p (swappedPool p a pool x y) := by
  unfold swap at h
  split at h
  · rename_i p hp
    right
    refine ⟨p, hp, ?_⟩
    -- the continuation after the `if` is elaborated into both of its branches
    split at h
    · rename_i hfirst
      simp only [bind_eq_ok, okOr_eq_ok, ensure_eq_ok, Balance.checkedAdd_eq_some,
        Balance.checkedSub_eq_some, pure_bind, pure_eq_ok, decide_eq_true_eq] at h
      obtain ⟨_, ⟨h0, rfl⟩, _, ⟨h1, rfl⟩, -, hk, rfl⟩ := h
      simp only [swappedPool, hfirst, if_true, and_true]
      exact ⟨⟨h0, h1⟩, hk⟩
    · rename_i hfirst
      simp only [bind_eq_ok, okOr_eq_ok, ensure_eq_ok, Balance.checkedAdd_eq_some,
        Balance.checkedSub_eq_some, pure_bind, pure_eq_ok, decide_eq_true_eq] at h
      obtain ⟨_, ⟨h0, rfl⟩, _, ⟨h1, rfl⟩, -, hk, rfl⟩ := h
      simp only [swappedPool, hfirst, if_false, and_true]
      exact ⟨⟨h0, h1⟩, hk⟩
  · exact .inl ⟨‹_›, (pure_eq_ok.1 h).symm⟩

theorem swapByPath_cons_ok {c d : CurrencyId} {path : List CurrencyId} {x y : Nat} {amounts : List Nat}
    (h : swapByPath s (c :: d :: path) (x :: y :: amounts) = .ok s') :
    ∃ s₁, swap s c d x y = .ok s₁ ∧ swapByPath s₁ (d :: path) (y :: amounts) = .ok s' := by
  simpa only [swapByPath, bind_eq_ok] using h

theorem doSwapWithExactSupply_ok {path : List CurrencyId} {supplyAmount minTargetAmount : Nat}
    {r : Nat × State AccountId L}
    (h : doSwapWithExactSupply T s who path supplyAmount minTargetAmount = .ok r) :
    ∃ amounts, getTargetAmounts T s path supplyAmount = .ok amounts ∧
      amounts.getLastD 0 ≥ minTargetAmount ∧
      ∃ l1 s₁ l2,
        T.currency.transfer (path.headD default) who T.palletAccount supplyAmount s.ledger = some l1 ∧
        swapByPath (s.setLedger l1) path amounts = .ok s₁ ∧
        T.currency.transfer (path.getLastD default) T.palletAccount who (amounts.getLastD 0)
          s₁.ledger = some l2 ∧
        r = (amounts.getLastD 0, s₁.setLedger l2) := by
  unfold doSwapWithExactSupply at h
  simp only [bind_eq_ok, ensure_eq_ok, external_eq_ok, pure_eq_ok, decide_eq_true_eq] at h
  obtain ⟨amounts, ha, -, hmin, l1, hl1, s₁, hs₁, l2, hl2, rfl⟩ := h
  exact ⟨amounts, ha, hmin, l1, s₁, l2, hl1, hs₁, hl2, rfl⟩

theorem doSwapWithExactTarget_ok {path : List CurrencyId} {targetAmount maxSupplyAmount : Nat}
    {r : Nat × State AccountId L}
    (h : doSwapWithExactTarget T s who path targetAmount maxSupplyAmount = .ok r) :
    ∃ amounts, getSupplyAmounts T s path targetAmount = .ok amounts ∧
      amounts.headD 0 ≤ maxSupplyAmount ∧
      ∃ l1 s₁ l2,
        T.currency.transfer (path.headD default) who T.palletAccount (amounts.headD 0) s.ledger =
          some l1 ∧
        swapByPath (s.setLedger l1) path amounts = .ok s₁ ∧
        T.currency.transfer (path.getLastD default) T.palletAccount who targetAmount s₁.ledger =
          some l2 ∧
        r = (amounts.headD 0, s₁.setLedger l2) := by
  unfold doSwapWithExactTarget at h
  simp only [bind_eq_ok, ensure_eq_ok, external_eq_ok, pure_eq_ok, decide_eq_true_eq] at h
  obtain ⟨amounts, ha, -, hmax, l1, hl1, s₁, hs₁, l2, hl2, rfl⟩ := h
  exact ⟨amounts, ha, hmax, l1, s₁, l2, hl1, hs₁, hl2, rfl⟩

/-! ## Listing and provisioning -/

/-- The shares `claim_dex_share` pays for a contribution at the given rates. -/
def founderShares (rates : FixedU128 × FixedU128) (contribution : Nat × Nat) : Nat :=
  rates.1.mulFloor contribution.1 + rates.2.mulFloor contribution.2

theorem doClaimDexShare_ok [DecidableEq AccountId] [Fintype AccountId]
    (h : doClaimDexShare T s who a b = .ok s') :
    ∃ p, TradingPair.fromCurrencyIds a b = some p ∧ (s.tradingPairStatuses p).isProvisioning = false ∧
      ∃ s₁ : State AccountId L,
        (s.provisioningPool p who = none ∧ s₁ = s ∨
          ∃ contribution l, s.provisioningPool p who = some contribution ∧
            founderShares (s.initialShareExchangeRates p) contribution < 2 ^ 128 ∧
            T.currency.transfer p.dexShareCurrencyId T.palletAccount who
              (founderShares (s.initialShareExchangeRates p) contribution) s.ledger = some l ∧
            s₁ = (s.setProvision p who none).setLedger l) ∧
        s' = if s₁.provisioningPoolIsEmpty p then s₁.setRates p defaultRates else s₁ := by
  unfold doClaimDexShare at h
  simp only [bind_eq_ok, okOr_eq_ok, ensure_eq_ok, Bool.not_eq_true'] at h
  obtain ⟨p, hp, -, hprov, h⟩ := h
  refine ⟨p, hp, hprov, ?_⟩
  split at h
  · rename_i contribution hc
    simp only [bind_eq_ok, okOr_eq_ok, external_eq_ok, FixedU128.checkedMulInt_eq_some,
      Balance.checkedAdd_eq_some, pure_bind] at h
    obtain ⟨_, ⟨-, rfl⟩, _, ⟨-, rfl⟩, _, ⟨hlt, rfl⟩, l, hl, h⟩ := h
    refine ⟨_, .inr ⟨contribution, l, hc, hlt, hl, rfl⟩, ?_⟩
    split at h <;> simp_all
  · rename_i hc
    simp only [pure_bind] at h
    refine ⟨s, .inl ⟨hc, rfl⟩, ?_⟩
    split at h <;> simp_all

theorem doAddProvision_ok [DecidableEq AccountId] {amountA amountB : Nat} (h : doAddProvision T s who a b amountA amountB = .ok s') :
    ∃ p params, TradingPair.fromCurrencyIds a b = some p ∧
      s.tradingPairStatuses p = .provisioning params ∧
      let contribution := orient p a amountA amountB
      let pool := (s.provisioningPool p who).getD (0, 0)
      (contribution.1 ≥ params.minContribution.1 ∨ contribution.2 ≥ params.minContribution.2) ∧
      pool.1 + contribution.1 < 2 ^ 128 ∧ pool.2 + contribution.2 < 2 ^ 128 ∧
      params.accumulatedProvision.1 + contribution.1 < 2 ^ 128 ∧
      params.accumulatedProvision.2 + contribution.2 < 2 ^ 128 ∧
      ∃ l1 l2, T.currency.transfer p.first who T.palletAccount contribution.1 s.ledger = some l1 ∧
        T.currency.transfer p.second who T.palletAccount contribution.2 l1 = some l2 ∧
        s' = ((s.setLedger l2).setProvision p who
          (some (pool.1 + contribution.1, pool.2 + contribution.2))).setStatus p
          (.provisioning { params with accumulatedProvision :=
            (params.accumulatedProvision.1 + contribution.1,
              params.accumulatedProvision.2 + contribution.2) }) := by
  unfold doAddProvision at h
  simp only [bind_eq_ok, okOr_eq_ok] at h
  obtain ⟨p, hp, h⟩ := h
  split at h
  · rename_i params hs
    simp only [bind_eq_ok, okOr_eq_ok, external_eq_ok, ensure_eq_ok, pure_eq_ok,
      Balance.checkedAdd_eq_some, pure_bind, Bool.or_eq_true, decide_eq_true_eq] at h
    obtain ⟨-, hmin, _, ⟨h0, rfl⟩, _, ⟨h1, rfl⟩, l1, hl1, l2, hl2, _, ⟨h2, rfl⟩, _, ⟨h3, rfl⟩,
      rfl⟩ := h
    exact ⟨p, params, hp, hs, hmin, h0, h1, h2, h3, l1, l2, hl1, hl2, rfl⟩
  · simp only [bind_eq_ok, throw_ne_ok, false_and, exists_false] at h

theorem updateProvisioningParameters_ok {m0 m1 t0 t1 notBefore : Nat}
    (h : updateProvisioningParameters T s origin a b m0 m1 t0 t1 notBefore = .ok s') :
    T.listingOrigin origin = true ∧ ∃ p params, TradingPair.fromCurrencyIds a b = some p ∧
      s.tradingPairStatuses p = .provisioning params ∧
      s' = s.setStatus p (.provisioning
        { minContribution := orient p a m0 m1, targetProvision := orient p a t0 t1,
          accumulatedProvision := params.accumulatedProvision, notBefore }) := by
  unfold updateProvisioningParameters ensureListingOrigin at h
  simp only [bind_eq_ok, ensure_eq_ok, okOr_eq_ok] at h
  obtain ⟨-, ho, p, hp, h⟩ := h
  split at h
  · exact ⟨ho, p, _, hp, ‹_›, (pure_eq_ok.1 h).symm⟩
  · exact absurd h throw_ne_ok

theorem enableTradingPair_ok {a b : CurrencyId} (h : enableTradingPair T s origin a b = .ok s') :
    T.listingOrigin origin = true ∧ ∃ p, TradingPair.fromCurrencyIds a b = some p ∧
      (s.tradingPairStatuses p = .disabled ∨ ∃ params, s.tradingPairStatuses p = .provisioning params ∧
        params.accumulatedProvision = (0, 0)) ∧
      s' = s.setStatus p .enabled := by
  unfold enableTradingPair ensureListingOrigin at h
  simp only [bind_eq_ok, ensure_eq_ok, okOr_eq_ok] at h
  obtain ⟨-, ho, p, hp, h⟩ := h
  refine ⟨ho, p, hp, ?_⟩
  split at h
  · exact ⟨.inl ‹_›, (pure_eq_ok.1 (by simpa only [pure_bind] using h)).symm⟩
  · rename_i params hs
    simp only [bind_eq_ok, ensure_eq_ok, pure_eq_ok, Bool.and_eq_true, decide_eq_true_eq] at h
    obtain ⟨-, ⟨h0, h1⟩, rfl⟩ := h
    exact ⟨.inr ⟨params, hs, Prod.ext h0 h1⟩, rfl⟩
  · simp only [bind_eq_ok, throw_ne_ok, false_and, exists_false] at h

theorem disableTradingPair_ok (h : disableTradingPair T s origin a b = .ok s') :
    T.listingOrigin origin = true ∧ ∃ p, TradingPair.fromCurrencyIds a b = some p ∧
      s.tradingPairStatuses p = .enabled ∧ s' = s.setStatus p .disabled := by
  unfold disableTradingPair ensureListingOrigin at h
  simp only [bind_eq_ok, ensure_eq_ok, okOr_eq_ok, pure_eq_ok, decide_eq_true_eq] at h
  obtain ⟨-, ho, p, hp, -, hs, rfl⟩ := h
  exact ⟨ho, p, hp, hs, rfl⟩

theorem abortProvisioning_ok (h : abortProvisioning T s origin a b = .ok s') :
    (∃ signer, origin = .signed signer) ∧ ∃ p params, TradingPair.fromCurrencyIds a b = some p ∧
      s.tradingPairStatuses p = .provisioning params ∧
      (params.metTarget = false ∧ s.blockNumber > params.notBefore + T.extendedProvisioningBlocks ∧
          s' = s.setStatus p .disabled ∨
        s' = s) := by
  unfold abortProvisioning at h
  simp only [bind_eq_ok, okOr_eq_ok, ensureSigned_eq_ok] at h
  obtain ⟨signer, rfl, p, hp, h⟩ := h
  refine ⟨⟨signer, rfl⟩, ?_⟩
  split at h
  · rename_i params hs
    refine ⟨p, params, hp, hs, ?_⟩
    split at h
    · rename_i hcond
      simp only [Bool.and_eq_true, Bool.not_eq_true', decide_eq_true_eq] at hcond
      exact .inl ⟨hcond.1, hcond.2, (pure_eq_ok.1 h).symm⟩
    · exact .inr (pure_eq_ok.1 h).symm
  · exact absurd h throw_ne_ok

theorem listProvisioning_ok [Fintype AccountId] {m0 m1 t0 t1 notBefore : Nat}
    (h : listProvisioning T s origin a b m0 m1 t0 t1 notBefore = .ok s') :
    T.listingOrigin origin = true ∧ ∃ p, TradingPair.fromCurrencyIds a b = some p ∧
      s.tradingPairStatuses p = .disabled ∧
      T.currency.totalIssuance s.ledger p.dexShareCurrencyId = 0 ∧
      (∀ who, s.provisioningPool p who = none) ∧
      checkAssetRegistry T a = .ok () ∧ checkAssetRegistry T b = .ok () ∧
      s' = s.setStatus p (.provisioning
        { minContribution := orient p a m0 m1, targetProvision := orient p a t0 t1,
          accumulatedProvision := (0, 0), notBefore }) := by
  unfold listProvisioning ensureListingOrigin at h
  simp only [bind_eq_ok, ensure_eq_ok, okOr_eq_ok, pure_eq_ok, Bool.and_eq_true, decide_eq_true_eq,
    State.provisioningPoolIsEmpty] at h
  obtain ⟨-, ho, p, hp, -, hs, -, ⟨hi, he⟩, ⟨⟩, ha, ⟨⟩, hb, rfl⟩ := h
  exact ⟨ho, p, hp, hs, hi, he, ha, hb, rfl⟩

theorem refundProvision_ok [DecidableEq AccountId] {owner : AccountId} (h : refundProvision T s origin owner a b = .ok s') :
    (∃ signer, origin = .signed signer) ∧ ∃ p, TradingPair.fromCurrencyIds a b = some p ∧
      s.tradingPairStatuses p = .disabled ∧ s.initialShareExchangeRates p = defaultRates ∧
      (s.provisioningPool p owner = none ∧ s' = s ∨
        ∃ contribution l1 l2, s.provisioningPool p owner = some contribution ∧
          T.currency.transfer p.first T.palletAccount owner contribution.1 s.ledger = some l1 ∧
          T.currency.transfer p.second T.palletAccount owner contribution.2 l1 = some l2 ∧
          s' = (s.setProvision p owner none).setLedger l2) := by
  unfold refundProvision at h
  simp only [bind_eq_ok, okOr_eq_ok, ensureSigned_eq_ok, ensure_eq_ok, decide_eq_true_eq] at h
  obtain ⟨signer, rfl, p, hp, -, hs, -, hr, h⟩ := h
  refine ⟨⟨signer, rfl⟩, p, hp, hs, hr, ?_⟩
  split at h
  · rename_i contribution hc
    simp only [bind_eq_ok, external_eq_ok, pure_eq_ok] at h
    obtain ⟨l1, hl1, l2, hl2, rfl⟩ := h
    exact .inr ⟨contribution, l1, l2, hc, hl1, hl2, rfl⟩
  · exact .inl ⟨‹_›, (pure_eq_ok.1 h).symm⟩

theorem endProvisioning_ok (h : endProvisioning T s origin a b = .ok s') :
    (∃ signer, origin = .signed signer) ∧ ∃ p params rate1 l,
      TradingPair.fromCurrencyIds a b = some p ∧
      s.tradingPairStatuses p = .provisioning params ∧
      s.blockNumber ≥ params.notBefore ∧ params.metTarget = true ∧
      let total := params.accumulatedProvision
      FixedU128.checkedFromRational total.1 total.2 = some rate1 ∧
      total.1 + rate1.mulFloor total.2 < 2 ^ 128 ∧
      T.currency.deposit p.dexShareCurrencyId T.palletAccount (total.1 + rate1.mulFloor total.2)
        s.ledger = some l ∧
      (s.liquidityPool p).1 + total.1 < 2 ^ 128 ∧ (s.liquidityPool p).2 + total.2 < 2 ^ 128 ∧
      s' = (((s.setLedger l).setPool p ((s.liquidityPool p).1 + total.1,
        (s.liquidityPool p).2 + total.2)).setStatus p .enabled).setRates p (FixedU128.one, rate1) := by
  unfold endProvisioning at h
  simp only [bind_eq_ok, okOr_eq_ok, ensureSigned_eq_ok] at h
  obtain ⟨signer, rfl, p, hp, h⟩ := h
  refine ⟨⟨signer, rfl⟩, ?_⟩
  split at h
  · rename_i params hs
    simp only [bind_eq_ok, okOr_eq_ok, ensure_eq_ok, external_eq_ok, pure_eq_ok,
      Balance.checkedAdd_eq_some, FixedU128.checkedMulInt_eq_some, FixedU128.mulFloor_one,
      Bool.and_eq_true, decide_eq_true_eq] at h
    obtain ⟨-, ⟨hbn, hmet⟩, rate1, hr, _, ⟨-, rfl⟩, _, ⟨-, rfl⟩, _, ⟨hsum, rfl⟩, l, hl,
      _, ⟨h0, rfl⟩, _, ⟨h1, rfl⟩, rfl⟩ := h
    exact ⟨p, params, rate1, l, hp, hs, hbn, hmet, hr, hsum, hl, h0, h1, rfl⟩
  · exact absurd h throw_ne_ok

/-! ## Genesis -/

theorem addGenesisLiquidity_ok {who : AccountId} {s t : State AccountId L}
    {b : TradingPair × (Nat × Nat)} (h : addGenesisLiquidity T who s b = some t) :
    ∃ r, doAddLiquidity T s who b.1.first b.1.second b.2.1 b.2.2 0 false = .ok r ∧ t = r.2 := by
  obtain ⟨p, d0, d1⟩ := b
  simp only [addGenesisLiquidity] at h
  split at h
  · cases hr : doAddLiquidity T s who p.first p.second d0 d1 0 false with
    | error e => simp [hr, Except.toOption] at h
    | ok r =>
        simp only [hr, Except.toOption, Option.map_some, Option.some.injEq] at h
        exact ⟨r, rfl, h.symm⟩
  · cases h

end Setheum.Swap
