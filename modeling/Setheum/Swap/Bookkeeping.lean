import Setheum.Swap.Obligation

/-!
# The provisioning record

What the pallet's storage says about provisioning, pair by pair, in every
reachable state: while a pair is `Provisioning` its `accumulated_provision`
is the sum of its entries in `ProvisioningPool` and its
`InitialShareExchangeRates` are the default; rates that are not the default
have an entry left to pay; and the DEX account has no entry of its own. Each
call is shown to keep this record (`Bookkeeping`); the solvency proof reads it
where a call moves provisions.
-/

namespace Setheum.Swap

variable {AccountId L : Type}

/-- `s'` keeps the statuses, provisions and rates of `s` at every pair but `p`. -/
def AgreeOff (p : TradingPair) (s s' : State AccountId L) : Prop :=
  ∀ q, q ≠ p → s'.tradingPairStatuses q = s.tradingPairStatuses q ∧
    s'.provisioningPool q = s.provisioningPool q ∧
    s'.initialShareExchangeRates q = s.initialShareExchangeRates q

section AgreeOff

variable {p : TradingPair} {s s' : State AccountId L}

theorem AgreeOff.refl (p : TradingPair) (s : State AccountId L) : AgreeOff p s s :=
  fun _ _ => ⟨rfl, rfl, rfl⟩

theorem AgreeOff.setLedger (h : AgreeOff p s s') (l : L) : AgreeOff p s (s'.setLedger l) := h

theorem AgreeOff.setPool (h : AgreeOff p s s') (q : TradingPair) (v : Nat × Nat) :
    AgreeOff p s (s'.setPool q v) := h

theorem AgreeOff.setStatus (h : AgreeOff p s s') (v : TradingPairStatus) :
    AgreeOff p s (s'.setStatus p v) := fun q hq => by
  obtain ⟨h1, h2, h3⟩ := h q hq
  exact ⟨by simp [Function.update_of_ne hq, h1], h2, h3⟩

theorem AgreeOff.setRates (h : AgreeOff p s s') (r : FixedU128 × FixedU128) :
    AgreeOff p s (s'.setRates p r) := fun q hq => by
  obtain ⟨h1, h2, h3⟩ := h q hq
  exact ⟨h1, h2, by simp [Function.update_of_ne hq, h3]⟩

theorem AgreeOff.setProvision [DecidableEq AccountId] (h : AgreeOff p s s') (who : AccountId)
    (v : Option (Nat × Nat)) : AgreeOff p s (s'.setProvision p who v) := fun q hq => by
  obtain ⟨h1, h2, h3⟩ := h q hq
  exact ⟨h1, by simp [Function.update_of_ne hq, h2], h3⟩

end AgreeOff

theorem TradingPairStatus.ne_provisioning {st : TradingPairStatus} (h : st.isProvisioning = false)
    (params : ProvisioningParameters) : st ≠ .provisioning params := by
  rintro rfl
  cases h

variable [Fintype AccountId] (T : Config AccountId L)

/-- The sum of the provisions made to a pair. -/
def totalContribution (s : State AccountId L) (p : TradingPair) : Nat × Nat :=
  (∑ who, (contributionOf s p who).1, ∑ who, (contributionOf s p who).2)

/-- The provisioning record of one pair. -/
structure PairBookkeeping (s : State AccountId L) (p : TradingPair) : Prop where
  accumulated : ∀ params, s.tradingPairStatuses p = .provisioning params →
    params.accumulatedProvision = totalContribution s p ∧
      s.initialShareExchangeRates p = defaultRates
  ratesClaimed : s.initialShareExchangeRates p ≠ defaultRates →
    ∃ who, s.provisioningPool p who ≠ none
  noPalletEntry : s.provisioningPool p T.palletAccount = none

/-- The provisioning record of every pair. -/
def Bookkeeping (s : State AccountId L) : Prop := ∀ p, PairBookkeeping T s p

variable {T}

/-! ## Pair by pair -/

theorem PairBookkeeping.congr {s s' : State AccountId L} {p : TradingPair}
    (h : PairBookkeeping T s p) (hst : s'.tradingPairStatuses p = s.tradingPairStatuses p)
    (hpp : s'.provisioningPool p = s.provisioningPool p)
    (hr : s'.initialShareExchangeRates p = s.initialShareExchangeRates p) :
    PairBookkeeping T s' p where
  accumulated params hs := by
    have htot : totalContribution s' p = totalContribution s p := by
      simp only [totalContribution, contributionOf, hpp]
    rw [htot, hr]
    exact h.accumulated params (hst ▸ hs)
  ratesClaimed hne := by
    rw [hpp]
    exact h.ratesClaimed (hr ▸ hne)
  noPalletEntry := by
    rw [hpp]
    exact h.noPalletEntry

theorem Bookkeeping.of_pair {s s' : State AccountId L} (h : Bookkeeping T s) (p : TradingPair)
    (hoff : AgreeOff p s s') (hp : PairBookkeeping T s' p) : Bookkeeping T s' := by
  intro q
  by_cases hq : q = p
  · subst hq
    exact hp
  · obtain ⟨h1, h2, h3⟩ := hoff q hq
    exact (h q).congr h1 h2 h3

theorem Bookkeeping.congr {s s' : State AccountId L} (h : Bookkeeping T s)
    (hst : s'.tradingPairStatuses = s.tradingPairStatuses)
    (hpp : s'.provisioningPool = s.provisioningPool)
    (hr : s'.initialShareExchangeRates = s.initialShareExchangeRates) : Bookkeeping T s' :=
  fun q => (h q).congr (congrFun hst q) (congrFun hpp q) (congrFun hr q)

theorem Bookkeeping.setStatus {s : State AccountId L} (h : Bookkeeping T s) (p : TradingPair)
    {status : TradingPairStatus} (hst : ∀ params, status ≠ .provisioning params) :
    Bookkeeping T (s.setStatus p status) := by
  refine h.of_pair p ((AgreeOff.refl p s).setStatus status) ?_
  exact {
    accumulated := fun params hs => by
      simp only [State.setStatus_status, Function.update_self] at hs
      exact absurd hs (hst params)
    ratesClaimed := (h p).ratesClaimed
    noPalletEntry := (h p).noPalletEntry }

theorem Bookkeeping.setStatus_provisioning {s : State AccountId L} (h : Bookkeeping T s)
    (p : TradingPair) {params : ProvisioningParameters}
    (htot : params.accumulatedProvision = totalContribution s p)
    (hr : s.initialShareExchangeRates p = defaultRates) :
    Bookkeeping T (s.setStatus p (.provisioning params)) := by
  refine h.of_pair p ((AgreeOff.refl p s).setStatus _) ?_
  exact {
    accumulated := fun params' hs => by
      simp only [State.setStatus_status, Function.update_self, TradingPairStatus.provisioning.injEq]
        at hs
      subst hs
      exact ⟨htot, hr⟩
    ratesClaimed := (h p).ratesClaimed
    noPalletEntry := (h p).noPalletEntry }

theorem PairBookkeeping.rates_of_empty {s : State AccountId L} {p : TradingPair}
    (h : PairBookkeeping T s p) (hempty : ∀ who, s.provisioningPool p who = none) :
    s.initialShareExchangeRates p = defaultRates := by
  by_contra hne
  obtain ⟨who, hwho⟩ := h.ratesClaimed hne
  exact hwho (hempty who)

theorem totalContribution_of_empty {s : State AccountId L} {p : TradingPair}
    (hempty : ∀ who, s.provisioningPool p who = none) : totalContribution s p = (0, 0) := by
  simp [totalContribution, contributionOf, hempty]

@[simp] theorem totalContribution_setLedger (s : State AccountId L) (l : L) :
    totalContribution (s.setLedger l) = totalContribution s := rfl

@[simp] theorem totalContribution_setStatus (s : State AccountId L) (p : TradingPair)
    (v : TradingPairStatus) : totalContribution (s.setStatus p v) = totalContribution s := rfl

theorem PairBookkeeping.resetRates {s : State AccountId L} {p : TradingPair}
    (hst : (s.tradingPairStatuses p).isProvisioning = false)
    (hpal : s.provisioningPool p T.palletAccount = none) :
    PairBookkeeping T (if s.provisioningPoolIsEmpty p then s.setRates p defaultRates else s) p := by
  split_ifs with hempty
  · refine ⟨fun params hs => absurd hs (TradingPairStatus.ne_provisioning hst params),
      fun hne => ?_, hpal⟩
    simp at hne
  · refine ⟨fun params hs => absurd hs (TradingPairStatus.ne_provisioning hst params),
      fun _ => ?_, hpal⟩
    simpa [State.provisioningPoolIsEmpty] using hempty

theorem AgreeOff.resetRates {p : TradingPair} {s s' : State AccountId L} (h : AgreeOff p s s') :
    AgreeOff p s (if s'.provisioningPoolIsEmpty p then s'.setRates p defaultRates else s') := by
  split_ifs
  · exact h.setRates _
  · exact h

/-! ## Calls that write no entry -/

theorem doAddLiquidity_bookkeeping {s : State AccountId L} (hb : Bookkeeping T s) {who : AccountId}
    {a b : CurrencyId} {maxA maxB minShare : Nat} {stake : Bool}
    {r : (Nat × Nat × Nat) × State AccountId L}
    (h : doAddLiquidity T s who a b maxA maxB minShare stake = .ok r) : Bookkeeping T r.2 := by
  obtain ⟨p, inc, -, -, -, -, -, -, -, -, -, -, -, l1, l2, l3, l4, -, -, -, -, rfl⟩ :=
    doAddLiquidity_ok T h
  exact hb.congr rfl rfl rfl

theorem doRemoveLiquidity_bookkeeping {s : State AccountId L} (hb : Bookkeeping T s)
    {who : AccountId} {a b : CurrencyId} {share minA minB : Nat} {unstake : Bool}
    {r : (Nat × Nat) × State AccountId L}
    (h : doRemoveLiquidity T s who a b share minA minB unstake = .ok r) : Bookkeeping T r.2 := by
  rcases doRemoveLiquidity_ok T h with ⟨-, rfl⟩ | ⟨-, p, q, -, -, -, -, -, -, -, -, l0, l1, l2, l3,
    -, -, -, -, rfl⟩
  · exact hb
  · exact hb.congr rfl rfl rfl

theorem doSwapWithExactSupply_bookkeeping {s : State AccountId L} (hb : Bookkeeping T s)
    {who : AccountId} {path : List CurrencyId} {supplyAmount minTargetAmount : Nat}
    {r : Nat × State AccountId L}
    (h : doSwapWithExactSupply T s who path supplyAmount minTargetAmount = .ok r) :
    Bookkeeping T r.2 := by
  obtain ⟨amounts, -, -, l1, s₁, l2, -, hs₁, -, rfl⟩ := doSwapWithExactSupply_ok T h
  obtain ⟨-, h2, h3, h4⟩ := swapByPath_frame hs₁
  exact hb.congr h2 h3 h4

theorem doSwapWithExactTarget_bookkeeping {s : State AccountId L} (hb : Bookkeeping T s)
    {who : AccountId} {path : List CurrencyId} {targetAmount maxSupplyAmount : Nat}
    {r : Nat × State AccountId L}
    (h : doSwapWithExactTarget T s who path targetAmount maxSupplyAmount = .ok r) :
    Bookkeeping T r.2 := by
  obtain ⟨amounts, -, -, l1, s₁, l2, -, hs₁, -, rfl⟩ := doSwapWithExactTarget_ok T h
  obtain ⟨-, h2, h3, h4⟩ := swapByPath_frame hs₁
  exact hb.congr h2 h3 h4

theorem endProvisioning_bookkeeping {s : State AccountId L} (hb : Bookkeeping T s)
    {origin : Origin AccountId} {a b : CurrencyId} {s' : State AccountId L}
    (h : endProvisioning T s origin a b = .ok s') : Bookkeeping T s' := by
  obtain ⟨-, p, params, rate1, l, -, hs, -, hmet, -, -, -, -, -, rfl⟩ := endProvisioning_ok T h
  have htot := ((hb p).accumulated params hs).1
  have hentry : ∃ who, s.provisioningPool p who ≠ none := by
    by_contra hnone
    push Not at hnone
    have h2 : params.accumulatedProvision.2 ≠ 0 := by
      simp only [ProvisioningParameters.metTarget, Bool.and_eq_true, decide_eq_true_eq] at hmet
      exact hmet.1.2
    rw [htot, totalContribution_of_empty hnone] at h2
    exact h2 rfl
  refine hb.of_pair p ((((AgreeOff.refl p s).setLedger l).setPool _ _).setStatus _ |>.setRates _)
    ⟨fun params' hs' => ?_, fun _ => hentry, (hb p).noPalletEntry⟩
  simp at hs'

theorem listProvisioning_bookkeeping {s : State AccountId L} (hb : Bookkeeping T s)
    {origin : Origin AccountId} {a b : CurrencyId} {m0 m1 t0 t1 notBefore : Nat}
    {s' : State AccountId L}
    (h : listProvisioning T s origin a b m0 m1 t0 t1 notBefore = .ok s') : Bookkeeping T s' := by
  obtain ⟨-, p, -, -, -, hempty, -, -, rfl⟩ := listProvisioning_ok T h
  exact hb.setStatus_provisioning p (totalContribution_of_empty hempty).symm
    ((hb p).rates_of_empty hempty)

theorem updateProvisioningParameters_bookkeeping {s : State AccountId L} (hb : Bookkeeping T s)
    {origin : Origin AccountId} {a b : CurrencyId} {m0 m1 t0 t1 notBefore : Nat}
    {s' : State AccountId L}
    (h : updateProvisioningParameters T s origin a b m0 m1 t0 t1 notBefore = .ok s') :
    Bookkeeping T s' := by
  obtain ⟨-, p, params, -, hs, rfl⟩ := updateProvisioningParameters_ok T h
  obtain ⟨htot, hr⟩ := (hb p).accumulated params hs
  exact hb.setStatus_provisioning p htot hr

/-! ## Calls that write an entry -/

variable [DecidableEq AccountId]

theorem totalContribution_setProvision (s : State AccountId L) (p : TradingPair) (who : AccountId)
    (v : Option (Nat × Nat)) :
    (totalContribution (s.setProvision p who v) p).1 + (contributionOf s p who).1 =
        (totalContribution s p).1 + (v.getD (0, 0)).1 ∧
      (totalContribution (s.setProvision p who v) p).2 + (contributionOf s p who).2 =
        (totalContribution s p).2 + (v.getD (0, 0)).2 :=
  ⟨sum_contributionOf_setProvision Prod.fst s p who v,
    sum_contributionOf_setProvision Prod.snd s p who v⟩

theorem PairBookkeeping.noPalletEntry_setProvision {s : State AccountId L} {p : TradingPair}
    (h : PairBookkeeping T s p) {who : AccountId} {v : Option (Nat × Nat)}
    (hv : who = T.palletAccount → v = none) :
    (s.setProvision p who v).provisioningPool p T.palletAccount = none := by
  simp only [State.setProvision_provision, Function.update_self]
  by_cases hw : T.palletAccount = who
  · subst hw
    simpa using hv rfl
  · rw [Function.update_of_ne hw]
    exact h.noPalletEntry

theorem doAddProvision_bookkeeping {s : State AccountId L} (hb : Bookkeeping T s)
    {who : AccountId} (hwho : who ≠ T.palletAccount) {a b : CurrencyId} {amountA amountB : Nat}
    {s' : State AccountId L} (h : doAddProvision T s who a b amountA amountB = .ok s') :
    Bookkeeping T s' := by
  obtain ⟨p, params, -, hs, -, -, -, -, -, l1, l2, -, -, rfl⟩ := doAddProvision_ok T h
  obtain ⟨htot, hr⟩ := (hb p).accumulated params hs
  have hsum := totalContribution_setProvision (s.setLedger l2) p who
    (some (((s.provisioningPool p who).getD (0, 0)).1 + (orient p a amountA amountB).1,
      ((s.provisioningPool p who).getD (0, 0)).2 + (orient p a amountA amountB).2))
  simp only [totalContribution_setLedger, contributionOf, State.setLedger_provision,
    Option.getD_some] at hsum
  refine hb.of_pair p ((((AgreeOff.refl p s).setLedger l2).setProvision who _).setStatus _)
    ⟨fun params' hs' => ?_, fun hne => absurd hr hne,
      (hb p).noPalletEntry_setProvision fun h => absurd h hwho⟩
  simp only [State.setStatus_status, Function.update_self, TradingPairStatus.provisioning.injEq]
    at hs'
  subst hs'
  refine ⟨Prod.ext ?_ ?_, hr⟩
  · simp only [totalContribution_setStatus, htot]
    omega
  · simp only [totalContribution_setStatus, htot]
    omega

theorem doClaimDexShare_bookkeeping {s : State AccountId L} (hb : Bookkeeping T s)
    {who : AccountId} {a b : CurrencyId} {s' : State AccountId L}
    (h : doClaimDexShare T s who a b = .ok s') : Bookkeeping T s' := by
  obtain ⟨p, -, hprov, s₁, hs₁, rfl⟩ := doClaimDexShare_ok T h
  obtain ⟨hoff, hst, hpal⟩ : AgreeOff p s s₁ ∧
      s₁.tradingPairStatuses p = s.tradingPairStatuses p ∧
      s₁.provisioningPool p T.palletAccount = none := by
    rcases hs₁ with ⟨-, rfl⟩ | ⟨e, l, -, -, -, rfl⟩
    · exact ⟨.refl p _, rfl, (hb p).noPalletEntry⟩
    · exact ⟨((AgreeOff.refl p s).setProvision who none).setLedger l, rfl,
        (hb p).noPalletEntry_setProvision fun _ => rfl⟩
  rw [← hst] at hprov
  exact hb.of_pair p hoff.resetRates (.resetRates hprov hpal)

theorem refundProvision_bookkeeping {s : State AccountId L} (hb : Bookkeeping T s)
    {origin : Origin AccountId} {owner : AccountId} {a b : CurrencyId} {s' : State AccountId L}
    (h : refundProvision T s origin owner a b = .ok s') : Bookkeeping T s' := by
  obtain ⟨-, p, -, hs, hr, hcases⟩ := refundProvision_ok T h
  rcases hcases with ⟨-, rfl⟩ | ⟨e, l1, l2, -, -, -, rfl⟩
  · exact hb
  · refine hb.of_pair p (((AgreeOff.refl p s).setProvision owner none).setLedger l2)
      ⟨fun params hs' => ?_, fun hne => absurd hr hne,
        (hb p).noPalletEntry_setProvision fun _ => rfl⟩
    simp [hs] at hs'

end Setheum.Swap
