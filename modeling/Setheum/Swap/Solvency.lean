import Mathlib
import Setheum.Swap.Bookkeeping
import Setheum.Swap.Reference

/-!
# Solvency of the DEX account

In every state reachable from genesis the DEX account holds, in every
currency, at least what it owes: the pools' reserves, the provisions of the
pairs that have not ended provisioning, and the shares their founders have
not claimed (`obligation`). Each call is shown to move what is owed by no
more than what the DEX account receives net of what it pays out (`Funded`);
where a call moves provisions the argument reads the provisioning record
(`Bookkeeping`). Both are then carried from genesis along every run.
-/

namespace Setheum.Swap

open Transition

variable {AccountId L : Type} [Fintype AccountId] (T : Config AccountId L)

/-- The DEX account holds what it owes. -/
def Covered (s : State AccountId L) : Prop :=
  ∀ c, obligation s c ≤ palletBalance T s.ledger c

/-- From `s` to `s'` what the DEX account owes grows by no more than what it holds. -/
def Funded (s s' : State AccountId L) : Prop :=
  ∀ c, obligation s' c + palletBalance T s.ledger c ≤ obligation s c + palletBalance T s'.ledger c

/-- The provisioning record and the solvency of the DEX account together. -/
structure Solvent (s : State AccountId L) : Prop where
  bookkeeping : Bookkeeping T s
  covered : Covered T s

variable {T}

/-! ## Funded steps -/

theorem Covered.of_funded {s s' : State AccountId L} (h : Covered T s) (hf : Funded T s s') :
    Covered T s' := fun c => by
  have h1 := h c
  have h2 := hf c
  linarith

theorem funded_of_eq {s s' : State AccountId L} (hob : ∀ c, obligation s' c = obligation s c)
    (hl : s'.ledger = s.ledger) : Funded T s s' := fun c => by
  rw [hob c, hl]

theorem funded_of_flows {s s' : State AccountId L} (inflow outflow : CurrencyId → Nat)
    (hob : ∀ c, obligation s' c + outflow c ≤ obligation s c + inflow c)
    (hbal : ∀ c, palletBalance T s.ledger c + inflow c ≤ palletBalance T s'.ledger c + outflow c) :
    Funded T s s' := fun c => by
  have h1 := hob c
  have h2 := hbal c
  linarith

theorem Funded.trans {s₁ s₂ s₃ : State AccountId L} (h₁ : Funded T s₁ s₂) (h₂ : Funded T s₂ s₃) :
    Funded T s₁ s₃ := fun c => by
  have h1 := h₁ c
  have h2 := h₂ c
  linarith

theorem Solvent.of_funded {s s' : State AccountId L} (hs : Solvent T s) (hb : Bookkeeping T s')
    (hf : Funded T s s') : Solvent T s' :=
  ⟨hb, hs.covered.of_funded hf⟩

theorem funded_setStatus (s : State AccountId L) (p : TradingPair) (v : TradingPairStatus) :
    Funded T s (s.setStatus p v) :=
  funded_of_eq (obligation_setStatus s p v) rfl

theorem funded_resetRates (s : State AccountId L) (p : TradingPair) :
    Funded T s (if s.provisioningPoolIsEmpty p then s.setRates p defaultRates else s) := by
  split_ifs with hempty
  · simp only [State.provisioningPoolIsEmpty, decide_eq_true_eq] at hempty
    exact funded_of_eq (fun c => obligation_setRates_of_empty hempty _ c) rfl
  · exact funded_of_eq (fun _ => rfl) rfl

theorem ne_palletAccount_of_entry {s : State AccountId L} {p : TradingPair} {who : AccountId}
    {e : Nat × Nat} (hb : Bookkeeping T s) (he : s.provisioningPool p who = some e) :
    who ≠ T.palletAccount := by
  rintro rfl
  rw [(hb p).noPalletEntry] at he
  cases he

/-! ## How pools, rates and provisions move the obligation -/

theorem obligation_setPool_add (s : State AccountId L) (p : TradingPair) (x y : Nat) (c : CurrencyId) :
    obligation (s.setPool p ((s.liquidityPool p).1 + x, (s.liquidityPool p).2 + y)) c =
      obligation s c + reserveIn c p (x, y) := by
  have h := obligation_setPool s p ((s.liquidityPool p).1 + x, (s.liquidityPool p).2 + y) c
  rw [reserveIn_add c p (s.liquidityPool p) (x, y)] at h
  linarith

theorem obligation_setPool_sub (s : State AccountId L) (p : TradingPair) {x y : Nat}
    (hx : x ≤ (s.liquidityPool p).1) (hy : y ≤ (s.liquidityPool p).2) (c : CurrencyId) :
    obligation (s.setPool p ((s.liquidityPool p).1 - x, (s.liquidityPool p).2 - y)) c +
      reserveIn c p (x, y) = obligation s c := by
  have h := obligation_setPool s p ((s.liquidityPool p).1 - x, (s.liquidityPool p).2 - y) c
  have hsplit := reserveIn_add c p ((s.liquidityPool p).1 - x, (s.liquidityPool p).2 - y) (x, y)
  simp only [Nat.sub_add_cancel hx, Nat.sub_add_cancel hy] at hsplit
  linarith

theorem reserveIn_sum {ι : Type*} (t : Finset ι) (c : CurrencyId) (p : TradingPair)
    (e : ι → Nat × Nat) :
    ∑ i ∈ t, reserveIn c p (e i) = reserveIn c p (∑ i ∈ t, (e i).1, ∑ i ∈ t, (e i).2) := by
  simp only [reserveIn, Finset.sum_add_distrib]
  split_ifs <;> simp

/-- The founders of a pair are paid no more shares than `end_provisioning`
issued for its total: rounding each founder down loses at least as much as
rounding the total. -/
theorem sum_founderShares_le {ι : Type*} [DecidableEq ι] (t : Finset ι) (rate : FixedU128) (e : ι → Nat × Nat) :
    ∑ i ∈ t, founderShares (FixedU128.one, rate) (e i) ≤
      ∑ i ∈ t, (e i).1 + rate.mulFloor (∑ i ∈ t, (e i).2) := by
  simp only [founderShares, FixedU128.mulFloor_one, Finset.sum_add_distrib]
  have h := FinSum.sum_div_le_div_sum t (fun i => rate.inner * (e i).2) FixedU128.DIV
  simp only [← Finset.mul_sum] at h
  simpa only [FixedU128.mulFloor, add_le_add_iff_left] using h

theorem one_rates_ne_default (rate : FixedU128) : (FixedU128.one, rate) ≠ defaultRates := by
  intro h
  have := congrArg (fun r : FixedU128 × FixedU128 => r.1.inner) h
  simp [FixedU128.one, FixedU128.zero, FixedU128.DIV, defaultRates] at this

theorem founderShares_le_entryObligation (rates : FixedU128 × FixedU128) (c : CurrencyId)
    (p : TradingPair) (e : Nat × Nat) :
    (if c = p.dexShareCurrencyId then founderShares rates e else 0) ≤
      entryObligation rates c p e := by
  unfold entryObligation
  omega

theorem sum_entryObligation_default (s : State AccountId L) (c : CurrencyId) (p : TradingPair) :
    ∑ who, entryObligation defaultRates c p (contributionOf s p who) =
      reserveIn c p (totalContribution s p) := by
  simp only [entryObligation_default]
  exact reserveIn_sum _ c p _

/-! ## The state before genesis -/

/-- No pair has an entry, and every pair has the default rates. -/
def NoProvisions (s : State AccountId L) : Prop :=
  ∀ p, (∀ who, s.provisioningPool p who = none) ∧ s.initialShareExchangeRates p = defaultRates

theorem solvent_empty (ledger : L) (blockNumber : Nat) :
    NoProvisions (State.empty ledger blockNumber : State AccountId L) ∧
      Solvent T (State.empty ledger blockNumber) := by
  refine ⟨fun _ => ⟨fun _ => rfl, rfl⟩, fun p => ⟨fun params hs => ?_, fun hne => absurd rfl hne, rfl⟩,
    fun c => ?_⟩
  · cases hs
  · rw [obligation_empty]
    exact Nat.zero_le _

theorem listGenesisPair_solvent {s : State AccountId L} (hn : NoProvisions s) (hs : Solvent T s)
    (b : TradingPair × (Nat × Nat) × (Nat × Nat) × Nat) :
    NoProvisions (listGenesisPair s b) ∧ Solvent T (listGenesisPair s b) := by
  obtain ⟨p, minContribution, targetProvision, notBefore⟩ := b
  obtain ⟨hnone, hr⟩ := hn p
  exact ⟨hn, hs.of_funded
    (hs.bookkeeping.setStatus_provisioning p (totalContribution_of_empty hnone).symm hr)
    (funded_setStatus s p _)⟩

/-! ## What the obligation counts -/

theorem reserves_add_provisions_le_obligation (s : State AccountId L) (c : CurrencyId) :
    ∑ p, reserveIn c p (s.liquidityPool p) +
        ∑ p, (if s.initialShareExchangeRates p = defaultRates then
          ∑ who, reserveIn c p (contributionOf s p who) else 0) ≤ obligation s c := by
  unfold obligation
  rw [← Finset.sum_add_distrib]
  refine Finset.sum_le_sum fun p _ => ?_
  unfold pairObligation
  refine Nat.add_le_add_left ?_ _
  split_ifs with hr
  · exact (Finset.sum_congr rfl fun who _ => by rw [hr, entryObligation_default]).le
  · exact Nat.zero_le _

theorem founderShares_le_obligation (s : State AccountId L) (p : TradingPair) :
    ∑ who, founderShares (s.initialShareExchangeRates p) (contributionOf s p who) ≤
      obligation s p.dexShareCurrencyId := by
  calc ∑ who, founderShares (s.initialShareExchangeRates p) (contributionOf s p who)
      ≤ pairObligation s p.dexShareCurrencyId p := by
        unfold pairObligation
        refine (Finset.sum_le_sum fun who _ => ?_).trans (Nat.le_add_left _ _)
        simpa using founderShares_le_entryObligation (s.initialShareExchangeRates p)
          p.dexShareCurrencyId p (contributionOf s p who)
    _ ≤ obligation s p.dexShareCurrencyId := pairObligation_le_obligation s _ p

variable [DecidableEq AccountId]

theorem sum_entryObligation_one (s : State AccountId L) (rate : FixedU128) (c : CurrencyId)
    (p : TradingPair) :
    ∑ who, entryObligation (FixedU128.one, rate) c p (contributionOf s p who) ≤
      if c = p.dexShareCurrencyId then
        (totalContribution s p).1 + rate.mulFloor (totalContribution s p).2 else 0 := by
  simp only [entryObligation_of_ne_default (one_rates_ne_default rate)]
  split_ifs
  · exact sum_founderShares_le _ rate _
  · simp

/-! ## Each call is funded -/

section Funded

variable (hT : T.Lawful)
include hT

theorem doAddLiquidity_funded {s : State AccountId L} {who : AccountId}
    (hwho : who ≠ T.palletAccount) {a b : CurrencyId} {maxA maxB minShare : Nat} {stake : Bool}
    {r : (Nat × Nat × Nat) × State AccountId L}
    (h : doAddLiquidity T s who a b maxA maxB minShare stake = .ok r) : Funded T s r.2 := by
  obtain ⟨p, inc, -, -, -, -, -, -, -, -, -, -, -, l1, l2, l3, l4, hl1, hl2, hl3, hl4, rfl⟩ :=
    doAddLiquidity_ok T h
  refine funded_of_flows (fun c => reserveIn c p (inc.1, inc.2.1)) (fun _ => 0) (fun c => ?_)
    (fun c => ?_)
  · have h := obligation_setPool_add (s.setLedger l4) p inc.1 inc.2.1 c
    simp only [State.setLedger_pool, obligation_setLedger] at h
    exact (Nat.add_zero _).le.trans h.le
  · have e1 := palletBalance_transfer_in hT hwho hl1 c
    have e2 := palletBalance_transfer_in hT hwho hl2 c
    have e3 := palletBalance_deposit_other hT hwho hl3 c
    have e4 := palletBalance_stake hT hwho hl4 c
    simp only [State.setPool_ledger, State.setLedger_ledger, reserveIn, Nat.add_zero]
    omega

theorem doRemoveLiquidity_funded {s : State AccountId L} {who : AccountId}
    (hwho : who ≠ T.palletAccount) {a b : CurrencyId} {share minA minB : Nat} {unstake : Bool}
    {r : (Nat × Nat) × State AccountId L}
    (h : doRemoveLiquidity T s who a b share minA minB unstake = .ok r) : Funded T s r.2 := by
  rcases doRemoveLiquidity_ok T h with ⟨-, rfl⟩ | ⟨-, p, q, -, -, -, -, -, -, hx, hy, l0, l1, l2, l3,
    hl0, hl1, hl2, hl3, rfl⟩
  · exact funded_of_eq (fun _ => rfl) rfl
  · -- the pool pays out `q` of each side
    refine funded_of_flows (fun _ => 0)
      (fun c => reserveIn c p (q.mulFloor (s.liquidityPool p).1, q.mulFloor (s.liquidityPool p).2))
      (fun c => ?_) (fun c => ?_)
    · have h := obligation_setPool_sub (s.setLedger l3) p hx hy c
      simp only [State.setLedger_pool, obligation_setLedger] at h
      exact h.le.trans (Nat.le_add_right _ _)
    · have e0 := palletBalance_unstake hT hwho hl0 c
      have e1 := palletBalance_withdraw_other hT hwho hl1 c
      have e2 := palletBalance_transfer_out hT hwho hl2 c
      have e3 := palletBalance_transfer_out hT hwho hl3 c
      simp only [State.setPool_ledger, State.setLedger_ledger, reserveIn, Nat.add_zero]
      omega

theorem doAddProvision_funded {s : State AccountId L} (hb : Bookkeeping T s) {who : AccountId}
    (hwho : who ≠ T.palletAccount) {a b : CurrencyId} {amountA amountB : Nat}
    {s' : State AccountId L} (h : doAddProvision T s who a b amountA amountB = .ok s') :
    Funded T s s' := by
  obtain ⟨p, params, -, hs, -, -, -, -, -, l1, l2, hl1, hl2, rfl⟩ := doAddProvision_ok T h
  have hr := ((hb p).accumulated params hs).2
  refine funded_of_flows (fun c => reserveIn c p (orient p a amountA amountB)) (fun _ => 0)
    (fun c => ?_) (fun c => ?_)
  · have h := obligation_setProvision (s.setLedger l2) p who
      (some (((s.provisioningPool p who).getD (0, 0)).1 + (orient p a amountA amountB).1,
        ((s.provisioningPool p who).getD (0, 0)).2 + (orient p a amountA amountB).2)) c
    rw [State.setLedger_rates, hr, entryObligation_default, entryObligation_default,
      Option.getD_some, contributionOf_setLedger, contributionOf, obligation_setLedger,
      reserveIn_add] at h
    rw [obligation_setStatus, Nat.add_zero]
    linarith
  · have e1 := palletBalance_transfer_in hT hwho hl1 c
    have e2 := palletBalance_transfer_in hT hwho hl2 c
    simp only [State.setStatus_ledger, State.setProvision_ledger, State.setLedger_ledger, reserveIn,
      Nat.add_zero]
    omega

theorem doClaimDexShare_funded {s : State AccountId L} (hb : Bookkeeping T s) {who : AccountId}
    {a b : CurrencyId} {s' : State AccountId L} (h : doClaimDexShare T s who a b = .ok s') :
    Funded T s s' := by
  obtain ⟨p, -, -, s₁, hs₁, rfl⟩ := doClaimDexShare_ok T h
  refine Funded.trans ?_ (funded_resetRates s₁ p)
  rcases hs₁ with ⟨-, rfl⟩ | ⟨e, l, he, -, hl, rfl⟩
  · exact funded_of_eq (fun _ => rfl) rfl
  · -- the entry is deleted and its shares paid out
    refine funded_of_flows (fun _ => 0)
      (fun c => if c = p.dexShareCurrencyId then founderShares (s.initialShareExchangeRates p) e
        else 0) (fun c => ?_) (fun c => ?_)
    · have h := obligation_setProvision s p who none c
      have hle := founderShares_le_entryObligation (s.initialShareExchangeRates p) c p e
      rw [contributionOf, he, Option.getD_some, Option.getD_none, entryObligation_zero] at h
      rw [obligation_setLedger, Nat.add_zero]
      linarith
    · have e1 := palletBalance_transfer_out hT (ne_palletAccount_of_entry hb he) hl c
      simp only [State.setLedger_ledger, Nat.add_zero]
      omega

theorem refundProvision_funded {s : State AccountId L} (hb : Bookkeeping T s)
    {origin : Origin AccountId} {owner : AccountId} {a b : CurrencyId} {s' : State AccountId L}
    (h : refundProvision T s origin owner a b = .ok s') : Funded T s s' := by
  obtain ⟨-, p, -, -, hr, hcases⟩ := refundProvision_ok T h
  rcases hcases with ⟨-, rfl⟩ | ⟨e, l1, l2, he, hl1, hl2, rfl⟩
  · exact funded_of_eq (fun _ => rfl) rfl
  · have hown := ne_palletAccount_of_entry hb he
    refine funded_of_flows (fun _ => 0) (fun c => reserveIn c p e) (fun c => ?_) (fun c => ?_)
    · have h := obligation_setProvision s p owner none c
      rw [hr, contributionOf, he, Option.getD_some, Option.getD_none, entryObligation_zero,
        entryObligation_default] at h
      rw [obligation_setLedger]
      exact h.le
    · have e1 := palletBalance_transfer_out hT hown hl1 c
      have e2 := palletBalance_transfer_out hT hown hl2 c
      simp only [State.setLedger_ledger, reserveIn, Nat.add_zero]
      omega

theorem endProvisioning_funded {s : State AccountId L} (hb : Bookkeeping T s)
    {origin : Origin AccountId} {a b : CurrencyId} {s' : State AccountId L}
    (h : endProvisioning T s origin a b = .ok s') : Funded T s s' := by
  obtain ⟨-, p, params, rate1, l, -, hs, -, -, -, -, hl, -, -, rfl⟩ := endProvisioning_ok T h
  obtain ⟨htot, hr⟩ := (hb p).accumulated params hs
  refine funded_of_flows
    (fun c => if c = p.dexShareCurrencyId then
      params.accumulatedProvision.1 + rate1.mulFloor params.accumulatedProvision.2 else 0)
    (fun _ => 0) (fun c => ?_) (fun c => ?_)
  · have hrates := obligation_setRates (((s.setLedger l).setPool p
        ((s.liquidityPool p).1 + params.accumulatedProvision.1,
          (s.liquidityPool p).2 + params.accumulatedProvision.2)).setStatus p .enabled)
      p (FixedU128.one, rate1) c
    have hpool := obligation_setPool_add (s.setLedger l) p params.accumulatedProvision.1
      params.accumulatedProvision.2 c
    have hshares := sum_entryObligation_one s rate1 c p
    simp only [State.setStatus_rates, State.setPool_rates, State.setLedger_rates,
      contributionOf_setStatus, contributionOf_setPool, contributionOf_setLedger,
      obligation_setStatus, State.setLedger_pool, obligation_setLedger, hr,
      sum_entryObligation_default, ← htot, Prod.mk.eta] at hrates hpool hshares
    linarith
  · have e1 := palletBalance_deposit_pallet hT hl c
    simp only [State.setRates_ledger, State.setStatus_ledger, State.setPool_ledger,
      State.setLedger_ledger, Nat.add_zero]
    omega

theorem doSwapWithExactSupply_funded {s : State AccountId L} {who : AccountId}
    (hwho : who ≠ T.palletAccount) {path : List CurrencyId} {supplyAmount minTargetAmount : Nat}
    {r : Nat × State AccountId L}
    (h : doSwapWithExactSupply T s who path supplyAmount minTargetAmount = .ok r) :
    Funded T s r.2 := by
  obtain ⟨amounts, ha, -, l1, s₁, l2, hl1, hs₁, hl2, rfl⟩ := doSwapWithExactSupply_ok T h
  obtain ⟨-, -, -, -, hv, hlen, hhead⟩ := getTargetAmounts_ok T ha
  refine funded_of_flows (fun c => if c = path.headD default then supplyAmount else 0)
    (fun c => if c = path.getLastD default then amounts.getLastD 0 else 0) (fun c => ?_)
    (fun c => ?_)
  · have h := swapByPath_obligation hv hlen hs₁ c
    rw [obligation_setLedger, hhead] at h
    rw [obligation_setLedger]
    exact h.le
  · have e1 := palletBalance_transfer_in hT hwho hl1 c
    have e2 := palletBalance_transfer_out hT hwho hl2 c
    rw [(swapByPath_frame hs₁).1, State.setLedger_ledger] at e2
    simp only [State.setLedger_ledger]
    omega

theorem doSwapWithExactTarget_funded {s : State AccountId L} {who : AccountId}
    (hwho : who ≠ T.palletAccount) {path : List CurrencyId} {targetAmount maxSupplyAmount : Nat}
    {r : Nat × State AccountId L}
    (h : doSwapWithExactTarget T s who path targetAmount maxSupplyAmount = .ok r) :
    Funded T s r.2 := by
  obtain ⟨amounts, ha, -, l1, s₁, l2, hl1, hs₁, hl2, rfl⟩ := doSwapWithExactTarget_ok T h
  obtain ⟨-, -, -, -, hv, hlen, hlast⟩ := getSupplyAmounts_ok T ha
  refine funded_of_flows (fun c => if c = path.headD default then amounts.headD 0 else 0)
    (fun c => if c = path.getLastD default then targetAmount else 0) (fun c => ?_) (fun c => ?_)
  · have h := swapByPath_obligation hv hlen hs₁ c
    rw [obligation_setLedger, hlast] at h
    rw [obligation_setLedger]
    exact h.le
  · have e1 := palletBalance_transfer_in hT hwho hl1 c
    have e2 := palletBalance_transfer_out hT hwho hl2 c
    rw [(swapByPath_frame hs₁).1, State.setLedger_ledger] at e2
    simp only [State.setLedger_ledger]
    omega

end Funded

section Dispatch

variable (hT : T.Lawful)
include hT

theorem dispatch_solvent {s s' : State AccountId L} {origin : Origin AccountId}
    {call : Call AccountId} (hs : Solvent T s) (horigin : origin ≠ .signed T.palletAccount)
    (h : dispatch T s origin call = .ok s') : Solvent T s' := by
  have hb := hs.bookkeeping
  cases call with
  | swapWithExactSupply path supplyAmount minTargetAmount =>
      simp only [dispatch, bind_eq_ok, ensureSigned_eq_ok, pure_eq_ok] at h
      obtain ⟨who, rfl, r, hr, rfl⟩ := h
      exact hs.of_funded (doSwapWithExactSupply_bookkeeping hb hr)
        (doSwapWithExactSupply_funded hT (ne_palletAccount_of_origin horigin) hr)
  | swapWithExactTarget path targetAmount maxSupplyAmount =>
      simp only [dispatch, bind_eq_ok, ensureSigned_eq_ok, pure_eq_ok] at h
      obtain ⟨who, rfl, r, hr, rfl⟩ := h
      exact hs.of_funded (doSwapWithExactTarget_bookkeeping hb hr)
        (doSwapWithExactTarget_funded hT (ne_palletAccount_of_origin horigin) hr)
  | addLiquidity a b maxA maxB minShare stake =>
      simp only [dispatch, bind_eq_ok, ensureSigned_eq_ok, pure_eq_ok] at h
      obtain ⟨who, rfl, r, hr, rfl⟩ := h
      exact hs.of_funded (doAddLiquidity_bookkeeping hb hr)
        (doAddLiquidity_funded hT (ne_palletAccount_of_origin horigin) hr)
  | addProvision a b amountA amountB =>
      simp only [dispatch, bind_eq_ok, ensureSigned_eq_ok] at h
      obtain ⟨who, rfl, hr⟩ := h
      exact hs.of_funded (doAddProvision_bookkeeping hb (ne_palletAccount_of_origin horigin) hr)
        (doAddProvision_funded hT hb (ne_palletAccount_of_origin horigin) hr)
  | claimDexShare owner a b =>
      simp only [dispatch, bind_eq_ok, ensureSigned_eq_ok] at h
      obtain ⟨who, -, hr⟩ := h
      exact hs.of_funded (doClaimDexShare_bookkeeping hb hr) (doClaimDexShare_funded hT hb hr)
  | removeLiquidity a b share minA minB unstake =>
      simp only [dispatch, bind_eq_ok, ensureSigned_eq_ok, pure_eq_ok] at h
      obtain ⟨who, rfl, r, hr, rfl⟩ := h
      exact hs.of_funded (doRemoveLiquidity_bookkeeping hb hr)
        (doRemoveLiquidity_funded hT (ne_palletAccount_of_origin horigin) hr)
  | listProvisioning a b m0 m1 t0 t1 notBefore =>
      obtain ⟨-, p, -, -, -, -, -, -, rfl⟩ := listProvisioning_ok T h
      exact hs.of_funded (listProvisioning_bookkeeping hb h) (funded_setStatus s p _)
  | updateProvisioningParameters a b m0 m1 t0 t1 notBefore =>
      obtain ⟨-, p, params, -, -, rfl⟩ := updateProvisioningParameters_ok T h
      exact hs.of_funded (updateProvisioningParameters_bookkeeping hb h) (funded_setStatus s p _)
  | endProvisioning a b =>
      exact hs.of_funded (endProvisioning_bookkeeping hb h) (endProvisioning_funded hT hb h)
  | enableTradingPair a b =>
      obtain ⟨-, p, -, -, rfl⟩ := enableTradingPair_ok T h
      exact hs.of_funded (hb.setStatus p fun _ h => by cases h) (funded_setStatus s p _)
  | disableTradingPair a b =>
      obtain ⟨-, p, -, -, rfl⟩ := disableTradingPair_ok T h
      exact hs.of_funded (hb.setStatus p fun _ h => by cases h) (funded_setStatus s p _)
  | refundProvision owner a b =>
      exact hs.of_funded (refundProvision_bookkeeping hb h) (refundProvision_funded hT hb h)
  | abortProvisioning a b =>
      obtain ⟨-, p, -, -, -, ⟨-, -, rfl⟩ | rfl⟩ := abortProvisioning_ok T h
      · exact hs.of_funded (hb.setStatus p fun _ h => by cases h) (funded_setStatus s p _)
      · exact hs

theorem system_step_solvent {s s' : State AccountId L} {act : Action AccountId}
    (hs : Solvent T s) (h : (system T).step s act = some s') : Solvent T s' := by
  cases act with
  | call origin c =>
      simp only [system] at h
      by_cases horigin : origin = .signed T.palletAccount
      · rw [if_pos horigin] at h
        cases h
      · rw [if_neg horigin] at h
        exact dispatch_solvent hT hs horigin (toOption_eq_some.1 h)
  | newBlock =>
      simp only [system, Option.some.injEq] at h
      subst h
      exact ⟨hs.bookkeeping.congr rfl rfl rfl, fun c => by
        rw [obligation_setBlockNumber]
        exact hs.covered c⟩

/-! ## Genesis -/

theorem build_solvent {g : GenesisConfig AccountId} {ledger : L}
    {blockNumber : Nat} {s : State AccountId L}
    (hpal : ∀ pools ∈ g.initialAddedLiquidityPools, pools.1 ≠ T.palletAccount)
    (h : g.build T (State.empty ledger blockNumber) = some s) : Solvent T s := by
  have h₁ := foldl_invariant (P := fun s => NoProvisions s ∧ Solvent T s)
    (l := g.initialListingTradingPairs) (f := listGenesisPair)
    (fun s b _ hs => listGenesisPair_solvent hs.1 hs.2 b) (solvent_empty ledger blockNumber)
  have h₂ := foldl_invariant (P := Solvent T) (l := g.initialEnabledTradingPairs)
    (f := fun s p => s.setStatus p .enabled)
    (fun s p _ hs => hs.of_funded (hs.bookkeeping.setStatus p fun _ h => by cases h)
      (funded_setStatus s p _)) h₁.2
  refine foldlM_invariant (P := Solvent T) (fun s pools t hmem hs ht => ?_) h₂ h
  refine foldlM_invariant (P := Solvent T) (fun s b t _ hs ht => ?_) hs ht
  obtain ⟨r, hr, rfl⟩ := addGenesisLiquidity_ok T ht
  exact hs.of_funded (doAddLiquidity_bookkeeping hs.bookkeeping hr)
    (doAddLiquidity_funded hT (hpal pools hmem) hr)

theorem solvent_invariant : Invariant (system T) (Solvent T) :=
  invariant_of_inductive _ (fun _ ⟨_, _, _, hpal, h⟩ => build_solvent hT hpal h)
    (fun _ _ _ hs h => system_step_solvent hT hs h)

end Dispatch

/-! ## What the DEX account holds -/

variable (T) in
/-- What the DEX account must hold: in every currency the reserves of all
pools and the provisions of every pair whose `InitialShareExchangeRates` is
still the default, and in the share currency of every pair the shares
`claim_dex_share` would pay its founders. -/
def HoldsOwed (s : State AccountId L) : Prop :=
  (∀ c, ∑ p, reserveIn c p (s.liquidityPool p) +
      ∑ p, (if s.initialShareExchangeRates p = defaultRates then
        ∑ who, reserveIn c p (contributionOf s p who) else 0) ≤
    palletBalance T s.ledger c) ∧
  ∀ p, ∑ who, founderShares (s.initialShareExchangeRates p) (contributionOf s p who) ≤
    palletBalance T s.ledger p.dexShareCurrencyId

theorem dex_solvency (hT : T.Lawful) : Invariant (system T) (HoldsOwed T) := fun s hs => by
  have h := solvent_invariant hT s hs
  exact ⟨fun c => (reserves_add_provisions_le_obligation s c).trans (h.covered c),
    fun p => (founderShares_le_obligation s p).trans (h.covered _)⟩

theorem dex_solvency_reference :
    Reference.testConfig.Lawful ∧
      Invariant (system Reference.testConfig) (HoldsOwed Reference.testConfig) :=
  ⟨Reference.testConfig_lawful, dex_solvency Reference.testConfig_lawful⟩

end Setheum.Swap
