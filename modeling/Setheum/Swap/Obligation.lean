import Mathlib
import Setheum.Swap.Inversion
import Setheum.Lib.FinSum

/-!
# What the DEX account owes

The accounting behind the pallet's solvency. For each currency the DEX account
owes, pair by pair, the pair's reserve in that currency, the provisions that
have not been moved into its pool (while its `InitialShareExchangeRates` is
the default), and the shares its founders have not claimed yet. A storage
write changes the part of one pair only; the lemmas below say by how much.
The ledger lemmas say how the account's own balance moves under a lawful
`MultiCurrency`.
-/

namespace Setheum.Swap

variable {AccountId L : Type}

/-- The part in currency `c` of two amounts held for the currencies of `p`. -/
def reserveIn (c : CurrencyId) (p : TradingPair) (v : Nat × Nat) : Nat :=
  (if c = p.first then v.1 else 0) + (if c = p.second then v.2 else 0)

/-- What one provisioning entry costs the DEX account in `c`: its tokens while
the rates are the default, and the shares it will be paid. -/
def entryObligation (rates : FixedU128 × FixedU128) (c : CurrencyId) (p : TradingPair)
    (e : Nat × Nat) : Nat :=
  (if rates = defaultRates then reserveIn c p e else 0) +
    (if c = p.dexShareCurrencyId then founderShares rates e else 0)

/-- An account's entry in `ProvisioningPool`, read with `ValueQuery`. -/
def contributionOf (s : State AccountId L) (p : TradingPair) (who : AccountId) : Nat × Nat :=
  (s.provisioningPool p who).getD (0, 0)

/-- The DEX account's balance of `c` in a ledger. -/
def palletBalance (T : Config AccountId L) (l : L) (c : CurrencyId) : Nat :=
  T.currency.freeBalance l c T.palletAccount

@[simp] theorem reserveIn_zero (c : CurrencyId) (p : TradingPair) : reserveIn c p (0, 0) = 0 := by
  simp [reserveIn]

theorem reserveIn_add (c : CurrencyId) (p : TradingPair) (v w : Nat × Nat) :
    reserveIn c p (v.1 + w.1, v.2 + w.2) = reserveIn c p v + reserveIn c p w := by
  unfold reserveIn
  split_ifs <;> omega

@[simp] theorem founderShares_default (e : Nat × Nat) : founderShares defaultRates e = 0 := by
  simp [founderShares, defaultRates]

@[simp] theorem entryObligation_zero (rates : FixedU128 × FixedU128) (c : CurrencyId)
    (p : TradingPair) : entryObligation rates c p (0, 0) = 0 := by
  simp [entryObligation, founderShares, FixedU128.mulFloor]

theorem entryObligation_default (c : CurrencyId) (p : TradingPair) (e : Nat × Nat) :
    entryObligation defaultRates c p e = reserveIn c p e := by
  simp [entryObligation]

theorem entryObligation_of_ne_default {rates : FixedU128 × FixedU128} (h : rates ≠ defaultRates)
    (c : CurrencyId) (p : TradingPair) (e : Nat × Nat) :
    entryObligation rates c p e = if c = p.dexShareCurrencyId then founderShares rates e else 0 := by
  simp [entryObligation, h]

@[simp] theorem contributionOf_setLedger (s : State AccountId L) (l : L) :
    contributionOf (s.setLedger l) = contributionOf s := rfl

@[simp] theorem contributionOf_setStatus (s : State AccountId L) (p : TradingPair)
    (v : TradingPairStatus) : contributionOf (s.setStatus p v) = contributionOf s := rfl

@[simp] theorem contributionOf_setPool (s : State AccountId L) (p : TradingPair) (v : Nat × Nat) :
    contributionOf (s.setPool p v) = contributionOf s := rfl

@[simp] theorem contributionOf_setRates (s : State AccountId L) (p : TradingPair)
    (r : FixedU128 × FixedU128) : contributionOf (s.setRates p r) = contributionOf s := rfl

@[simp] theorem contributionOf_setProvision_self [DecidableEq AccountId] (s : State AccountId L) (p : TradingPair)
    (who : AccountId) (v : Option (Nat × Nat)) :
    contributionOf (s.setProvision p who v) p who = v.getD (0, 0) := by
  simp [contributionOf]

theorem contributionOf_setProvision_of_ne [DecidableEq AccountId] {s : State AccountId L} {p q : TradingPair}
    {who a : AccountId} (v : Option (Nat × Nat)) (h : q ≠ p ∨ a ≠ who) :
    contributionOf (s.setProvision p who v) q a = contributionOf s q a := by
  rcases h with h | h
  · simp [contributionOf, Function.update_of_ne h]
  · by_cases hq : q = p
    · subst hq; simp [contributionOf, Function.update_of_ne h]
    · simp [contributionOf, Function.update_of_ne hq]

theorem reserveIn_swappedPool {p : TradingPair} {a b c : CurrencyId} {pool : Nat × Nat} {x y : Nat}
    (hab : a = p.first ∧ b = p.second ∨ a = p.second ∧ b = p.first)
    (hy : if a = p.first then y ≤ pool.2 else y ≤ pool.1) :
    reserveIn c p (swappedPool p a pool x y) + (if c = b then y else 0) =
      reserveIn c p pool + if c = a then x else 0 := by
  have hne := p.first_ne_second
  rcases hab with ⟨rfl, rfl⟩ | ⟨rfl, rfl⟩
  · simp only [if_true] at hy
    simp only [reserveIn, swappedPool, if_true]
    by_cases h1 : c = p.first
    · simp [h1, hne]
    · by_cases h2 : c = p.second
      · simp [h2, hne.symm]; omega
      · simp [h1, h2]
  · simp only [hne.symm, if_false] at hy
    simp only [reserveIn, swappedPool, hne.symm, if_false]
    by_cases h1 : c = p.first
    · simp [h1, hne]; omega
    · by_cases h2 : c = p.second <;> simp [h1, h2, hne.symm]

/-! ## How the DEX account's balance moves -/

section Ledger

variable [DecidableEq AccountId] {T : Config AccountId L} (hT : T.Lawful)
include hT

theorem palletBalance_transfer_in {d : CurrencyId} {who : AccountId} {amt : Nat} {l l' : L}
    (hwho : who ≠ T.palletAccount) (h : T.currency.transfer d who T.palletAccount amt l = some l')
    (c : CurrencyId) : palletBalance T l' c = palletBalance T l c + if c = d then amt else 0 := by
  have := hT.transfer_balance h c T.palletAccount
  by_cases hc : c = d <;> simp [palletBalance, hc, hwho, Ne.symm hwho] at this ⊢ <;> omega

theorem palletBalance_transfer_out {d : CurrencyId} {who : AccountId} {amt : Nat} {l l' : L}
    (hwho : who ≠ T.palletAccount) (h : T.currency.transfer d T.palletAccount who amt l = some l')
    (c : CurrencyId) : palletBalance T l' c + (if c = d then amt else 0) = palletBalance T l c := by
  have := hT.transfer_balance h c T.palletAccount
  by_cases hc : c = d <;> simp [palletBalance, hc, Ne.symm hwho] at this ⊢ <;> omega

theorem palletBalance_deposit_pallet {d : CurrencyId} {amt : Nat} {l l' : L}
    (h : T.currency.deposit d T.palletAccount amt l = some l') (c : CurrencyId) :
    palletBalance T l' c = palletBalance T l c + if c = d then amt else 0 := by
  simpa [palletBalance] using hT.deposit_balance h c T.palletAccount

theorem palletBalance_deposit_other {d : CurrencyId} {who : AccountId} {amt : Nat} {l l' : L}
    (hwho : who ≠ T.palletAccount) (h : T.currency.deposit d who amt l = some l') (c : CurrencyId) :
    palletBalance T l' c = palletBalance T l c := by
  simpa [palletBalance, hwho.symm] using hT.deposit_balance h c T.palletAccount

theorem palletBalance_withdraw_other {d : CurrencyId} {who : AccountId} {amt : Nat} {l l' : L}
    (hwho : who ≠ T.palletAccount) (h : T.currency.withdraw d who amt l = some l') (c : CurrencyId) :
    palletBalance T l' c = palletBalance T l c := by
  simpa [palletBalance, hwho.symm] using hT.withdraw_balance h c T.palletAccount

theorem palletBalance_stake {stake : Bool} {d : CurrencyId} {who : AccountId} {amt : Nat} {l l' : L}
    (hwho : who ≠ T.palletAccount)
    (h : (if stake then T.incentives.doDepositDexShare who d amt l else some l) = some l')
    (c : CurrencyId) : palletBalance T l' c = palletBalance T l c := by
  cases stake with
  | false => simp only [Bool.false_eq_true, if_false, Option.some.injEq] at h; rw [h]
  | true => exact hT.stake_keeps_pallet hwho h c

theorem palletBalance_unstake {unstake : Bool} {d : CurrencyId} {who : AccountId} {amt : Nat}
    {l l' : L} (hwho : who ≠ T.palletAccount)
    (h : (if unstake then T.incentives.doWithdrawDexShare who d amt l else some l) = some l')
    (c : CurrencyId) : palletBalance T l' c = palletBalance T l c := by
  cases unstake with
  | false => simp only [Bool.false_eq_true, if_false, Option.some.injEq] at h; rw [h]
  | true => exact hT.unstake_keeps_pallet hwho h c

end Ledger

theorem swap_frame {s s' : State AccountId L} {a b : CurrencyId} {x y : Nat}
    (h : swap s a b x y = .ok s') :
    s'.ledger = s.ledger ∧ s'.tradingPairStatuses = s.tradingPairStatuses ∧
      s'.provisioningPool = s.provisioningPool ∧
      s'.initialShareExchangeRates = s.initialShareExchangeRates := by
  rcases swap_ok h with ⟨-, rfl⟩ | ⟨p, -, -, -, rfl⟩
  · exact ⟨rfl, rfl, rfl, rfl⟩
  · exact ⟨rfl, rfl, rfl, rfl⟩

theorem swapByPath_frame {s s' : State AccountId L} {path : List CurrencyId} {amounts : List Nat}
    (h : swapByPath s path amounts = .ok s') :
    s'.ledger = s.ledger ∧ s'.tradingPairStatuses = s.tradingPairStatuses ∧
      s'.provisioningPool = s.provisioningPool ∧
      s'.initialShareExchangeRates = s.initialShareExchangeRates := by
  induction s, path, amounts using swapByPath.induct with
  | case1 s c d path x y amounts ih =>
      obtain ⟨s₁, h₁, h₂⟩ := swapByPath_cons_ok h
      obtain ⟨e1, e2, e3, e4⟩ := swap_frame h₁
      obtain ⟨f1, f2, f3, f4⟩ := ih s₁ h₂
      exact ⟨f1.trans e1, f2.trans e2, f3.trans e3, f4.trans e4⟩
  | case2 path s amounts hnot =>
      rw [swapByPath.eq_2 _ _ _ hnot, pure_eq_ok] at h
      subst h
      exact ⟨rfl, rfl, rfl, rfl⟩

variable [Fintype AccountId]

/-- What the DEX account owes in `c` on account of pair `p`. -/
def pairObligation (s : State AccountId L) (c : CurrencyId) (p : TradingPair) : Nat :=
  reserveIn c p (s.liquidityPool p) +
    ∑ who, entryObligation (s.initialShareExchangeRates p) c p (contributionOf s p who)

/-- What the DEX account owes in `c`. It is a sum over all trading pairs, a
type far too large to enumerate, so it is never unfolded by conversion. -/
@[irreducible] def obligation (s : State AccountId L) (c : CurrencyId) : Nat := ∑ p, pairObligation s c p

theorem pairObligation_le_obligation (s : State AccountId L) (c : CurrencyId) (p : TradingPair) :
    pairObligation s c p ≤ obligation s c := by
  unfold obligation
  exact FinSum.le_sum_univ (pairObligation s c) p

/-! ## How writes move the obligation -/

theorem obligation_add_of_eq_off (s s' : State AccountId L) (c : CurrencyId) (p : TradingPair)
    (h : ∀ q, q ≠ p → pairObligation s' c q = pairObligation s c q) :
    obligation s' c + pairObligation s c p = obligation s c + pairObligation s' c p := by
  unfold obligation
  exact FinSum.sum_add_eq_of_eq_off _ _ p h

@[simp] theorem obligation_setLedger (s : State AccountId L) (l : L) (c : CurrencyId) :
    obligation (s.setLedger l) c = obligation s c := by
  unfold obligation; rfl

@[simp] theorem obligation_setStatus (s : State AccountId L) (p : TradingPair) (v : TradingPairStatus)
    (c : CurrencyId) : obligation (s.setStatus p v) c = obligation s c := by
  unfold obligation; rfl

@[simp] theorem obligation_setBlockNumber (s : State AccountId L) (n : Nat) (c : CurrencyId) :
    obligation { s with blockNumber := n } c = obligation s c := by
  unfold obligation; rfl

theorem obligation_empty (ledger : L) (blockNumber : Nat) (c : CurrencyId) :
    obligation (State.empty ledger blockNumber : State AccountId L) c = 0 := by
  unfold obligation
  exact Finset.sum_eq_zero fun p _ => by
    simp [pairObligation, contributionOf, State.empty]

theorem obligation_setPool (s : State AccountId L) (p : TradingPair) (v : Nat × Nat) (c : CurrencyId) :
    obligation (s.setPool p v) c + reserveIn c p (s.liquidityPool p) =
      obligation s c + reserveIn c p v := by
  have h := obligation_add_of_eq_off s (s.setPool p v) c p fun q hq => by
    simp only [pairObligation, State.setPool_pool, State.setPool_rates, Function.update_of_ne hq,
      contributionOf_setPool]
  simp only [pairObligation, State.setPool_pool, Function.update_self, State.setPool_rates,
    contributionOf_setPool] at h
  linarith

theorem obligation_setRates (s : State AccountId L) (p : TradingPair) (r : FixedU128 × FixedU128)
    (c : CurrencyId) :
    obligation (s.setRates p r) c +
        ∑ who, entryObligation (s.initialShareExchangeRates p) c p (contributionOf s p who) =
      obligation s c + ∑ who, entryObligation r c p (contributionOf s p who) := by
  have h := obligation_add_of_eq_off s (s.setRates p r) c p fun q hq => by
    simp only [pairObligation, State.setRates_pool, State.setRates_rates, Function.update_of_ne hq,
      contributionOf_setRates]
  simp only [pairObligation, State.setRates_pool, State.setRates_rates, Function.update_self,
    contributionOf_setRates] at h
  linarith

theorem obligation_setRates_of_empty {s : State AccountId L} {p : TradingPair}
    (h : ∀ who, s.provisioningPool p who = none) (r : FixedU128 × FixedU128) (c : CurrencyId) :
    obligation (s.setRates p r) c = obligation s c := by
  have hzero : ∀ r', ∑ who, entryObligation r' c p (contributionOf s p who) = 0 := fun r' =>
    Finset.sum_eq_zero fun who _ => by rw [contributionOf, h who, Option.getD_none, entryObligation_zero]
  have := obligation_setRates s p r c
  rw [hzero, hzero] at this
  linarith

/-! ## Swaps along a path -/


theorem swap_obligation {s s' : State AccountId L} {a b : CurrencyId} {x y : Nat}
    (hab : (TradingPair.fromCurrencyIds a b).isSome) (h : swap s a b x y = .ok s') (c : CurrencyId) :
    obligation s' c + (if c = b then y else 0) = obligation s c + if c = a then x else 0 := by
  rcases swap_ok h with ⟨hnone, -⟩ | ⟨p, hp, hguard, -, rfl⟩
  · simp [hnone] at hab
  · have hy : if a = p.first then y ≤ (s.liquidityPool p).2 else y ≤ (s.liquidityPool p).1 := by
      split_ifs at hguard ⊢
      exacts [hguard.2, hguard.1]
    have hpool := obligation_setPool s p (swappedPool p a (s.liquidityPool p) x y) c
    have hres := reserveIn_swappedPool (c := c) (x := x) (TradingPair.fromCurrencyIds_spec hp) hy
    linarith

/-- Along a path the reserves telescope: every intermediate currency is paid
into one pool and out of the next, so the obligation moves by what enters at
the first currency and what leaves at the last. -/
theorem swapByPath_obligation {s s' : State AccountId L} {path : List CurrencyId}
    {amounts : List Nat} (hv : ValidHops path) (hlen : amounts.length = path.length)
    (h : swapByPath s path amounts = .ok s') (c : CurrencyId) :
    obligation s' c + (if c = path.getLastD default then amounts.getLastD 0 else 0) =
      obligation s c + if c = path.headD default then amounts.headD 0 else 0 := by
  induction s, path, amounts using swapByPath.induct with
  | case1 s a b path x y amounts ih =>
      obtain ⟨s₁, h₁, h₂⟩ := swapByPath_cons_ok h
      obtain ⟨hab, hv'⟩ := List.isChain_cons_cons.1 hv
      have hhop := swap_obligation hab h₁ c
      have hrest := ih s₁ hv' (by simpa using hlen) h₂
      simp only [List.getLastD_cons, List.headD_cons] at hrest ⊢
      exact hrest.trans hhop
  | case2 path s amounts hnot =>
      rw [swapByPath.eq_2 _ _ _ hnot, pure_eq_ok] at h
      subst h
      rcases path with _ | ⟨a, _ | ⟨b, path⟩⟩
      · obtain rfl : amounts = [] := List.eq_nil_of_length_eq_zero hlen
        rfl
      · obtain ⟨x, rfl⟩ := List.length_eq_one_iff.1 hlen
        rfl
      · rcases amounts with _ | ⟨x, _ | ⟨y, amounts⟩⟩
        · simp at hlen
        · simp at hlen
        · exact (hnot _ _ _ _ _ _ rfl rfl).elim

variable [DecidableEq AccountId]

theorem sum_contributionOf_setProvision {M : Type*} [AddCommMonoid M] (f : Nat × Nat → M)
    (s : State AccountId L) (p : TradingPair) (who : AccountId) (v : Option (Nat × Nat)) :
    ∑ a, f (contributionOf (s.setProvision p who v) p a) + f (contributionOf s p who) =
      ∑ a, f (contributionOf s p a) + f (v.getD (0, 0)) := by
  have h := FinSum.sum_add_eq_of_eq_off (fun a => f (contributionOf (s.setProvision p who v) p a))
    (fun a => f (contributionOf s p a)) who
    fun a ha => by rw [contributionOf_setProvision_of_ne v (.inr ha)]
  simpa only [contributionOf_setProvision_self] using h

theorem obligation_setProvision (s : State AccountId L) (p : TradingPair) (who : AccountId)
    (v : Option (Nat × Nat)) (c : CurrencyId) :
    obligation (s.setProvision p who v) c +
        entryObligation (s.initialShareExchangeRates p) c p (contributionOf s p who) =
      obligation s c + entryObligation (s.initialShareExchangeRates p) c p (v.getD (0, 0)) := by
  have hpair := sum_contributionOf_setProvision (entryObligation (s.initialShareExchangeRates p) c p)
    s p who v
  have h := obligation_add_of_eq_off s (s.setProvision p who v) c p fun q hq => by
    simp only [pairObligation, State.setProvision_pool, State.setProvision_rates,
      contributionOf_setProvision_of_ne v (.inl hq)]
  simp only [pairObligation, State.setProvision_pool, State.setProvision_rates] at h
  linarith

end Setheum.Swap
