import Setheum.Balances.Free
import Setheum.Lib.Proportion
import Setheum.Lib.Result
import Setheum.Lib.System
import Setheum.Primitives.Arithmetic
import Setheum.Primitives.Currency

/-!
# The charge fee pool

A payer short of the native currency pays a fee in a currency `c` through the
charge fee pool of `c`: a sub-account holding native tokens, which sells
`amount` of them for `rate * amount` of `c` at the rate `TokenExchangeRate[c]`
recorded for the pool (`swap_from_pool_or_dex`). When the sub-account's native
balance is below `SwapBalanceThreshold[c]`, the pool is refilled first: all
its `c` but the existential deposit is sold on the DEX, `PoolSize[c]` becomes
the native bought plus what was left, and the rate becomes
`old_rate * (threshold / pool_size) + swap_rate * (1 - threshold / pool_size)`
over the old pool size, in saturating `FixedU128` arithmetic
(`calculate_exchange_rate`). `initialize_pool` opens a pool from the
treasury, and `disable_pool` returns its balances to the treasury.

The DEX is outside the model: the native it pays for a refill is part of the
call, and its account takes the `c` sold and pays that native. A failed DEX
swap only skips the refill, as the source's `debug_assert!` does in a release
build. A panic of the source (a division by zero in
`saturating_from_rational`) is the error `panicked`. The other pallets that
move balances are not part of the system.
-/

namespace Setheum.TransactionPayment.ChargePool

open Result Transition Tokens

inductive Error where
  | invalidRate
  | invalidSwapPath
  | invalidBalance
  | chargeFeePoolAlreadyExisted
  | dexNotAvailable
  | invalidToken
  /-- A currency transfer failed. -/
  | transferFailed
  | badOrigin
  /-- The source panics. -/
  | panicked
  deriving DecidableEq, Repr

inductive Origin (AccountId : Type) where
  | root
  | signed (who : AccountId)
  deriving DecidableEq

structure Config (AccountId : Type) where
  nativeCurrencyId : CurrencyId
  treasuryAccount : AccountId
  /-- `PalletId::into_sub_account_truncating`. -/
  subAccountId : CurrencyId → AccountId
  /-- The account the DEX trades from. -/
  dexAccount : AccountId
  /-- `Currency::minimum_balance`. -/
  nativeExistentialDeposit : Nat
  /-- `MultiCurrency::minimum_balance`. -/
  minimumBalance : CurrencyId → Nat
  updateOrigin : Origin AccountId → Bool

/-- The pools' storage, and the free balances of the native currency and of
the others. -/
structure State (AccountId : Type) where
  tokenExchangeRate : CurrencyId → Option FixedU128
  poolSize : CurrencyId → Nat
  swapBalanceThreshold : CurrencyId → Nat
  native : AccountId → Nat
  tokens : CurrencyId → AccountId → Nat

variable {AccountId : Type} [DecidableEq AccountId] (T : Config AccountId)

/-! ## The calls -/

/-- `calculate_exchange_rate`: the old rate weighted by `threshold / pool_size`
and the swap rate by the rest of one. -/
def calculateExchangeRate (s : State AccountId) (currencyId : CurrencyId) (swapExchangeRate : FixedU128) :
    Except Error FixedU128 := do
  let thresholdBalance := s.swapBalanceThreshold currencyId
  let oldThresholdRate ←
    okOr (FixedU128.saturatingFromRational thresholdBalance (s.poolSize currencyId)) .panicked
  let newThresholdRate := FixedU128.one.saturatingSub oldThresholdRate
  let rate ← okOr (s.tokenExchangeRate currencyId) .invalidRate
  let oldParts := rate.saturatingMul oldThresholdRate
  let newParts := swapExchangeRate.saturatingMul newThresholdRate
  pure (oldParts.saturatingAdd newParts)

/-- `T::Swap::swap(sub_account, c, native, ExactSupply(supply_amount, 0))`,
answered by the DEX with the native it pays. -/
def dexSwap (s : State AccountId) (subAccount : AccountId) (supplyCurrencyId : CurrencyId) (supplyAmount : Nat) :
    Option Nat → Option (State AccountId × Nat)
  | none => none
  | some swapNativeBalance => do
      let tokens ← Balances.transfer (T.minimumBalance supplyCurrencyId) (s.tokens supplyCurrencyId) subAccount
        T.dexAccount supplyAmount .allowDeath
      let native ← Balances.transfer T.nativeExistentialDeposit s.native T.dexAccount subAccount swapNativeBalance
        .allowDeath
      some ({ s with tokens := Function.update s.tokens supplyCurrencyId tokens, native := native }, swapNativeBalance)

/-- The refill of `swap_from_pool_or_dex`: all the pool's `c` but the
existential deposit sold on the DEX, and the rate and the pool size
recomputed; nothing when the DEX swap fails. -/
def refill (dexAnswer : Option Nat) (supplyCurrencyId : CurrencyId) (nativeBalance : Nat) (s : State AccountId) :
    Except Error (State AccountId) :=
  let subAccount := T.subAccountId supplyCurrencyId
  let supplyBalance := s.tokens supplyCurrencyId subAccount
  let supplyAmount := supplyBalance - T.minimumBalance supplyCurrencyId
  match dexSwap T s subAccount supplyCurrencyId supplyAmount dexAnswer with
  | some (s, swapNativeBalance) => do
      let swapExchangeRate ← okOr (FixedU128.saturatingFromRational supplyAmount swapNativeBalance) .panicked
      let newPoolSize := Balance.saturatingAdd swapNativeBalance nativeBalance
      let newExchangeRate ← calculateExchangeRate s supplyCurrencyId swapExchangeRate
      pure { s with
        tokenExchangeRate := Function.update s.tokenExchangeRate supplyCurrencyId (some newExchangeRate)
        poolSize := Function.update s.poolSize supplyCurrencyId newPoolSize }
  | none => pure s

/-- `swap_from_pool_or_dex`: refill the pool when it is low, then take
`rate * amount` of `c` from the payer and pay it `amount` of native, at the
rate the call started with. -/
def swapFromPoolOrDex (dexAnswer : Option Nat) (who : AccountId) (amount : Nat) (supplyCurrencyId : CurrencyId)
    (s : State AccountId) : Except Error (State AccountId) := do
  let rate ← okOr (s.tokenExchangeRate supplyCurrencyId) .invalidRate
  let subAccount := T.subAccountId supplyCurrencyId
  let nativeBalance := s.native subAccount
  let thresholdBalance := s.swapBalanceThreshold supplyCurrencyId
  let s ← if nativeBalance < thresholdBalance then refill T dexAnswer supplyCurrencyId nativeBalance s else pure s
  let supplyAccount := rate.saturatingMulInt amount
  let tokens ← okOr (Balances.transfer (T.minimumBalance supplyCurrencyId) (s.tokens supplyCurrencyId) who
    subAccount supplyAccount .keepAlive) .transferFailed
  let native ← okOr (Balances.transfer T.nativeExistentialDeposit s.native subAccount who amount .keepAlive)
    .transferFailed
  pure { s with tokens := Function.update s.tokens supplyCurrencyId tokens, native := native }

/-- `initialize_pool`, with the DEX's quote of the `c` that buys the native
existential deposit. -/
def initializePool (quote : Option Nat) (currencyId : CurrencyId) (poolSize swapThreshold : Nat)
    (s : State AccountId) : Except Error (State AccountId) := do
  ensure (currencyId ≠ T.nativeCurrencyId) .invalidSwapPath
  let treasuryAccount := T.treasuryAccount
  let subAccount := T.subAccountId currencyId
  let nativeExistentialDeposit := T.nativeExistentialDeposit
  ensure (poolSize > nativeExistentialDeposit ∧ poolSize > swapThreshold) .invalidBalance
  ensure (s.poolSize currencyId = 0) .chargeFeePoolAlreadyExisted
  let supplyAmount ← okOr quote .dexNotAvailable
  let exchangeRate ← okOr (FixedU128.saturatingFromRational supplyAmount nativeExistentialDeposit) .panicked
  let tokens ← okOr (Balances.transfer (T.minimumBalance currencyId) (s.tokens currencyId) treasuryAccount subAccount
    (T.minimumBalance currencyId) .keepAlive) .transferFailed
  let native ← okOr (Balances.transfer nativeExistentialDeposit s.native treasuryAccount subAccount poolSize
    .keepAlive) .transferFailed
  pure { s with
    tokens := Function.update s.tokens currencyId tokens
    native := native
    swapBalanceThreshold := Function.update s.swapBalanceThreshold currencyId swapThreshold
    tokenExchangeRate := Function.update s.tokenExchangeRate currencyId (some exchangeRate)
    poolSize := Function.update s.poolSize currencyId poolSize }

/-- `disable_pool`: the sub-account's balances back to the treasury, and the
pool's storage removed. -/
def disablePool (currencyId : CurrencyId) (s : State AccountId) : Except Error (State AccountId) := do
  ensure (s.tokenExchangeRate currencyId).isSome .invalidToken
  let treasuryAccount := T.treasuryAccount
  let subAccount := T.subAccountId currencyId
  let foreignAmount := s.tokens currencyId subAccount
  let nativeAmount := s.native subAccount
  let tokens ← okOr (Balances.transfer (T.minimumBalance currencyId) (s.tokens currencyId) subAccount treasuryAccount
    foreignAmount .allowDeath) .transferFailed
  let native ← okOr (Balances.transfer T.nativeExistentialDeposit s.native subAccount treasuryAccount nativeAmount
    .allowDeath) .transferFailed
  pure { s with
    tokens := Function.update s.tokens currencyId tokens
    native := native
    tokenExchangeRate := Function.update s.tokenExchangeRate currencyId none
    poolSize := Function.update s.poolSize currencyId 0
    swapBalanceThreshold := Function.update s.swapBalanceThreshold currencyId 0 }

inductive Call (AccountId : Type) where
  | enableChargeFeePool (origin : Origin AccountId) (currencyId : CurrencyId) (poolSize swapThreshold : Nat)
      (quote : Option Nat)
  | disableChargeFeePool (origin : Origin AccountId) (currencyId : CurrencyId)
  /-- A fee paid through the pool, with the DEX's answer to a refill. -/
  | swapFromPoolOrDex (who : AccountId) (amount : Nat) (supplyCurrencyId : CurrencyId) (dexAnswer : Option Nat)

def dispatch (s : State AccountId) : Call AccountId → Except Error (State AccountId)
  | .enableChargeFeePool origin currencyId poolSize swapThreshold quote => do
      ensure (T.updateOrigin origin) .badOrigin
      initializePool T quote currencyId poolSize swapThreshold s
  | .disableChargeFeePool origin currencyId => do
      ensure (T.updateOrigin origin) .badOrigin
      disablePool T currencyId s
  | .swapFromPoolOrDex who amount supplyCurrencyId dexAnswer =>
      swapFromPoolOrDex T dexAnswer who amount supplyCurrencyId s

/-- The pallet from storage without pools, over any balances. -/
def system : System (State AccountId) (Call AccountId) where
  init s := ∀ c, s.tokenExchangeRate c = none ∧ s.poolSize c = 0 ∧ s.swapBalanceThreshold c = 0
  step s call := (dispatch T s call).toOption

/-! ## The new rate -/

section Rate

variable {s : State AccountId} {c : CurrencyId} {r : FixedU128}

omit [DecidableEq AccountId] in
theorem calculateExchangeRate_between (hrate : s.tokenExchangeRate c = some r)
    (hlt : s.swapBalanceThreshold c < s.poolSize c) (q : FixedU128) :
    ∃ x, calculateExchangeRate s c q = .ok x ∧ min r.inner q.inner ≤ x.inner + 1 ∧
      x.inner ≤ max r.inner q.inner := by
  have hD : 0 < FixedU128.DIV := by norm_num [FixedU128.DIV]
  have hDlt : FixedU128.DIV < 2 ^ 128 := by norm_num [FixedU128.DIV]
  obtain ⟨o, ho, hoInner⟩ :=
    @FixedU128.saturatingFromRational_eq_some (s.swapBalanceThreshold c) (s.poolSize c) (by omega)
  have hw : s.swapBalanceThreshold c * FixedU128.DIV / s.poolSize c < FixedU128.DIV := by
    rw [Nat.div_lt_iff_lt_mul (by omega), Nat.mul_comm FixedU128.DIV]
    exact Nat.mul_lt_mul_of_pos_right hlt hD
  have hweight : o.inner ≤ FixedU128.DIV := by omega
  have hupper := Proportion.weighted_le_max r.inner q.inner hweight hD
  have hlower := Proportion.min_le_weighted_add_one r.inner q.inner hweight hD
  have hbound : max r.inner q.inner < 2 ^ 128 := max_lt r.inner_lt q.inner_lt
  -- no part of the average saturates, since the whole is at most the larger rate
  have hfits := Nat.le_sub_one_of_lt (lt_of_le_of_lt hupper hbound)
  have hold : min (r.inner * o.inner / FixedU128.DIV) (2 ^ 128 - 1) = r.inner * o.inner / FixedU128.DIV :=
    Nat.min_eq_left (le_trans (Nat.le_add_right _ _) hfits)
  have hnew : min (q.inner * (FixedU128.DIV - o.inner) / FixedU128.DIV) (2 ^ 128 - 1) =
      q.inner * (FixedU128.DIV - o.inner) / FixedU128.DIV := Nat.min_eq_left (le_trans (Nat.le_add_left _ _) hfits)
  have hsum : min (r.inner * o.inner / FixedU128.DIV + q.inner * (FixedU128.DIV - o.inner) / FixedU128.DIV)
      (2 ^ 128 - 1) = r.inner * o.inner / FixedU128.DIV + q.inner * (FixedU128.DIV - o.inner) / FixedU128.DIV :=
    Nat.min_eq_left hfits
  have hinner : ((r.saturatingMul o).saturatingAdd (q.saturatingMul (FixedU128.one.saturatingSub o))).inner =
      r.inner * o.inner / FixedU128.DIV + q.inner * (FixedU128.DIV - o.inner) / FixedU128.DIV := by
    rw [FixedU128.inner_saturatingAdd, FixedU128.inner_saturatingMul, FixedU128.inner_saturatingMul,
      FixedU128.inner_saturatingSub, FixedU128.inner_one, hold, hnew, hsum]
  refine ⟨(r.saturatingMul o).saturatingAdd (q.saturatingMul (FixedU128.one.saturatingSub o)),
    by simp [calculateExchangeRate, ho, hrate, okOr], ?_, ?_⟩
  · rw [hinner]
    exact hlower
  · rw [hinner]
    exact hupper

omit [DecidableEq AccountId] in
/-- Once the pool size is at most the threshold, the swap rate gets no weight:
the new rate is the old one times `threshold / pool_size`, at least the old
one, whatever the DEX paid. -/
theorem calculateExchangeRate_of_le (hrate : s.tokenExchangeRate c = some r) (hpos : 0 < s.poolSize c)
    (hle : s.poolSize c ≤ s.swapBalanceThreshold c) :
    ∃ x, r.inner ≤ x.inner ∧ ∀ q, calculateExchangeRate s c q = .ok x := by
  have hD : 0 < FixedU128.DIV := by norm_num [FixedU128.DIV]
  have hDlt : FixedU128.DIV < 2 ^ 128 := by norm_num [FixedU128.DIV]
  obtain ⟨o, ho, hoInner⟩ :=
    @FixedU128.saturatingFromRational_eq_some (s.swapBalanceThreshold c) (s.poolSize c) (by omega)
  have hw : FixedU128.DIV ≤ s.swapBalanceThreshold c * FixedU128.DIV / s.poolSize c := by
    rw [Nat.le_div_iff_mul_le hpos, Nat.mul_comm]
    exact Nat.mul_le_mul_right _ hle
  have hweight : FixedU128.DIV ≤ o.inner := by omega
  have hold : r.inner ≤ r.inner * o.inner / FixedU128.DIV := by
    rw [Nat.le_div_iff_mul_le hD]
    exact Nat.mul_le_mul_left _ hweight
  have hzero : ∀ q : FixedU128, q.saturatingMul (FixedU128.one.saturatingSub o) = ⟨0, by norm_num⟩ := by
    intro q
    have hnone : (FixedU128.one.saturatingSub o).inner = 0 := by
      rw [FixedU128.inner_saturatingSub, FixedU128.inner_one]
      omega
    cases hsub : FixedU128.one.saturatingSub o with
    | mk inner hinner =>
        rw [hsub] at hnone
        cases hnone
        simp [FixedU128.saturatingMul]
  refine ⟨(r.saturatingMul o).saturatingAdd ⟨0, by norm_num⟩, ?_, fun q => ?_⟩
  · have := r.inner_lt
    rw [FixedU128.inner_saturatingAdd, FixedU128.inner_saturatingMul]
    simp only [Nat.add_zero]
    omega
  · simp [calculateExchangeRate, ho, hrate, okOr, hzero]

end Rate

/-! ## The calls, one by one -/

section Calls

variable {T} {s s' : State AccountId} {c : CurrencyId}

theorem dexSwap_storage {subAccount : AccountId} {supplyAmount : Nat} {dexAnswer : Option Nat}
    {s₀ : State AccountId} {swapNativeBalance : Nat}
    (h : dexSwap T s subAccount c supplyAmount dexAnswer = some (s₀, swapNativeBalance)) :
    dexAnswer = some swapNativeBalance ∧ s₀.tokenExchangeRate = s.tokenExchangeRate ∧ s₀.poolSize = s.poolSize ∧
      s₀.swapBalanceThreshold = s.swapBalanceThreshold := by
  cases dexAnswer with
  | none => cases h
  | some answer =>
      simp only [dexSwap, Option.bind_eq_bind, Option.bind_eq_some_iff, Option.some.injEq] at h
      obtain ⟨_, -, _, -, rfl, rfl⟩ := h
      exact ⟨rfl, rfl, rfl, rfl⟩

/-- What a refill leaves: the storage as it was, or the DEX's native and the
new rate recorded, with the pool size set to the native bought plus what was
left. -/
theorem refill_eq_ok {dexAnswer : Option Nat} {nativeBalance : Nat}
    (h : refill T dexAnswer c nativeBalance s = .ok s') :
    s' = s ∨ ∃ s₀ swapNativeBalance swapExchangeRate newExchangeRate,
      dexSwap T s (T.subAccountId c) c (s.tokens c (T.subAccountId c) - T.minimumBalance c) dexAnswer =
        some (s₀, swapNativeBalance) ∧
      FixedU128.saturatingFromRational (s.tokens c (T.subAccountId c) - T.minimumBalance c) swapNativeBalance =
        some swapExchangeRate ∧
      calculateExchangeRate s₀ c swapExchangeRate = .ok newExchangeRate ∧
      s' = { s₀ with
        tokenExchangeRate := Function.update s₀.tokenExchangeRate c (some newExchangeRate)
        poolSize := Function.update s₀.poolSize c (Balance.saturatingAdd swapNativeBalance nativeBalance) } := by
  unfold refill at h
  dsimp only at h
  split at h
  · rename_i s₀ swapNativeBalance hdex
    simp only [bind_eq_ok, okOr_eq_ok, pure_eq_ok] at h
    obtain ⟨swapExchangeRate, hswap, newExchangeRate, hnew, rfl⟩ := h
    exact .inr ⟨s₀, swapNativeBalance, swapExchangeRate, newExchangeRate, hdex, hswap, hnew, rfl⟩
  · exact .inl (pure_eq_ok.mp h).symm

/-- A refill sets the pool size to the native the DEX paid plus what was
left, whatever the threshold: when the DEX pays less than the threshold
lacks, the pool is left below its threshold. -/
theorem refill_below_threshold {nativeBalance swapNativeBalance : Nat}
    (h : refill T (some swapNativeBalance) c nativeBalance s = .ok s') (hrefilled : s' ≠ s)
    (hshallow : swapNativeBalance + nativeBalance < s.swapBalanceThreshold c) :
    s'.poolSize c < s'.swapBalanceThreshold c ∧ (s'.tokenExchangeRate c).isSome := by
  rcases refill_eq_ok h with hsame | ⟨s₀, paid, _, newExchangeRate, hdex, -, -, rfl⟩
  · exact absurd hsame hrefilled
  · obtain ⟨hpaid, -, -, hthreshold⟩ := dexSwap_storage hdex
    cases hpaid
    refine ⟨?_, by simp⟩
    simp only [Function.update_self, hthreshold, Balance.saturatingAdd]
    omega

theorem swapFromPoolOrDex_eq_ok {dexAnswer : Option Nat} {who : AccountId} {amount : Nat}
    (h : swapFromPoolOrDex T dexAnswer who amount c s = .ok s') :
    ∃ rate s₁ tokens native, s.tokenExchangeRate c = some rate ∧
      (if s.native (T.subAccountId c) < s.swapBalanceThreshold c then
        refill T dexAnswer c (s.native (T.subAccountId c)) s else pure s) = .ok s₁ ∧
      Balances.transfer (T.minimumBalance c) (s₁.tokens c) who (T.subAccountId c) (rate.saturatingMulInt amount)
        .keepAlive = some tokens ∧
      Balances.transfer T.nativeExistentialDeposit s₁.native (T.subAccountId c) who amount .keepAlive = some native ∧
      s' = { s₁ with tokens := Function.update s₁.tokens c tokens, native := native } := by
  simp only [swapFromPoolOrDex, bind_eq_ok, okOr_eq_ok] at h
  obtain ⟨rate, hrate, h⟩ := h
  split at h
  · rename_i hlow
    simp only [bind_eq_ok, okOr_eq_ok, pure_eq_ok] at h
    obtain ⟨s₁, hrefill, tokens, htokens, native, hnative, rfl⟩ := h
    exact ⟨rate, s₁, tokens, native, hrate, by rw [if_pos hlow]; exact hrefill, htokens, hnative, rfl⟩
  · rename_i hhigh
    simp only [bind_eq_ok, okOr_eq_ok, pure_eq_ok, pure_bind] at h
    obtain ⟨tokens, htokens, native, hnative, rfl⟩ := h
    exact ⟨rate, s, tokens, native, hrate, by rw [if_neg hhigh]; rfl, htokens, hnative, rfl⟩

/-- A successful `swap_from_pool_or_dex` moves exactly `rate * amount` of `c`
(saturated to a `u128`) from the payer to the pool and exactly `amount` of
native back, at the rate it started with, after the refill; nothing else
changes. -/
theorem swapFromPoolOrDex_moves {dexAnswer : Option Nat} {who : AccountId} {amount : Nat}
    (h : swapFromPoolOrDex T dexAnswer who amount c s = .ok s') :
    ∃ rate s₁, s.tokenExchangeRate c = some rate ∧
      (if s.native (T.subAccountId c) < s.swapBalanceThreshold c then
        refill T dexAnswer c (s.native (T.subAccountId c)) s else pure s) = .ok s₁ ∧
      (∀ x, s'.tokens c x + (if x = who then rate.saturatingMulInt amount else 0) =
        s₁.tokens c x + (if x = T.subAccountId c then rate.saturatingMulInt amount else 0)) ∧
      (∀ x, s'.native x + (if x = T.subAccountId c then amount else 0) =
        s₁.native x + (if x = who then amount else 0)) ∧
      (∀ c', c' ≠ c → s'.tokens c' = s₁.tokens c') ∧ s'.tokenExchangeRate = s₁.tokenExchangeRate ∧
      s'.poolSize = s₁.poolSize ∧ s'.swapBalanceThreshold = s₁.swapBalanceThreshold := by
  obtain ⟨rate, s₁, tokens, native, hrate, hrefill, htokens, hnative, rfl⟩ := swapFromPoolOrDex_eq_ok h
  refine ⟨rate, s₁, hrate, hrefill, fun x => ?_, Balances.transfer_keepAlive hnative, fun c' hc' => ?_, rfl, rfl,
    rfl⟩
  · simpa using Balances.transfer_keepAlive htokens x
  · simp [Function.update_of_ne hc']

theorem disablePool_moves (h : disablePool T c s = .ok s') :
    (∀ x, s'.tokens c x + (if x = T.subAccountId c then s.tokens c (T.subAccountId c) else 0) =
      s.tokens c x + (if x = T.treasuryAccount then s.tokens c (T.subAccountId c) else 0)) ∧
    (∀ x, s'.native x + (if x = T.subAccountId c then s.native (T.subAccountId c) else 0) =
      s.native x + (if x = T.treasuryAccount then s.native (T.subAccountId c) else 0)) ∧
    s'.tokenExchangeRate c = none ∧ s'.poolSize c = 0 ∧ s'.swapBalanceThreshold c = 0 := by
  simp only [disablePool, bind_eq_ok, ensure_eq_ok, okOr_eq_ok, pure_eq_ok] at h
  obtain ⟨_, -, tokens, htokens, native, hnative, rfl⟩ := h
  refine ⟨fun x => ?_, Balances.transfer_all hnative, by simp, by simp, by simp⟩
  simpa using Balances.transfer_all htokens x

theorem initializePool_opens {quote : Option Nat} {poolSize swapThreshold : Nat}
    (h : initializePool T quote c poolSize swapThreshold s = .ok s') :
    s'.swapBalanceThreshold c < s'.poolSize c ∧ (s'.tokenExchangeRate c).isSome := by
  simp only [initializePool, bind_eq_ok, ensure_eq_ok, okOr_eq_ok, pure_eq_ok, decide_eq_true_eq] at h
  obtain ⟨_, -, _, ⟨-, hgt⟩, _, -, _, -, _, -, _, -, _, -, rfl⟩ := h
  simp [hgt]

end Calls

/-- The charge-fee pools move what they say. `initialize_pool` opens a pool
with its threshold below its size and a rate; `swap_from_pool_or_dex` moves
exactly `rate * amount` of the currency to the pool and `amount` of native
back, at the rate it started with, after the refill if the pool was low, and
nothing else; `disable_pool` sends the pool's balances to the treasury and
clears its storage. A rate update lies between the old rate and the swap rate
while the threshold is below the pool size, and otherwise ignores the swap
rate and does not fall; a refill from a DEX that pays less than the
threshold lacks leaves the open pool below its threshold. -/
theorem charge_fee_pool_moves (s s' : State AccountId) (c : CurrencyId) :
    (∀ quote poolSize swapThreshold, initializePool T quote c poolSize swapThreshold s = .ok s' →
      s'.swapBalanceThreshold c < s'.poolSize c ∧ (s'.tokenExchangeRate c).isSome) ∧
    (∀ dexAnswer who amount, swapFromPoolOrDex T dexAnswer who amount c s = .ok s' →
      ∃ rate s₁, s.tokenExchangeRate c = some rate ∧
        (if s.native (T.subAccountId c) < s.swapBalanceThreshold c then
          refill T dexAnswer c (s.native (T.subAccountId c)) s else pure s) = .ok s₁ ∧
        (∀ x, s'.tokens c x + (if x = who then rate.saturatingMulInt amount else 0) =
          s₁.tokens c x + (if x = T.subAccountId c then rate.saturatingMulInt amount else 0)) ∧
        (∀ x, s'.native x + (if x = T.subAccountId c then amount else 0) =
          s₁.native x + (if x = who then amount else 0)) ∧
        (∀ c', c' ≠ c → s'.tokens c' = s₁.tokens c') ∧ s'.tokenExchangeRate = s₁.tokenExchangeRate ∧
        s'.poolSize = s₁.poolSize ∧ s'.swapBalanceThreshold = s₁.swapBalanceThreshold) ∧
    (disablePool T c s = .ok s' →
      (∀ x, s'.tokens c x + (if x = T.subAccountId c then s.tokens c (T.subAccountId c) else 0) =
        s.tokens c x + (if x = T.treasuryAccount then s.tokens c (T.subAccountId c) else 0)) ∧
      (∀ x, s'.native x + (if x = T.subAccountId c then s.native (T.subAccountId c) else 0) =
        s.native x + (if x = T.treasuryAccount then s.native (T.subAccountId c) else 0)) ∧
      s'.tokenExchangeRate c = none ∧ s'.poolSize c = 0 ∧ s'.swapBalanceThreshold c = 0) ∧
    (∀ r, s.tokenExchangeRate c = some r → s.swapBalanceThreshold c < s.poolSize c → ∀ q,
      ∃ x, calculateExchangeRate s c q = .ok x ∧ min r.inner q.inner ≤ x.inner + 1 ∧
        x.inner ≤ max r.inner q.inner) ∧
    (∀ r, s.tokenExchangeRate c = some r → 0 < s.poolSize c → s.poolSize c ≤ s.swapBalanceThreshold c →
      ∃ x, r.inner ≤ x.inner ∧ ∀ q, calculateExchangeRate s c q = .ok x) ∧
    ∀ nativeBalance swapNativeBalance, refill T (some swapNativeBalance) c nativeBalance s = .ok s' → s' ≠ s →
      swapNativeBalance + nativeBalance < s.swapBalanceThreshold c →
        s'.poolSize c < s'.swapBalanceThreshold c ∧ (s'.tokenExchangeRate c).isSome :=
  ⟨fun _ _ _ h => initializePool_opens h, fun _ _ _ h => swapFromPoolOrDex_moves h, disablePool_moves,
    fun _ hrate hlt q => calculateExchangeRate_between hrate hlt q,
    fun _ hrate hpos hle => calculateExchangeRate_of_le hrate hpos hle,
    fun _ _ h hrefilled hshallow => refill_below_threshold h hrefilled hshallow⟩

/-! ## A pool refilled from a shallow DEX -/

namespace Reference

inductive Account where
  | treasury
  | pool
  | dex
  | alice
  deriving DecidableEq, Repr

def seusd : CurrencyId := .token .SEUSD

/-- A native existential deposit of 10, of 1 for the other currencies; one
pool account; updates by root. -/
def referenceConfig : Config Account where
  nativeCurrencyId := .token .SEU
  treasuryAccount := .treasury
  subAccountId _ := .pool
  dexAccount := .dex
  nativeExistentialDeposit := 10
  minimumBalance _ := 1
  updateOrigin origin := decide (origin = .root)

/-- No pool; the treasury holds 10000 native and 100 SEUSD, the DEX 1000
native, Alice 10 native and 100000 SEUSD. -/
def genesis : State Account where
  tokenExchangeRate _ := none
  poolSize _ := 0
  swapBalanceThreshold _ := 0
  native
    | .treasury => 10000
    | .dex => 1000
    | .alice => 10
    | .pool => 0
  tokens c who :=
    if c = seusd then
      match who with
      | .treasury => 100
      | .alice => 100000
      | _ => 0
    else 0

theorem genesis_init : (system referenceConfig).init genesis := fun _ => ⟨rfl, rfl, rfl⟩

/-- Root opens the SEUSD pool with 1000 native and a threshold of 500, at the
rate 2 the DEX quotes; Alice pays a fee of 600 native, which needs no refill,
then a fee of 100, whose refill sells the pool's 1200 SEUSD for only 50
native. -/
def lowPool : List (Call Account) :=
  [.enableChargeFeePool .root seusd 1000 500 (some 20), .swapFromPoolOrDex .alice 600 seusd none,
    .swapFromPoolOrDex .alice 100 seusd (some 50)]

/-- The state after `lowPool`. -/
def lowPoolState : State Account := (system referenceConfig).run genesis lowPool

/-- After the refill from a shallow DEX the pool size, 450, is below the
threshold of 500 while the pool is open. The next refill, which sells 200
SEUSD for 100 native at the rate 2, then gives the rate 13 a weight of
`500 / 450` and the swap rate none: the rate rises to 14.44…, above both. -/
theorem refill_leaves_pool_below_threshold :
    Reachable (system referenceConfig) lowPoolState ∧
      (lowPoolState.tokenExchangeRate seusd).map FixedU128.inner = some (13 * 10 ^ 18) ∧
      lowPoolState.poolSize seusd = 450 ∧ lowPoolState.swapBalanceThreshold seusd = 500 ∧
      (swapFromPoolOrDex referenceConfig (some 100) .alice 100 seusd lowPoolState).map
          (fun s' => (s'.tokenExchangeRate seusd).map FixedU128.inner) = .ok (some 14444444444444444443) :=
  ⟨(Reachable.init genesis_init).run _, by decide, by decide, by decide,
    by decide⟩

/-- The pool left below its threshold: its next rate is fixed whatever the
DEX pays, and at least 13; disabling it sends the native it holds to the
treasury. -/
theorem lowPool_rate_fixed_and_disabled :
    (∃ x, 13 * 10 ^ 18 ≤ x.inner ∧ ∀ q, calculateExchangeRate lowPoolState seusd q = .ok x) ∧
      ∃ s', disablePool referenceConfig seusd lowPoolState = .ok s' ∧
        s'.native .treasury = lowPoolState.native .treasury + lowPoolState.native .pool := by
  have hrate : lowPoolState.tokenExchangeRate seusd = some ⟨13 * 10 ^ 18, by norm_num⟩ := by decide
  have hfacts := charge_fee_pool_moves referenceConfig lowPoolState lowPoolState seusd
  obtain ⟨s', hdisable⟩ := exists_ok_of_toOption_isSome
    (by decide : (disablePool referenceConfig seusd lowPoolState).toOption.isSome)
  obtain ⟨-, hnative, -⟩ := (charge_fee_pool_moves referenceConfig lowPoolState s' seusd).2.2.1 hdisable
  refine ⟨hfacts.2.2.2.2.1 _ hrate (by decide) (by decide), s', hdisable, ?_⟩
  have h := hnative .treasury
  simp only [referenceConfig, reduceCtorEq, if_false, if_true, Nat.add_zero] at h
  exact h

end Reference

end Setheum.TransactionPayment.ChargePool
