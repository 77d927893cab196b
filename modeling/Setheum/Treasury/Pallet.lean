import Setheum.Cdp.Risk
import Setheum.Lib.System

/-!
# The SEUSD treasury

`module_seusd_treasury` keeps the system's bad debt in `DebitPool` and its
surplus as the SEUSD of its own account. Debt comes in unbacked: through
`on_system_debit` and through `issue_debit` with `backed = false`, which also
mints. At the end of every block `offset_surplus_and_debit` burns the surplus
against the part of the debt above `DebitOffsetBuffer`, and lowers the pool
by what it burnt.

`create_collateral_auctions` splits collateral into lots of the expected
auction size, at most `MaxAuctionsCount` of them: every lot but the last gets
the same share of the collateral and of the target, and the last the rest, so
the lots add up to the collateral and to the target exactly. Collateral of
zero makes no lot at all.

The currencies, the auctions manager, the swap and the DEX are the runtime
around the pallet, a `Config` over their state `L`; each of their calls either
fails or gives the next state.
-/

namespace Setheum.Treasury

open Result

/-- `Error` of `module_seusd_treasury`. -/
inductive Error where
  | collateralNotEnough
  | surplusPoolNotEnough
  | debitPoolNotEnough
  | cannotSwap
  | notDexShare
  deriving DecidableEq, Repr

/-- The errors the treasury returns; those of the pallets it calls are `external`. -/
inductive DispatchError where
  | module (e : Error)
  | arithmetic (e : ArithmeticError)
  | external
  deriving DecidableEq, Repr

/-- The runtime around the treasury, over the state `L` of the pallets it calls. -/
structure Config (AccountId L : Type) where
  getSeusdCurrencyId : CurrencyId
  /-- `account_id()`, the account of `PalletId`. -/
  accountId : AccountId
  treasuryAccount : AccountId
  maxAuctionsCount : Nat
  /-- `MultiCurrency::free_balance`, `deposit`, `withdraw` and `transfer`. -/
  freeBalance : CurrencyId → AccountId → L → Nat
  deposit : CurrencyId → AccountId → Nat → L → Option L
  withdraw : CurrencyId → AccountId → Nat → L → Option L
  transfer : CurrencyId → AccountId → AccountId → Nat → L → Option L
  /-- `AuctionsManager::get_total_collateral_in_auction` and `new_collateral_auction`. -/
  getTotalCollateralInAuction : CurrencyId → L → Nat
  newCollateralAuction : AccountId → CurrencyId → Nat → Nat → L → Option L
  /-- `Swap::swap`, answering the supply and target amounts. -/
  swap : AccountId → CurrencyId → CurrencyId → Cdp.SwapLimit → L → Option ((Nat × Nat) × L)
  /-- `DEX::remove_liquidity` with no minimum amounts, answering the two amounts. -/
  removeLiquidity : AccountId → CurrencyId → CurrencyId → Nat → L → Option ((Nat × Nat) × L)

/-- The storage of the treasury, with the state of the pallets it calls. -/
structure State (L : Type) where
  expectedCollateralAuctionSize : CurrencyId → Nat
  debitPool : Nat
  debitOffsetBuffer : Nat
  ledger : L

variable {AccountId L : Type} (T : Config AccountId L) (s : State L)

/-! ## The treasury's balances and its debt -/

/-- `surplus_pool`: the SEUSD of the treasury's account. -/
def surplusPool : Nat := T.freeBalance T.getSeusdCurrencyId T.accountId s.ledger

/-- `total_collaterals`. -/
def totalCollaterals (currencyId : CurrencyId) : Nat := T.freeBalance currencyId T.accountId s.ledger

/-- `total_collaterals_not_in_auction`. -/
def totalCollateralsNotInAuction (currencyId : CurrencyId) : Nat :=
  T.freeBalance currencyId T.accountId s.ledger - T.getTotalCollateralInAuction currencyId s.ledger

/-- `on_system_debit`: the debit pool grows, checked. -/
def onSystemDebit (amount : Nat) : Except DispatchError (State L) := do
  let debitPool ← okOr (Balance.checkedAdd s.debitPool amount) (.arithmetic .overflow)
  pure { s with debitPool }

/-- `issue_debit`: SEUSD is minted to `who`, and counted as system debit when
it is not backed. -/
def issueDebit (who : AccountId) (debit : Nat) (backed : Bool) : Except DispatchError (State L) := do
  let s ← (if backed then pure s else onSystemDebit s debit)
  let ledger ← okOr (T.deposit T.getSeusdCurrencyId who debit s.ledger) .external
  pure { s with ledger }

/-- `on_system_surplus`: a backed issue to the treasury's own account. -/
def onSystemSurplus (amount : Nat) : Except DispatchError (State L) :=
  issueDebit T s T.accountId amount true

/-- `burn_debit`. -/
def burnDebit (who : AccountId) (debit : Nat) : Except DispatchError (State L) := do
  let ledger ← okOr (T.withdraw T.getSeusdCurrencyId who debit s.ledger) .external
  pure { s with ledger }

/-- A transfer of the ledger, the body of the four functions that move
surplus or collateral in or out of the treasury's account. -/
def transferBalance (currencyId : CurrencyId) (source dest : AccountId) (amount : Nat) :
    Except DispatchError (State L) := do
  let ledger ← okOr (T.transfer currencyId source dest amount s.ledger) .external
  pure { s with ledger }

/-- `deposit_surplus`. -/
def depositSurplus (source : AccountId) (surplus : Nat) : Except DispatchError (State L) :=
  transferBalance T s T.getSeusdCurrencyId source T.accountId surplus

/-- `withdraw_surplus`. -/
def withdrawSurplus (dest : AccountId) (surplus : Nat) : Except DispatchError (State L) :=
  transferBalance T s T.getSeusdCurrencyId T.accountId dest surplus

/-- `deposit_collateral`. -/
def depositCollateral (source : AccountId) (currencyId : CurrencyId) (amount : Nat) : Except DispatchError (State L) :=
  transferBalance T s currencyId source T.accountId amount

/-- `withdraw_collateral`. -/
def withdrawCollateral (dest : AccountId) (currencyId : CurrencyId) (amount : Nat) : Except DispatchError (State L) :=
  transferBalance T s currencyId T.accountId dest amount

/-- The amount `offset_surplus_and_debit` burns: the part of the debit pool
above the buffer, at most the surplus. -/
def offsetAmount : Nat := min (s.debitPool - s.debitOffsetBuffer) (surplusPool T s)

/-- `offset_surplus_and_debit`, run by `on_finalize`. A failed burn is only
logged; the `expect` on the debit pool's subtraction would panic, `none`. -/
def offsetSurplusAndDebit : Option (State L) :=
  if offsetAmount T s = 0 then some s
  else
    match burnDebit T s T.accountId (offsetAmount T s) with
    | .ok s' => (Balance.checkedSub s'.debitPool (offsetAmount T s)).map fun debitPool => { s' with debitPool }
    | .error _ => some s

/-- The SEUSD `offset_surplus_and_debit` burns: the offset amount, when its
withdrawal goes through. -/
def offsetBurnt : Nat :=
  if (T.withdraw T.getSeusdCurrencyId T.accountId (offsetAmount T s) s.ledger).isSome then offsetAmount T s else 0

/-- What the treasury needs of `MultiCurrency::withdraw`: a withdrawal takes at
least the amount from the free balance (an account left below the existential
deposit may lose the rest too). -/
def Config.WithdrawTakes : Prop :=
  ∀ currencyId who amount ledger ledger', T.withdraw currencyId who amount ledger = some ledger' →
    T.freeBalance currencyId who ledger' + amount ≤ T.freeBalance currencyId who ledger

section Debit

variable {T s} {s' : State L}

theorem onSystemDebit_eq_ok {amount : Nat} (h : onSystemDebit s amount = .ok s') :
    s.debitPool + amount < 2 ^ 128 ∧ s' = { s with debitPool := s.debitPool + amount } := by
  unfold onSystemDebit at h
  obtain ⟨debitPool, hadd, h⟩ := bind_eq_ok.mp h
  obtain ⟨hlt, rfl⟩ := Balance.checkedAdd_eq_some.mp (okOr_eq_ok.mp hadd)
  exact ⟨hlt, (pure_eq_ok.mp h).symm⟩

theorem issueDebit_eq_ok {who : AccountId} {debit : Nat} {backed : Bool} (h : issueDebit T s who debit backed = .ok s') :
    ∃ ledger, T.deposit T.getSeusdCurrencyId who debit s.ledger = some ledger ∧
      s' = { s with ledger, debitPool := s.debitPool + if backed then 0 else debit } := by
  unfold issueDebit at h
  obtain ⟨s₁, h₁, h⟩ := bind_eq_ok.mp h
  obtain ⟨ledger, hledger, h⟩ := bind_eq_ok.mp h
  cases pure_eq_ok.mp h
  cases backed
  · obtain ⟨-, rfl⟩ := onSystemDebit_eq_ok h₁
    exact ⟨ledger, okOr_eq_ok.mp hledger, rfl⟩
  · cases pure_eq_ok.mp h₁
    exact ⟨ledger, okOr_eq_ok.mp hledger, by simp⟩

theorem burnDebit_eq_ok {who : AccountId} {debit : Nat} :
    burnDebit T s who debit = .ok s' ↔
      ∃ ledger, T.withdraw T.getSeusdCurrencyId who debit s.ledger = some ledger ∧ s' = { s with ledger } := by
  unfold burnDebit
  constructor
  · intro h
    obtain ⟨ledger, hledger, h⟩ := bind_eq_ok.mp h
    exact ⟨ledger, okOr_eq_ok.mp hledger, (pure_eq_ok.mp h).symm⟩
  · rintro ⟨ledger, hledger, rfl⟩
    rw [hledger]
    rfl

theorem transferBalance_eq_ok {currencyId : CurrencyId} {source dest : AccountId} {amount : Nat}
    (h : transferBalance T s currencyId source dest amount = .ok s') :
    ∃ ledger, T.transfer currencyId source dest amount s.ledger = some ledger ∧ s' = { s with ledger } := by
  unfold transferBalance at h
  obtain ⟨ledger, hledger, h⟩ := bind_eq_ok.mp h
  exact ⟨ledger, okOr_eq_ok.mp hledger, (pure_eq_ok.mp h).symm⟩

theorem offsetAmount_le_debitPool : offsetAmount T s ≤ s.debitPool :=
  le_trans (min_le_left _ _) (Nat.sub_le _ _)

/-- `on_finalize` never panics: with nothing to offset, or when the burn
fails, it leaves the state as it was; else it burnt the offset amount of the
treasury's SEUSD and took it off the debit pool. -/
theorem offsetSurplusAndDebit_cases :
    ∃ s', offsetSurplusAndDebit T s = some s' ∧
      (offsetAmount T s = 0 ∧ s' = s ∨
        offsetAmount T s ≠ 0 ∧ T.withdraw T.getSeusdCurrencyId T.accountId (offsetAmount T s) s.ledger = none ∧
          s' = s ∨
        offsetAmount T s ≠ 0 ∧ ∃ ledger,
          T.withdraw T.getSeusdCurrencyId T.accountId (offsetAmount T s) s.ledger = some ledger ∧
            s' = { s with ledger, debitPool := s.debitPool - offsetAmount T s }) := by
  unfold offsetSurplusAndDebit
  by_cases hzero : offsetAmount T s = 0
  · exact ⟨s, by rw [if_pos hzero], .inl ⟨hzero, rfl⟩⟩
  · rw [if_neg hzero]
    cases hburn : burnDebit T s T.accountId (offsetAmount T s) with
    | error e =>
        have hnone : T.withdraw T.getSeusdCurrencyId T.accountId (offsetAmount T s) s.ledger = none := by
          cases hw : T.withdraw T.getSeusdCurrencyId T.accountId (offsetAmount T s) s.ledger with
          | none => rfl
          | some ledger =>
              have := burnDebit_eq_ok.mpr ⟨ledger, hw, rfl⟩
              rw [hburn] at this
              cases this
        exact ⟨s, rfl, .inr (.inl ⟨hzero, hnone, rfl⟩)⟩
    | ok s₁ =>
        obtain ⟨ledger, hledger, rfl⟩ := burnDebit_eq_ok.mp hburn
        have hsub : Balance.checkedSub s.debitPool (offsetAmount T s) = some (s.debitPool - offsetAmount T s) :=
          Balance.checkedSub_eq_some.mpr ⟨offsetAmount_le_debitPool, rfl⟩
        exact ⟨_, by simp only [hsub, Option.map_some], .inr (.inr ⟨hzero, ledger, hledger, rfl⟩)⟩

theorem offsetSurplusAndDebit_debitPool (h : offsetSurplusAndDebit T s = some s') :
    s'.debitPool + offsetBurnt T s = s.debitPool := by
  obtain ⟨s₁, hs₁, hcases⟩ := offsetSurplusAndDebit_cases (T := T) (s := s)
  rw [hs₁] at h
  cases h
  unfold offsetBurnt
  rcases hcases with ⟨hzero, rfl⟩ | ⟨-, hnone, rfl⟩ | ⟨-, ledger, hsome, rfl⟩
  · rw [hzero]
    split_ifs <;> rfl
  · rw [hnone]
    rfl
  · rw [hsome, Option.isSome_some, if_pos rfl]
    exact Nat.sub_add_cancel offsetAmount_le_debitPool

theorem offsetSurplusAndDebit_settles (hT : T.WithdrawTakes) (h : offsetSurplusAndDebit T s = some s') :
    s'.debitPool ≤ s'.debitOffsetBuffer ∨ surplusPool T s' = 0 ∨ s' = s := by
  obtain ⟨s₁, hs₁, hcases⟩ := offsetSurplusAndDebit_cases (T := T) (s := s)
  rw [hs₁] at h
  cases h
  rcases hcases with ⟨hzero, rfl⟩ | ⟨-, -, rfl⟩ | ⟨-, ledger, hsome, rfl⟩
  · -- nothing to offset: no debt above the buffer, or no surplus
    unfold offsetAmount at hzero
    rcases Nat.min_eq_zero_iff.mp hzero with hdebt | hsurplus
    · exact .inl (by omega)
    · exact .inr (.inl hsurplus)
  · exact .inr (.inr rfl)
  · -- the burn took at least the offset from the surplus
    have htakes := hT _ _ _ _ _ hsome
    unfold offsetAmount at htakes ⊢
    change T.freeBalance T.getSeusdCurrencyId T.accountId ledger + _ ≤ surplusPool T s at htakes
    rcases le_total (s.debitPool - s.debitOffsetBuffer) (surplusPool T s) with hle | hle
    · rw [min_eq_left hle]
      exact .inl (by dsimp only; omega)
    · rw [min_eq_right hle] at htakes
      exact .inr (.inl (by unfold surplusPool; dsimp only; omega))

end Debit

/-! ## Collateral auctions -/

/-- The number of lots of `create_collateral_auctions`: one unless the
collateral is split into lots of a non-zero size, a non-zero number of them
allowed and more collateral than one lot; else as many lots of that size as
the collateral fills, the last one partly, up to `MaxAuctionsCount`. -/
def lotsCount (amount expectedCollateralAuctionSize maxAuctionsCount : Nat) (splited : Bool) : Nat :=
  if splited = false ∨ maxAuctionsCount = 0 ∨ expectedCollateralAuctionSize = 0 ∨
      amount ≤ expectedCollateralAuctionSize then 1
  else
    let count := amount / expectedCollateralAuctionSize
    let remainder := amount % expectedCollateralAuctionSize
    let count := if remainder ≠ 0 then Balance.saturatingAdd count 1 else count
    min count maxAuctionsCount

/-- The loop of `create_collateral_auctions`, as the collateral and target of
each lot in order. `created_lots` counts up from zero to `lots_count`, so the
loop is written over the `remaining` lots before the one at `lots_count`,
which takes what is left; the loop stops as soon as no collateral is left. -/
def collateralLots (averageAmountPerLot averageTargetPerLot : Nat) :
    (remaining unhandledCollateralAmount unhandledTarget : Nat) → List (Nat × Nat)
  | _, 0, _ => []
  | 0, unhandledCollateralAmount, unhandledTarget => [(unhandledCollateralAmount, unhandledTarget)]
  | remaining + 1, unhandledCollateralAmount, unhandledTarget =>
      (averageAmountPerLot, averageTargetPerLot) ::
        collateralLots averageAmountPerLot averageTargetPerLot remaining
          (unhandledCollateralAmount - averageAmountPerLot) (unhandledTarget - averageTargetPerLot)

/-- The lots of `amount` collateral for `target`. -/
def lots (amount target expectedCollateralAuctionSize maxAuctionsCount : Nat) (splited : Bool) : List (Nat × Nat) :=
  let lotsCount := lotsCount amount expectedCollateralAuctionSize maxAuctionsCount splited
  collateralLots (amount / lotsCount) (target / lotsCount) (lotsCount - 1) amount target

/-- `create_collateral_auctions`, answering the number of auctions made. The
lots do not depend on what the auctions manager does, so the loop is their
list followed by one `new_collateral_auction` per lot, stopping at the first
that fails. -/
def createCollateralAuctions (currencyId : CurrencyId) (amount target : Nat) (refundReceiver : AccountId)
    (splited : Bool) : Except DispatchError (Nat × State L) := do
  ensure (decide (amount ≤ totalCollateralsNotInAuction T s currencyId)) (.module .collateralNotEnough)
  let lots := lots amount target (s.expectedCollateralAuctionSize currencyId) T.maxAuctionsCount splited
  let ledger ← okOr (lots.foldlM (fun ledger lot =>
    T.newCollateralAuction refundReceiver currencyId lot.1 lot.2 ledger) s.ledger) .external
  -- `created_lots.try_into()` as a `u32`
  let createdAuctions ← okOr (if lots.length < 2 ^ 32 then some lots.length else none) (.arithmetic .overflow)
  pure (createdAuctions, { s with ledger })

section Lots

variable {amount target size maxAuctionsCount : Nat} {splited : Bool}

theorem div_add_remainder_eq_ceil (hsize : 0 < size) :
    amount / size + (if amount % size ≠ 0 then 1 else 0) = (amount + size - 1) / size := by
  have hmod := Nat.mod_lt amount hsize
  have hsplit : amount + size - 1 = (amount % size + size - 1) + size * (amount / size) := by
    have := Nat.mod_add_div amount size
    omega
  rw [hsplit, Nat.add_mul_div_left _ _ hsize, Nat.add_comm ((amount % size + size - 1) / size)]
  congr 1
  split_ifs with hrem
  · exact (Nat.div_eq_of_lt_le (k := 1) (by omega) (by omega)).symm
  · exact (Nat.div_eq_of_lt (by omega)).symm

theorem one_lt_of_mod_ne_zero (hsize : 0 < size) (hrem : amount % size ≠ 0) : 1 < size := by
  by_contra h
  have hone : size = 1 := by omega
  rw [hone, Nat.mod_one] at hrem
  exact hrem rfl

theorem lotsCount_of_split (hsplit : ¬(splited = false ∨ maxAuctionsCount = 0 ∨ size = 0 ∨ amount ≤ size))
    (hamount : amount < 2 ^ 128) :
    lotsCount amount size maxAuctionsCount splited = min ((amount + size - 1) / size) maxAuctionsCount := by
  have hsize : 0 < size := Nat.pos_of_ne_zero fun h => hsplit (.inr (.inr (.inl h)))
  unfold lotsCount
  rw [if_neg hsplit, ← div_add_remainder_eq_ceil hsize]
  dsimp only
  congr 1
  split_ifs with hrem
  · -- a remainder means `size ≥ 2`, so the quotient is below `amount`
    have hq : amount / size < amount := Nat.div_lt_self (by omega) (one_lt_of_mod_ne_zero hsize hrem)
    exact Balance.saturatingAdd_eq (by omega)
  · rfl

theorem lotsCount_of_not_split (hone : splited = false ∨ maxAuctionsCount = 0 ∨ size = 0 ∨ amount ≤ size) :
    lotsCount amount size maxAuctionsCount splited = 1 := by
  unfold lotsCount
  rw [if_pos hone]

theorem lotsCount_pos_le (h : 0 < amount) :
    0 < lotsCount amount size maxAuctionsCount splited ∧ lotsCount amount size maxAuctionsCount splited ≤ amount := by
  by_cases hone : splited = false ∨ maxAuctionsCount = 0 ∨ size = 0 ∨ amount ≤ size
  · rw [lotsCount_of_not_split hone]
    exact ⟨Nat.one_pos, h⟩
  · have hmax : maxAuctionsCount ≠ 0 := fun h => hone (.inr (.inl h))
    have hsize : 0 < size := Nat.pos_of_ne_zero fun h => hone (.inr (.inr (.inl h)))
    have hlt : size < amount := Nat.lt_of_not_le fun h => hone (.inr (.inr (.inr h)))
    have hq : 0 < amount / size := Nat.div_pos hlt.le hsize
    -- the count is the quotient, or one more; saturation only lowers it
    have hcount : ∀ count, 0 < count → count ≤ amount →
        0 < min count maxAuctionsCount ∧ min count maxAuctionsCount ≤ amount :=
      fun count hc hc' => ⟨lt_min hc (Nat.pos_of_ne_zero hmax), le_trans (min_le_left _ _) hc'⟩
    unfold lotsCount
    rw [if_neg hone]
    dsimp only
    split_ifs with hrem
    · have hq' : amount / size < amount := Nat.div_lt_self h (one_lt_of_mod_ne_zero hsize hrem)
      unfold Balance.saturatingAdd
      exact hcount _ (lt_min (by omega) (by norm_num)) (le_trans (min_le_left _ _) (by omega))
    · exact hcount _ hq (Nat.div_le_self _ _)

theorem collateralLots_eq {averageAmount averageTarget : Nat} :
    ∀ {remaining unhandledAmount unhandledTarget : Nat}, remaining * averageAmount < unhandledAmount →
      remaining * averageTarget ≤ unhandledTarget →
      collateralLots averageAmount averageTarget remaining unhandledAmount unhandledTarget =
        List.replicate remaining (averageAmount, averageTarget) ++
          [(unhandledAmount - remaining * averageAmount, unhandledTarget - remaining * averageTarget)] := by
  intro remaining
  induction remaining with
  | zero =>
      intro unhandledAmount unhandledTarget hamount _
      obtain ⟨u, rfl⟩ : ∃ u, unhandledAmount = u + 1 := ⟨unhandledAmount - 1, by omega⟩
      simp [collateralLots]
  | succ remaining ih =>
      intro unhandledAmount unhandledTarget hamount htarget
      obtain ⟨u, rfl⟩ : ∃ u, unhandledAmount = u + 1 := ⟨unhandledAmount - 1, by omega⟩
      simp only [Nat.succ_mul] at hamount htarget ⊢
      -- one lot of the average is taken, and the rest of the loop runs on what is left
      have hrestAmount : u + 1 - averageAmount - remaining * averageAmount =
          u + 1 - (remaining * averageAmount + averageAmount) := by omega
      have hrestTarget : unhandledTarget - averageTarget - remaining * averageTarget =
          unhandledTarget - (remaining * averageTarget + averageTarget) := by omega
      rw [collateralLots, ih (by omega) (by omega), hrestAmount, hrestTarget]
      · rfl
      · exact Nat.succ_ne_zero u

@[simp] theorem collateralLots_zero_amount {averageAmount averageTarget remaining unhandledTarget : Nat} :
    collateralLots averageAmount averageTarget remaining 0 unhandledTarget = [] := by
  cases remaining <;> rfl

theorem lots_zero : lots 0 target size maxAuctionsCount splited = [] := by
  unfold lots
  exact collateralLots_zero_amount

theorem lots_bounds {n : Nat} (hn : 0 < n) (hle : n ≤ amount) :
    (n - 1) * (amount / n) < amount ∧ (n - 1) * (target / n) ≤ target := by
  have havg : 0 < amount / n := Nat.div_pos hle hn
  constructor
  · calc (n - 1) * (amount / n) < n * (amount / n) := Nat.mul_lt_mul_of_pos_right (by omega) havg
      _ ≤ amount := Nat.mul_div_le amount n
  · calc (n - 1) * (target / n) ≤ n * (target / n) := Nat.mul_le_mul_right _ (Nat.sub_le n 1)
      _ ≤ target := Nat.mul_div_le target n

/-- With some collateral there are `lots_count` lots: all but the last get
`amount / lots_count` collateral and `target / lots_count` target, and the
last the rest. -/
theorem lots_eq (h : 0 < amount) :
    lots amount target size maxAuctionsCount splited =
      List.replicate (lotsCount amount size maxAuctionsCount splited - 1)
          (amount / lotsCount amount size maxAuctionsCount splited,
            target / lotsCount amount size maxAuctionsCount splited) ++
        [(amount - (lotsCount amount size maxAuctionsCount splited - 1) *
            (amount / lotsCount amount size maxAuctionsCount splited),
          target - (lotsCount amount size maxAuctionsCount splited - 1) *
            (target / lotsCount amount size maxAuctionsCount splited))] := by
  obtain ⟨hn, hle⟩ := @lotsCount_pos_le amount size maxAuctionsCount splited h
  obtain ⟨hamount, htarget⟩ := @lots_bounds amount target _ hn hle
  unfold lots
  exact collateralLots_eq hamount htarget

theorem lots_spec (h : 0 < amount) :
    (lots amount target size maxAuctionsCount splited).length = lotsCount amount size maxAuctionsCount splited ∧
      ((lots amount target size maxAuctionsCount splited).map Prod.fst).sum = amount ∧
      ((lots amount target size maxAuctionsCount splited).map Prod.snd).sum = target ∧
      (lots amount target size maxAuctionsCount splited).dropLast =
        List.replicate (lotsCount amount size maxAuctionsCount splited - 1)
          (amount / lotsCount amount size maxAuctionsCount splited,
            target / lotsCount amount size maxAuctionsCount splited) := by
  obtain ⟨hn, hle⟩ := @lotsCount_pos_le amount size maxAuctionsCount splited h
  obtain ⟨hamount, htarget⟩ := @lots_bounds amount target _ hn hle
  rw [lots_eq h]
  simp only [List.length_append, List.length_replicate, List.length_singleton, List.map_append,
    List.map_replicate, List.sum_append, List.sum_replicate_nat, List.map_cons, List.map_nil,
    List.sum_cons, List.sum_nil, List.dropLast_concat, and_true]
  omega

theorem lotsCount_le_max : lotsCount amount size maxAuctionsCount splited ≤ max 1 maxAuctionsCount := by
  unfold lotsCount
  split_ifs
  · exact le_max_left 1 maxAuctionsCount
  · exact le_trans (min_le_right _ _) (le_max_right 1 maxAuctionsCount)

theorem lots_length_le_max : (lots amount target size maxAuctionsCount splited).length ≤ max 1 maxAuctionsCount := by
  rcases Nat.eq_zero_or_pos amount with rfl | h
  · rw [lots_zero]
    exact Nat.zero_le _
  · rw [(@lots_spec amount target size maxAuctionsCount splited h).1]
    exact lotsCount_le_max

end Lots

/-- `swap_collateral_to_seusd`: collateral in auction, or collateral not in
auction, of at least the supply limit is swapped to SEUSD. -/
def swapCollateralToSeusd (currencyId : CurrencyId) (limit : Cdp.SwapLimit) (collateralInAuction : Bool) :
    Except DispatchError ((Nat × Nat) × State L) := do
  let supplyLimit := match limit with
    | .exactSupply supplyAmount _ => supplyAmount
    | .exactTarget maxSupplyAmount _ => maxSupplyAmount
  -- the two `ensure!`s, one for each kind of collateral, with the same error
  ensure (if collateralInAuction then
      decide (supplyLimit ≤ totalCollaterals T s currencyId ∧
        supplyLimit ≤ T.getTotalCollateralInAuction currencyId s.ledger)
    else decide (supplyLimit ≤ totalCollateralsNotInAuction T s currencyId)) (.module .collateralNotEnough)
  let (amounts, ledger) ← okOr (T.swap T.accountId currencyId T.getSeusdCurrencyId limit s.ledger) .external
  pure (amounts, { s with ledger })

/-- `remove_liquidity_for_lp_collateral`. -/
def removeLiquidityForLpCollateral (lpCurrencyId : CurrencyId) (amount : Nat) :
    Except DispatchError ((Nat × Nat) × State L) := do
  let (currencyId0, currencyId1) ← okOr lpCurrencyId.splitDexShareCurrencyId (.module .notDexShare)
  let (amounts, ledger) ← okOr (T.removeLiquidity T.accountId currencyId0 currencyId1 amount s.ledger) .external
  pure (amounts, { s with ledger })

/-! ## Calls -/

/-- The treasury's extrinsics, made by `UpdateOrigin`, and the `UssdTreasury`
functions other pallets call. -/
inductive Call (AccountId : Type) where
  | extractSurplusToTreasury (amount : Nat)
  | auctionCollateral (currencyId : CurrencyId) (amount target : Nat) (splited : Bool)
  | exchangeCollateralToSeusd (currencyId : CurrencyId) (swapLimit : Cdp.SwapLimit)
  | setExpectedCollateralAuctionSize (currencyId : CurrencyId) (size : Nat)
  | setDebitOffsetBuffer (amount : Nat)
  | onSystemDebit (amount : Nat)
  | onSystemSurplus (amount : Nat)
  | issueDebit (who : AccountId) (debit : Nat) (backed : Bool)
  | burnDebit (who : AccountId) (debit : Nat)
  | depositSurplus (who : AccountId) (surplus : Nat)
  | withdrawSurplus (dest : AccountId) (surplus : Nat)
  | depositCollateral (who : AccountId) (currencyId : CurrencyId) (amount : Nat)
  | withdrawCollateral (dest : AccountId) (currencyId : CurrencyId) (amount : Nat)
  | createCollateralAuctions (currencyId : CurrencyId) (amount target : Nat) (refundReceiver : AccountId)
      (splited : Bool)
  | swapCollateralToSeusd (currencyId : CurrencyId) (limit : Cdp.SwapLimit) (collateralInAuction : Bool)
  | removeLiquidityForLpCollateral (lpCurrencyId : CurrencyId) (amount : Nat)

/-- A call, with the state it leaves when it succeeds. -/
def dispatch : Call AccountId → Except DispatchError (State L)
  | .extractSurplusToTreasury amount => transferBalance T s T.getSeusdCurrencyId T.accountId T.treasuryAccount amount
  | .auctionCollateral currencyId amount target splited =>
      Prod.snd <$> createCollateralAuctions T s currencyId amount target T.accountId splited
  | .exchangeCollateralToSeusd currencyId swapLimit => Prod.snd <$> swapCollateralToSeusd T s currencyId swapLimit false
  | .setExpectedCollateralAuctionSize currencyId size =>
      pure { s with expectedCollateralAuctionSize := Function.update s.expectedCollateralAuctionSize currencyId size }
  | .setDebitOffsetBuffer amount => pure { s with debitOffsetBuffer := amount }
  | .onSystemDebit amount => onSystemDebit s amount
  | .onSystemSurplus amount => onSystemSurplus T s amount
  | .issueDebit who debit backed => issueDebit T s who debit backed
  | .burnDebit who debit => burnDebit T s who debit
  | .depositSurplus who surplus => depositSurplus T s who surplus
  | .withdrawSurplus dest surplus => withdrawSurplus T s dest surplus
  | .depositCollateral who currencyId amount => depositCollateral T s who currencyId amount
  | .withdrawCollateral dest currencyId amount => withdrawCollateral T s dest currencyId amount
  | .createCollateralAuctions currencyId amount target refundReceiver splited =>
      Prod.snd <$> createCollateralAuctions T s currencyId amount target refundReceiver splited
  | .swapCollateralToSeusd currencyId limit collateralInAuction =>
      Prod.snd <$> swapCollateralToSeusd T s currencyId limit collateralInAuction
  | .removeLiquidityForLpCollateral lpCurrencyId amount => Prod.snd <$> removeLiquidityForLpCollateral T s lpCurrencyId amount

/-- What happens to the treasury: a call, or the end of a block. -/
inductive Input (AccountId : Type) where
  | call (c : Call AccountId)
  | onFinalize

/-- The treasury from its genesis, an empty debit pool and no buffer; a failed
call is rolled back, and the end of a block fails only by a panic. -/
def system : Transition.System (State L) (Input AccountId) where
  init s := s.debitPool = 0 ∧ s.debitOffsetBuffer = 0
  step s
    | .call c => (dispatch T s c).toOption
    | .onFinalize => offsetSurplusAndDebit T s

/-- The debit a call takes on unbacked: what it hands to `on_system_debit`. -/
def Call.unbackedDebit : Call AccountId → Nat
  | .onSystemDebit amount => amount
  | .issueDebit _ debit false => debit
  | _ => 0

/-- The debit taken on unbacked and the SEUSD burnt against the debit along a
run from `s`; a failed call counts for nothing. -/
def debitFlow : State L → List (Input AccountId) → Nat × Nat
  | _, [] => (0, 0)
  | s, .call c :: inputs =>
      match dispatch T s c with
      | .ok s' => ((debitFlow s' inputs).1 + c.unbackedDebit, (debitFlow s' inputs).2)
      | .error _ => debitFlow s inputs
  | s, .onFinalize :: inputs =>
      ((debitFlow ((offsetSurplusAndDebit T s).getD s) inputs).1,
        (debitFlow ((offsetSurplusAndDebit T s).getD s) inputs).2 + offsetBurnt T s)

/-! ## What the calls do -/

section Spec

variable {T s} {s' : State L}

theorem createCollateralAuctions_eq_ok {currencyId : CurrencyId} {amount target : Nat} {refundReceiver : AccountId}
    {splited : Bool} {n : Nat} :
    createCollateralAuctions T s currencyId amount target refundReceiver splited = .ok (n, s') ↔
      amount ≤ totalCollateralsNotInAuction T s currencyId ∧
        n = (lots amount target (s.expectedCollateralAuctionSize currencyId) T.maxAuctionsCount splited).length ∧
        n < 2 ^ 32 ∧
        ∃ ledger, (lots amount target (s.expectedCollateralAuctionSize currencyId) T.maxAuctionsCount splited).foldlM
          (fun ledger lot => T.newCollateralAuction refundReceiver currencyId lot.1 lot.2 ledger) s.ledger = some ledger ∧
          s' = { s with ledger } := by
  unfold createCollateralAuctions
  constructor
  · intro h
    obtain ⟨u, hcheck, h⟩ := bind_eq_ok.mp h
    obtain ⟨ledger, hfold, h⟩ := bind_eq_ok.mp h
    obtain ⟨created, hcreated, h⟩ := bind_eq_ok.mp h
    cases pure_eq_ok.mp h
    have hcreated := okOr_eq_ok.mp hcreated
    split at hcreated
    · cases hcreated
      exact ⟨of_decide_eq_true (ensure_eq_ok.mp hcheck), rfl, ‹_›, ledger, okOr_eq_ok.mp hfold, rfl⟩
    · cases hcreated
  · rintro ⟨hle, rfl, hlt, ledger, hfold, rfl⟩
    simp only [ensure, decide_eq_true hle, if_true, hfold, okOr, if_pos hlt]
    rfl

theorem swapCollateralToSeusd_ledger {currencyId : CurrencyId} {limit : Cdp.SwapLimit} {collateralInAuction : Bool}
    {r : (Nat × Nat) × State L} (h : swapCollateralToSeusd T s currencyId limit collateralInAuction = .ok r) :
    ∃ ledger, r.2 = { s with ledger } := by
  unfold swapCollateralToSeusd at h
  obtain ⟨u, -, h⟩ := bind_eq_ok.mp h
  obtain ⟨⟨amounts, ledger⟩, -, h⟩ := bind_eq_ok.mp h
  exact ⟨ledger, by rw [← pure_eq_ok.mp h]⟩

theorem removeLiquidityForLpCollateral_ledger {lpCurrencyId : CurrencyId} {amount : Nat}
    {r : (Nat × Nat) × State L} (h : removeLiquidityForLpCollateral T s lpCurrencyId amount = .ok r) :
    ∃ ledger, r.2 = { s with ledger } := by
  unfold removeLiquidityForLpCollateral at h
  obtain ⟨⟨currencyId0, currencyId1⟩, -, h⟩ := bind_eq_ok.mp h
  obtain ⟨⟨amounts, ledger⟩, -, h⟩ := bind_eq_ok.mp h
  exact ⟨ledger, by rw [← pure_eq_ok.mp h]⟩

theorem dispatch_debitPool {c : Call AccountId} (h : dispatch T s c = .ok s') :
    s'.debitPool = s.debitPool + c.unbackedDebit := by
  cases c with
  | onSystemDebit amount => rw [(onSystemDebit_eq_ok h).2]; rfl
  | issueDebit who debit backed =>
      obtain ⟨ledger, -, rfl⟩ := issueDebit_eq_ok h
      cases backed <;> rfl
  | onSystemSurplus amount =>
      obtain ⟨ledger, -, rfl⟩ := issueDebit_eq_ok h
      rfl
  | burnDebit who debit =>
      obtain ⟨ledger, -, rfl⟩ := burnDebit_eq_ok.mp h
      rfl
  | extractSurplusToTreasury amount =>
      obtain ⟨ledger, -, rfl⟩ := transferBalance_eq_ok h
      rfl
  | depositSurplus who surplus =>
      obtain ⟨ledger, -, rfl⟩ := transferBalance_eq_ok h
      rfl
  | withdrawSurplus dest surplus =>
      obtain ⟨ledger, -, rfl⟩ := transferBalance_eq_ok h
      rfl
  | depositCollateral who currencyId amount =>
      obtain ⟨ledger, -, rfl⟩ := transferBalance_eq_ok h
      rfl
  | withdrawCollateral dest currencyId amount =>
      obtain ⟨ledger, -, rfl⟩ := transferBalance_eq_ok h
      rfl
  | auctionCollateral currencyId amount target splited =>
      obtain ⟨⟨n, s₁⟩, hs₁, rfl⟩ := map_eq_ok.mp h
      obtain ⟨-, -, -, ledger, -, rfl⟩ := createCollateralAuctions_eq_ok.mp hs₁
      rfl
  | createCollateralAuctions currencyId amount target refundReceiver splited =>
      obtain ⟨⟨n, s₁⟩, hs₁, rfl⟩ := map_eq_ok.mp h
      obtain ⟨-, -, -, ledger, -, rfl⟩ := createCollateralAuctions_eq_ok.mp hs₁
      rfl
  | exchangeCollateralToSeusd currencyId swapLimit =>
      obtain ⟨r, hr, rfl⟩ := map_eq_ok.mp h
      obtain ⟨ledger, hs'⟩ := swapCollateralToSeusd_ledger hr
      rw [hs']
      rfl
  | swapCollateralToSeusd currencyId limit collateralInAuction =>
      obtain ⟨r, hr, rfl⟩ := map_eq_ok.mp h
      obtain ⟨ledger, hs'⟩ := swapCollateralToSeusd_ledger hr
      rw [hs']
      rfl
  | removeLiquidityForLpCollateral lpCurrencyId amount =>
      obtain ⟨r, hr, rfl⟩ := map_eq_ok.mp h
      obtain ⟨ledger, hs'⟩ := removeLiquidityForLpCollateral_ledger hr
      rw [hs']
      rfl
  | setExpectedCollateralAuctionSize currencyId size =>
      cases pure_eq_ok.mp h
      rfl
  | setDebitOffsetBuffer amount =>
      cases pure_eq_ok.mp h
      rfl

theorem run_debitPool (inputs : List (Input AccountId)) :
    ((system T).run s inputs).debitPool + (debitFlow T s inputs).2 = s.debitPool + (debitFlow T s inputs).1 := by
  induction inputs generalizing s with
  | nil => rfl
  | cons i inputs ih =>
      cases i with
      | call c =>
          cases h : dispatch T s c with
          | error e =>
              have hstep : (system T).step s (.call c) = none := by
                simp only [system, h, Except.toOption]
              simp only [Transition.System.run, hstep, Option.getD_none, debitFlow, h]
              exact ih
          | ok s' =>
              have hstep : (system T).step s (.call c) = some s' := by
                simp only [system, h, Except.toOption]
              simp only [Transition.System.run, hstep, Option.getD_some, debitFlow, h]
              have hrest := ih (s := s')
              have hcall := dispatch_debitPool h
              omega
      | onFinalize =>
          obtain ⟨s', hs', -⟩ := offsetSurplusAndDebit_cases (T := T) (s := s)
          have hstep : (system T).step s .onFinalize = some s' := hs'
          simp only [Transition.System.run, hstep, Option.getD_some, debitFlow, hs']
          have hrest := ih (s := s')
          have hoffset := offsetSurplusAndDebit_debitPool hs'
          omega

end Spec

theorem treasury_debit_accounting :
    (∀ (T : Config AccountId L) (s s' : State L) (c : Call AccountId),
      dispatch T s c = .ok s' → s'.debitPool = s.debitPool + c.unbackedDebit) ∧
    (∀ (T : Config AccountId L) (s : State L) (inputs : List (Input AccountId)),
      ((system T).run s inputs).debitPool + (debitFlow T s inputs).2 = s.debitPool + (debitFlow T s inputs).1) ∧
    (∀ (T : Config AccountId L) (s : State L), ∃ s', offsetSurplusAndDebit T s = some s' ∧
      (s' = s ∨ ∃ ledger,
        T.withdraw T.getSeusdCurrencyId T.accountId (offsetAmount T s) s.ledger = some ledger ∧
          s' = { s with ledger, debitPool := s.debitPool - min (s.debitPool - s.debitOffsetBuffer) (surplusPool T s) })) ∧
    (∀ (T : Config AccountId L) (s s' : State L), T.WithdrawTakes → offsetSurplusAndDebit T s = some s' →
      s'.debitPool ≤ s'.debitOffsetBuffer ∨ surplusPool T s' = 0 ∨ s' = s) ∧
    (∀ (amount target size maxAuctionsCount : Nat) (splited : Bool), 0 < amount → amount < 2 ^ 128 →
      lotsCount amount size maxAuctionsCount splited =
          (if splited = false ∨ maxAuctionsCount = 0 ∨ size = 0 ∨ amount ≤ size then 1
            else min ((amount + size - 1) / size) maxAuctionsCount) ∧
        (lots amount target size maxAuctionsCount splited).length = lotsCount amount size maxAuctionsCount splited ∧
        ((lots amount target size maxAuctionsCount splited).map Prod.fst).sum = amount ∧
        ((lots amount target size maxAuctionsCount splited).map Prod.snd).sum = target ∧
        (lots amount target size maxAuctionsCount splited).dropLast =
          List.replicate (lotsCount amount size maxAuctionsCount splited - 1)
            (amount / lotsCount amount size maxAuctionsCount splited,
              target / lotsCount amount size maxAuctionsCount splited)) ∧
    (∀ (T : Config AccountId L) (s : State L) (currencyId : CurrencyId) (amount target : Nat)
      (refundReceiver : AccountId) (splited : Bool) (ledger : L),
      T.maxAuctionsCount < 2 ^ 32 → amount ≤ totalCollateralsNotInAuction T s currencyId →
      (lots amount target (s.expectedCollateralAuctionSize currencyId) T.maxAuctionsCount splited).foldlM
          (fun ledger lot => T.newCollateralAuction refundReceiver currencyId lot.1 lot.2 ledger) s.ledger = some ledger →
      createCollateralAuctions T s currencyId amount target refundReceiver splited =
        .ok ((lots amount target (s.expectedCollateralAuctionSize currencyId) T.maxAuctionsCount splited).length,
          { s with ledger })) := by
  refine ⟨fun T s s' c h => dispatch_debitPool h, fun T s inputs => run_debitPool inputs, ?_,
    fun T s s' hT h => offsetSurplusAndDebit_settles hT h, ?_, ?_⟩
  · intro T s
    obtain ⟨s', hs', hcases⟩ := offsetSurplusAndDebit_cases (T := T) (s := s)
    rcases hcases with ⟨-, hsame⟩ | ⟨-, -, hsame⟩ | ⟨-, ledger, hsome, hburnt⟩
    · exact ⟨s', hs', .inl hsame⟩
    · exact ⟨s', hs', .inl hsame⟩
    · exact ⟨s', hs', .inr ⟨ledger, hsome, hburnt⟩⟩
  · intro amount target size maxAuctionsCount splited h hamount
    obtain ⟨hlength, hfst, hsnd, hdrop⟩ := @lots_spec amount target size maxAuctionsCount splited h
    refine ⟨?_, hlength, hfst, hsnd, hdrop⟩
    split_ifs with hone
    · exact lotsCount_of_not_split hone
    · exact lotsCount_of_split hone hamount
  · intro T s currencyId amount target refundReceiver splited ledger hmax hle hfold
    have hlength : (lots amount target (s.expectedCollateralAuctionSize currencyId) T.maxAuctionsCount splited).length
        < 2 ^ 32 :=
      lt_of_le_of_lt lots_length_le_max (max_lt (by norm_num) hmax)
    exact createCollateralAuctions_eq_ok.mpr ⟨hle, rfl, hlength, ledger, hfold, rfl⟩

namespace Reference

/-- A runtime whose auctions manager records each auction it is asked for,
and whose treasury account holds 1000 of every currency. -/
def config : Config Nat (List (CurrencyId × Nat × Nat)) where
  getSeusdCurrencyId := .token .SEUSD
  accountId := 0
  treasuryAccount := 1
  maxAuctionsCount := 3
  freeBalance _ _ _ := 1000
  deposit _ _ _ ledger := some ledger
  withdraw _ _ _ ledger := some ledger
  transfer _ _ _ _ ledger := some ledger
  getTotalCollateralInAuction _ _ := 0
  newCollateralAuction _ currencyId amount target ledger := some (ledger ++ [(currencyId, amount, target)])
  swap _ _ _ _ _ := none
  removeLiquidity _ _ _ _ _ := none

/-- The treasury at genesis, with lots of 4 of every collateral. -/
def genesis : State (List (CurrencyId × Nat × Nat)) where
  expectedCollateralAuctionSize _ := 4
  debitPool := 0
  debitOffsetBuffer := 0
  ledger := []

theorem ten_split_in_three :
    ((lots 10 7 4 3 true).map Prod.fst).sum = 10 ∧ ((lots 10 7 4 3 true).map Prod.snd).sum = 7 :=
  have h := (@treasury_debit_accounting Nat Unit).2.2.2.2.1 10 7 4 3 true (by decide) (by decide)
  ⟨h.2.2.1, h.2.2.2.1⟩

/-- Collateral of zero makes no auction, even unsplit, and its target is not
auctioned at all. -/
theorem zero_collateral_no_auction :
    createCollateralAuctions config genesis (.token .SEU) 0 100 0 false = .ok (0, genesis) := rfl

end Reference

end Setheum.Treasury
