import Mathlib
import Setheum.Swap.State

/-!
# A reference ledger

A `MultiCurrency` over a table of free balances, moving them as
`orml_tokens` does when no existential deposit, lock or reserve is in play: a
transfer of nothing or to oneself changes nothing, and otherwise fails unless
the sender holds the amount. `Incentives` keeps staked shares in an account
of its own. The ledger meets what the pallet relies on (`Config.Lawful`), so
those assumptions can be met; a deployment with four accounts runs it.
-/

namespace Setheum.Swap.Reference

variable {AccountId : Type} [DecidableEq AccountId]

/-- Free balances, by currency and account. -/
abbrev Balances (AccountId : Type) := CurrencyId → AccountId → Nat

/-- The table with `who`'s balance of `c` written. -/
def setBalance (l : Balances AccountId) (c : CurrencyId) (who : AccountId) (v : Nat) :
    Balances AccountId :=
  Function.update l c (Function.update (l c) who v)

@[simp] theorem setBalance_apply (l : Balances AccountId) (c c' : CurrencyId) (who a : AccountId)
    (v : Nat) : setBalance l c who v c' a = if c' = c ∧ a = who then v else l c' a := by
  by_cases hc : c' = c
  · subst hc
    by_cases ha : a = who
    · subst ha
      simp [setBalance]
    · simp [setBalance, ha]
  · simp [setBalance, hc]

def transfer (c : CurrencyId) (src dst : AccountId) (amount : Nat) (l : Balances AccountId) :
    Option (Balances AccountId) :=
  if amount = 0 ∨ src = dst then some l
  else if amount ≤ l c src then
    let l := setBalance l c src (l c src - amount)
    some (setBalance l c dst (l c dst + amount))
  else none

def deposit (c : CurrencyId) (who : AccountId) (amount : Nat) (l : Balances AccountId) :
    Option (Balances AccountId) :=
  some (setBalance l c who (l c who + amount))

def withdraw (c : CurrencyId) (who : AccountId) (amount : Nat) (l : Balances AccountId) :
    Option (Balances AccountId) :=
  if amount ≤ l c who then some (setBalance l c who (l c who - amount)) else none

theorem transfer_balance {c : CurrencyId} {src dst : AccountId} {amount : Nat}
    {l l' : Balances AccountId} (h : transfer c src dst amount l = some l') (c' : CurrencyId)
    (a : AccountId) :
    l' c' a + (if c' = c ∧ a = src ∧ src ≠ dst then amount else 0) =
      l c' a + (if c' = c ∧ a = dst ∧ src ≠ dst then amount else 0) := by
  unfold transfer at h
  split_ifs at h with h0 h1
  · -- nothing moves: a transfer of nothing, or to oneself
    cases h
    rcases h0 with rfl | rfl <;> simp
  · cases h
    push Not at h0
    obtain ⟨-, hne⟩ := h0
    simp only [setBalance_apply]
    by_cases hc : c' = c <;> by_cases hs : a = src <;> by_cases hd : a = dst <;> simp_all

theorem deposit_balance {c : CurrencyId} {who : AccountId} {amount : Nat}
    {l l' : Balances AccountId} (h : deposit c who amount l = some l') (c' : CurrencyId)
    (a : AccountId) : l' c' a = l c' a + (if c' = c ∧ a = who then amount else 0) := by
  cases h
  simp only [setBalance_apply]
  split_ifs with hca
  · obtain ⟨rfl, rfl⟩ := hca
    rfl
  · rfl

theorem withdraw_balance {c : CurrencyId} {who : AccountId} {amount : Nat}
    {l l' : Balances AccountId} (h : withdraw c who amount l = some l') (c' : CurrencyId)
    (a : AccountId) : l' c' a + (if c' = c ∧ a = who then amount else 0) = l c' a := by
  unfold withdraw at h
  split_ifs at h with hle
  cases h
  simp only [setBalance_apply]
  split_ifs with hca
  · obtain ⟨rfl, rfl⟩ := hca
    omega
  · rfl

theorem transfer_apply_of_ne {c : CurrencyId} {src dst : AccountId} {amount : Nat}
    {l l' : Balances AccountId} (h : transfer c src dst amount l = some l') {a : AccountId}
    (hs : a ≠ src) (hd : a ≠ dst) (c' : CurrencyId) : l' c' a = l c' a := by
  simpa [hs, hd] using transfer_balance h c' a

variable [Fintype AccountId]

def multiCurrency : MultiCurrency AccountId (Balances AccountId) where
  freeBalance l c who := l c who
  totalIssuance l c := ∑ who, l c who
  transfer := transfer
  deposit := deposit
  withdraw := withdraw

/-- Staked shares are kept by `incentivesAccount`. -/
def incentives (incentivesAccount : AccountId) : Incentives AccountId (Balances AccountId) where
  doDepositDexShare who c amount l := transfer c who incentivesAccount amount l
  doWithdrawDexShare who c amount l := transfer c incentivesAccount who amount l

/-- The pallet's `Config` over the reference ledger, with the runtime's
`GetExchangeFee` and `TradingPathLimit`; only the root origin lists pairs. -/
def config (palletAccount incentivesAccount : AccountId) (extendedProvisioningBlocks : Nat) :
    Config AccountId (Balances AccountId) where
  currency := multiCurrency
  incentives := incentives incentivesAccount
  getExchangeFee := (3, 1000)
  tradingPathLimit := 4
  palletAccount := palletAccount
  extendedProvisioningBlocks := extendedProvisioningBlocks
  erc20InfoName _ := none
  listingOrigin origin := decide (origin = .root)

theorem config_lawful {palletAccount incentivesAccount : AccountId}
    (h : palletAccount ≠ incentivesAccount) (n : Nat) :
    (config palletAccount incentivesAccount n).Lawful where
  transfer_balance ht := transfer_balance ht
  deposit_balance hd := deposit_balance hd
  withdraw_balance hw := withdraw_balance hw
  stake_keeps_pallet hwho hs c' := transfer_apply_of_ne hs (Ne.symm hwho) h c'
  unstake_keeps_pallet hwho hs c' := transfer_apply_of_ne hs h (Ne.symm hwho) c'

/-! ## A deployment -/

/-- Two users, the DEX account and the incentives account. -/
inductive Account where
  | alice
  | bob
  | dex
  | incentives
  deriving DecidableEq, Repr

instance : Fintype Account :=
  ⟨{.alice, .bob, .dex, .incentives}, by intro x; cases x <;> simp⟩

/-- The reference deployment: provisioning may be aborted two blocks after
its `not_before`. -/
def testConfig : Config Account (Balances Account) := config .dex .incentives 2

theorem testConfig_lawful : testConfig.Lawful := config_lawful (by decide) 2

end Setheum.Swap.Reference
