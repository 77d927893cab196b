import Setheum.Tokens.Dust

/-!
# Locks of a reaped account

A lock binds through `frozen`, which `update_locks` writes into the account
next to the list it stores in `Locks`. `try_mutate_account` deletes the whole
`AccountData`, `frozen` included, when an account's total falls to zero, and
leaves `Locks` alone. `slash` ignores locks, so it can empty a locked account:
the account is reaped with its `frozen`, and a later deposit creates a fresh
account whose `frozen` is zero under the same list of locks, which then binds
nothing.
-/

namespace Setheum.Tokens

open Result Transition

variable {AccountId CurrencyId LockId : Type} [DecidableEq AccountId] [DecidableEq CurrencyId]
variable (T : Config AccountId CurrencyId) (dust : DustHook AccountId CurrencyId LockId)

theorem setFreeBalance_zero {c : CurrencyId} {who : AccountId} {s : State AccountId CurrencyId LockId}
    (hed : 0 < T.existentialDeposits c) (hres : (s.account who c).reserved = 0) :
    setFreeBalance T dust c who 0 s = s.setAccount who c none := by
  have hsettle : settle T who c { s.account who c with free := 0 } = (none, none) := by
    simp [settle, AccountData.total, Balance.saturatingAdd, hres, hed]
  simp only [setFreeBalance, mutateAccount]
  rw [storeAccount_of_settle T dust s hsettle]

/-- A slash of at least the free balance of an account without reserve takes
the whole free balance, reaps the account, and lowers `TotalIssuance` by the
free balance. -/
theorem slash_of_free_le {c : CurrencyId} {who : AccountId} {amount : Nat}
    {s : State AccountId CurrencyId LockId} (hed : 0 < T.existentialDeposits c)
    (hfree : 0 < (s.account who c).free) (hres : (s.account who c).reserved = 0)
    (hall : (s.account who c).free ≤ amount) :
    (slash T dust c who amount s).2 = (s.setAccount who c none).setTotalIssuance c
      (s.totalIssuance c - (s.account who c).free) := by
  have hamount : amount ≠ 0 := by omega
  have hmin : min (s.account who c).free amount = (s.account who c).free := min_eq_left hall
  simp only [slash, hamount, if_false, hmin, hres, Nat.zero_min, Nat.sub_self, Nat.ne_of_gt hfree,
    setFreeBalance_zero T dust hed hres, if_true]
  rw [State.setAccount_totalIssuance, Nat.sub_sub_self hall]

theorem doDeposit_ok {c : CurrencyId} {who : AccountId} {amount r : Nat}
    {s s' : State AccountId CurrencyId LockId} (hne : amount ≠ 0)
    (h : doDeposit T dust c who amount false true s = .ok (r, s')) :
    ∃ t, Balance.checkedAdd (s.totalIssuance c) amount = some t ∧
      (decide (T.existentialDeposits c ≤ amount) || (s.accounts who c).isSome ||
        T.dustRemovalWhitelist who) = true ∧
      s' = (storeAccount T dust who c
        { s.account who c with free := Balance.saturatingAdd (s.account who c).free amount }
        (s.setTotalIssuance c t)).2 := by
  unfold doDeposit at h
  rw [if_neg hne] at h
  simp only [tryMutateAccount, bind_eq_ok, pure_eq_ok, okOr_eq_ok, ensure_eq_ok,
    Bool.false_eq_true, if_false, if_true] at h
  obtain ⟨_, ⟨_, ⟨⟨⟩, hed, t, ht, rfl⟩, rfl⟩, h⟩ := h
  obtain ⟨-, rfl⟩ := Prod.mk.inj h
  exact ⟨t, ht, hed, rfl⟩

variable [DecidableEq LockId]

/-- Slashing a locked account without reserve down to nothing and then
depositing into it leaves the locks on record over a fresh account whose
`frozen` is zero: the locks no longer bind. -/
theorem lock_outlives_reaped_account {c : CurrencyId} {who : AccountId} {amount x : Nat}
    {s s₁ s₂ : State AccountId CurrencyId LockId} (hed : 0 < T.existentialDeposits c)
    (hfree : 0 < (s.account who c).free) (hres : (s.account who c).reserved = 0)
    (hall : (s.account who c).free ≤ amount)
    (h₁ : dispatch T (onDust T 1) s (.slash c who amount) = .ok s₁)
    (hx : 0 < x) (hx' : x < 2 ^ 128)
    (h₂ : dispatch T (onDust T 1) s₁ (.deposit c who x) = .ok s₂) :
    s₂.locks who c = s.locks who c ∧ s₂.account who c = ⟨x, 0, 0⟩ := by
  simp only [dispatch, pure_eq_ok] at h₁
  rw [slash_of_free_le T _ hed hfree hres hall] at h₁
  subst h₁
  simp only [dispatch, bind_eq_ok, pure_eq_ok] at h₂
  obtain ⟨⟨r, s'⟩, hd, rfl⟩ := h₂
  obtain ⟨t, -, hadmit, rfl⟩ := doDeposit_ok T _ (Nat.ne_of_gt hx) hd
  have hnone : ((s.setAccount who c none).setTotalIssuance c
      (s.totalIssuance c - (s.account who c).free)).accounts who c = none := by simp
  have hnew : { ((s.setAccount who c none).setTotalIssuance c
      (s.totalIssuance c - (s.account who c).free)).account who c with
        free := Balance.saturatingAdd (((s.setAccount who c none).setTotalIssuance c
          (s.totalIssuance c - (s.account who c).free)).account who c).free x } = ⟨x, 0, 0⟩ := by
    simp [State.account, default, Balance.saturatingAdd_eq (show 0 + x < 2 ^ 128 by omega)]
  have htotal : (⟨x, 0, 0⟩ : AccountData).total = x := Balance.saturatingAdd_eq (by omega)
  rw [hnone] at hadmit
  have hsettle : settle T who c ⟨x, 0, 0⟩ = (some ⟨x, 0, 0⟩, none) :=
    settle_of_admitted T (by rw [htotal]; simpa using hadmit) (by rw [htotal]; omega)
  rw [hnew, storeAccount_of_settle T _ _ hsettle]
  exact ⟨by simp, by simp [State.account_setAccount]⟩

namespace Reference

/-- Alice's 100 SEU under a lock of 100. -/
def locked : Storage := (system testConfig).run genesisState [.setLock 1 (.token .SEU) .alice 100]

/-- `locked` after a slash of Alice's 100 SEU. -/
def slashed : Storage := (system testConfig).run locked [.slash (.token .SEU) .alice 100]

/-- `slashed` after a deposit of 50 SEU to Alice. -/
def redeposited : Storage := (system testConfig).run slashed [.deposit (.token .SEU) .alice 50]

/-- Alice's 100 SEU are locked by 100; a slash of 100 reaps her account and a
deposit of 50 recreates it with nothing frozen, under the same lock, so she
can then transfer 40 SEU to Bob and keep only 10 under a lock of 100. -/
theorem lock_outlives_reaped_account_reference :
    Reachable (system testConfig) locked ∧
      locked.locks .alice (.token .SEU) = [⟨1, 100⟩] ∧
      (locked.account .alice (.token .SEU)).frozen = 100 ∧
      redeposited.locks .alice (.token .SEU) = [⟨1, 100⟩] ∧
      redeposited.account .alice (.token .SEU) = ⟨50, 0, 0⟩ ∧
      ((dispatch testConfig (onDust testConfig 1) redeposited
        (.transfer .alice .bob (.token .SEU) 40)).toOption.map
          fun s => (s.account .alice (.token .SEU)).free) = some 10 := by
  have h₁ : dispatch testConfig (onDust testConfig 1) locked (.slash (.token .SEU) .alice 100) =
      .ok slashed := rfl
  have h₂ : dispatch testConfig (onDust testConfig 1) slashed (.deposit (.token .SEU) .alice 50) =
      .ok redeposited := by
    obtain ⟨t, ht⟩ := Option.isSome_iff_exists.1 (by decide : (dispatch testConfig
      (onDust testConfig 1) slashed (.deposit (.token .SEU) .alice 50)).toOption.isSome)
    have hr : redeposited = t := by simp [redeposited, System.run, system, ht]
    rw [hr]
    exact toOption_eq_some.1 ht
  obtain ⟨hlocks, hacc⟩ := lock_outlives_reaped_account testConfig (by decide) (by decide)
    (by decide) (by decide) h₁ (by decide) (by decide) h₂
  have hlocked : locked.locks .alice (.token .SEU) = [⟨1, 100⟩] := by decide
  exact ⟨(Reachable.init genesisState_init).run _, hlocked, by decide, hlocks.trans hlocked,
    hacc, by decide⟩

end Reference

end Setheum.Tokens
