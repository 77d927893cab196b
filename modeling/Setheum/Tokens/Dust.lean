import Setheum.Tokens.Reference
import Setheum.Lib.FinSum

/-!
# Dust sent to the dust account

`TotalIssuance` is meant to equal the free and reserved balances of all
accounts together (`Conserved`). A transfer writes the sender first: when the
sender is left with dust, `try_mutate_account` hands it to `TransferDust`,
whose transfer credits the dust account. When the transfer's recipient is the
dust account itself, its closure still holds the recipient's account as read
before the sender's write, and writes it back, over the dust just credited:
the dust leaves the sender and reaches nobody, while `TotalIssuance` stays.

The hook's own transfer, of an account's whole total, has no dust to report,
so `system` loses nothing by running the hook one level deep.
-/

namespace Setheum.Tokens

open Result Transition

variable {AccountId CurrencyId LockId : Type} [DecidableEq AccountId] [DecidableEq CurrencyId]

namespace State

variable (s : State AccountId CurrencyId LockId)

@[simp] theorem setAccount_setAccount_self (who : AccountId) (c : CurrencyId) (a a' : Option AccountData) :
    (s.setAccount who c a).setAccount who c a' = s.setAccount who c a' := by
  cases s
  simp only [setAccount, State.mk.injEq, and_true]
  funext w d
  split_ifs <;> rfl

end State

variable (T : Config AccountId CurrencyId) (dust : DustHook AccountId CurrencyId LockId)

/-! ## What `try_mutate_account` stores -/

omit [DecidableEq AccountId] [DecidableEq CurrencyId] in
theorem settle_of_admitted {who : AccountId} {c : CurrencyId} {account : AccountData}
    (h : (decide (T.existentialDeposits c ≤ account.total) || T.dustRemovalWhitelist who) = true)
    (h0 : account.total ≠ 0) : settle T who c account = (some account, none) := by
  unfold settle
  by_cases hlt : account.total < T.existentialDeposits c
  · have hw : T.dustRemovalWhitelist who = true := by simpa [Nat.not_le.2 hlt] using h
    simp [hlt, h0, hw]
  · simp [hlt]

omit [DecidableEq AccountId] [DecidableEq CurrencyId] in
theorem settle_of_dust {who : AccountId} {c : CurrencyId} {account : AccountData}
    (h0 : account.total ≠ 0) (hlt : account.total < T.existentialDeposits c)
    (hw : T.dustRemovalWhitelist who = false) :
    settle T who c account = (some account, some account.total) := by
  simp [settle, hlt, h0, hw]

omit [DecidableEq AccountId] [DecidableEq CurrencyId] in
theorem total_eq_zero_of_settle {who : AccountId} {c : CurrencyId} {account : AccountData}
    (h : (settle T who c account).1 = none) : account.total = 0 := by
  unfold settle at h
  split_ifs at h with h1 h2
  exact h2

omit [DecidableEq AccountId] [DecidableEq CurrencyId] in
theorem settle_eq_dust {who : AccountId} {c : CurrencyId} {account : AccountData}
    {stored : Option AccountData} {d : Nat} (h : settle T who c account = (stored, some d)) :
    stored = some account ∧ d = account.total := by
  unfold settle at h
  split_ifs at h <;> simp_all

theorem storeAccount_of_settle {who : AccountId} {c : CurrencyId} {account : AccountData}
    {stored : Option AccountData} (s : State AccountId CurrencyId LockId)
    (h : settle T who c account = (stored, none)) :
    storeAccount T dust who c account s = (none, s.setAccount who c stored) := by
  simp [storeAccount, h]

theorem storeAccount_of_settle_dust {who : AccountId} {c : CurrencyId} {account : AccountData}
    {stored : Option AccountData} {d : Nat} (s : State AccountId CurrencyId LockId)
    (h : settle T who c account = (stored, some d)) :
    storeAccount T dust who c account s = (some d, dust who c d (s.setAccount who c stored)) := by
  simp [storeAccount, h]

theorem storeAccount_onDust_zero (who : AccountId) (c : CurrencyId) (account : AccountData)
    (s : State AccountId CurrencyId LockId) :
    (storeAccount T (onDust T 0) who c account s).2 = s.setAccount who c (settle T who c account).1 := by
  unfold storeAccount
  generalize settle T who c account = p
  obtain ⟨stored, _ | d⟩ := p <;> rfl

theorem onDust_transferDust {D : AccountId} (hT : T.onDust = .transferDust D) (depth : Nat)
    (who : AccountId) (c : CurrencyId) (d : Nat) (s : State AccountId CurrencyId LockId) :
    onDust T (depth + 1) who c d s =
      ((doTransfer T (onDust T depth) c who D d .allowDeath s).toOption).getD s := by
  simp [onDust, hT]

/-! ## `do_transfer` -/

theorem doTransfer_ok {c : CurrencyId} {src dst : AccountId} {amount : Nat}
    {req : ExistenceRequirement} {s s' : State AccountId CurrencyId LockId} (hne : amount ≠ 0)
    (hsd : src ≠ dst) (h : doTransfer T dust c src dst amount req s = .ok s') :
    ∃ free toFree, Balance.checkedSub (s.account src c).free amount = some free ∧
      Balance.checkedAdd (s.account dst c).free amount = some toFree ∧
      (decide (T.existentialDeposits c ≤ { s.account dst c with free := toFree }.total) ||
        T.dustRemovalWhitelist dst) = true ∧
      ensureCanWithdraw s c src amount = .ok () ∧
      s' = (storeAccount T dust dst c { s.account dst c with free := toFree }
        (storeAccount T dust src c { s.account src c with free } s).2).2 := by
  unfold doTransfer at h
  rw [if_neg (by simp [hne, hsd])] at h
  simp only [tryMutateAccount, bind_eq_ok, pure_eq_ok, okOr_eq_ok, ensure_eq_ok] at h
  obtain ⟨_, ⟨_, ⟨_, ⟨_, ⟨free, hfree, toFree, hto, -, hed, ⟨⟩, hcw, -, -, rfl⟩, rfl⟩, rfl⟩, rfl⟩, rfl⟩ := h
  exact ⟨free, toFree, hfree, hto, hed, hcw, rfl⟩

theorem doTransfer_ok_totalIssuance {c : CurrencyId} {src dst : AccountId} {amount : Nat}
    {s s' : State AccountId CurrencyId LockId} (hne : amount ≠ 0) (hsd : src ≠ dst)
    (h : doTransfer T (onDust T 0) c src dst amount .allowDeath s = .ok s') :
    s'.totalIssuance = s.totalIssuance := by
  obtain ⟨free, toFree, -, -, -, -, rfl⟩ := doTransfer_ok T (onDust T 0) hne hsd h
  simp [storeAccount_onDust_zero]

/-! ## The depth of the hook

`system` runs every call over `onDust T 1`, whose own transfer or withdrawal
runs over the hook that does nothing. That cut is exact: the hook is handed
an account's whole total, and taking it out of the free balance leaves the
account empty and a transfer's recipient admitted, so neither write reports
dust and the hook beneath is never called. -/

omit [DecidableEq AccountId] [DecidableEq CurrencyId] in
theorem settle_snd_of_total_eq_zero {who : AccountId} {c : CurrencyId} {account : AccountData}
    (h : account.total = 0) : (settle T who c account).2 = none := by
  unfold settle
  split_ifs <;> simp_all

omit [DecidableEq AccountId] [DecidableEq CurrencyId] in
theorem lt_of_settle_dust {who : AccountId} {c : CurrencyId} {account : AccountData}
    {stored : Option AccountData} {d : Nat} (h : settle T who c account = (stored, some d)) :
    account.total < T.existentialDeposits c := by
  by_contra hge
  rw [settle, if_neg hge] at h
  cases h

theorem AccountData.total_withdraw_total {a : AccountData} (hfit : a.total < 2 ^ 128 - 1)
    (hle : a.total ≤ a.free) : ({ a with free := a.free - a.total } : AccountData).total = 0 := by
  simp only [AccountData.total, Balance.saturatingAdd] at *
  omega

theorem tryMutateAccount_congr {R : Type} {dust dust' : DustHook AccountId CurrencyId LockId}
    {who : AccountId} {c : CurrencyId}
    {f f' : AccountData → Bool → State AccountId CurrencyId LockId →
      Except DispatchError (R × AccountData × State AccountId CurrencyId LockId)}
    {s : State AccountId CurrencyId LockId}
    (hf : f (s.account who c) (s.accounts who c).isSome s = f' (s.account who c) (s.accounts who c).isSome s)
    (h : ∀ r a s', f (s.account who c) (s.accounts who c).isSome s = .ok (r, a, s') →
      (settle T who c a).2 = none) :
    tryMutateAccount T dust who c f s = tryMutateAccount T dust' who c f' s := by
  unfold tryMutateAccount
  rw [← hf]
  rcases hres : f (s.account who c) (s.accounts who c).isSome s with e | ⟨r, a, s'⟩
  · rfl
  · have hn := h r a s' hres
    rcases hs : settle T who c a with ⟨stored, _ | d⟩
    · simp only [ok_bind, storeAccount, hs]
    · rw [hs] at hn
      cases hn

theorem doWithdraw_whole_total (dust dust' : DustHook AccountId CurrencyId LockId) {c : CurrencyId}
    {who : AccountId} {req : ExistenceRequirement} {changeTotalIssuance : Bool}
    {s : State AccountId CurrencyId LockId} (hfit : (s.account who c).total < 2 ^ 128 - 1) :
    doWithdraw T dust c who (s.account who c).total req changeTotalIssuance s =
      doWithdraw T dust' c who (s.account who c).total req changeTotalIssuance s := by
  unfold doWithdraw
  by_cases h0 : (s.account who c).total = 0
  · rw [if_pos h0, if_pos h0]
  rw [if_neg h0, if_neg h0]
  congr 1
  refine tryMutateAccount_congr T rfl fun r a s' h => ?_
  simp only [bind_eq_ok, ensure_eq_ok, pure_eq_ok, Prod.mk.injEq] at h
  obtain ⟨_, hcw, -, -, -, rfl, -⟩ := h
  rw [ensureCanWithdraw, if_neg h0] at hcw
  simp only [bind_eq_ok, okOr_eq_ok, Balance.checkedSub_eq_some] at hcw
  obtain ⟨_, ⟨hle, -⟩, -⟩ := hcw
  exact settle_snd_of_total_eq_zero T (AccountData.total_withdraw_total hfit hle)

theorem doTransfer_whole_total (dust dust' : DustHook AccountId CurrencyId LockId) {c : CurrencyId}
    {src dst : AccountId} {req : ExistenceRequirement} {s : State AccountId CurrencyId LockId}
    (hfit : (s.account src c).total < 2 ^ 128 - 1) :
    doTransfer T dust c src dst (s.account src c).total req s =
      doTransfer T dust' c src dst (s.account src c).total req s := by
  unfold doTransfer
  split_ifs with h0
  · rfl
  congr 1
  refine tryMutateAccount_congr T ?_ fun r a s' h => ?_
  · congr 1
    refine tryMutateAccount_congr T rfl fun r a s' h => ?_
    simp only [bind_eq_ok, okOr_eq_ok, ensure_eq_ok, pure_eq_ok, Balance.checkedSub_eq_some, Prod.mk.injEq] at h
    obtain ⟨_, ⟨hle, rfl⟩, -, -, -, -, -, -, -, -, -, rfl, -⟩ := h
    exact settle_snd_of_total_eq_zero T (AccountData.total_withdraw_total hfit hle)
  · simp only [tryMutateAccount, bind_eq_ok, okOr_eq_ok, ensure_eq_ok, pure_eq_ok, Prod.mk.injEq,
      Balance.checkedAdd_eq_some] at h
    obtain ⟨_, ⟨_, ⟨_, -, toFree, ⟨-, hto⟩, -, hed, -, -, -, -, rfl⟩, rfl⟩, -, rfl, -⟩ := h
    have hpos : (s.account src c).total ≠ 0 := fun h => h0 (.inl h)
    have htotal : ({ s.account dst c with free := toFree } : AccountData).total ≠ 0 := by
      simp only [AccountData.total, Balance.saturatingAdd] at hto hpos ⊢
      omega
    rw [settle_of_admitted T hed htotal]

theorem onDust_succ_eq_one (depth : Nat) {who : AccountId} {c : CurrencyId}
    {s : State AccountId CurrencyId LockId} (hdust : (s.account who c).total < T.existentialDeposits c)
    (hed : T.existentialDeposits c < 2 ^ 128) :
    onDust T (depth + 1) who c (s.account who c).total s = onDust T 1 who c (s.account who c).total s := by
  have hfit : (s.account who c).total < 2 ^ 128 - 1 := by omega
  rcases hT : T.onDust with _ | D
  · simp only [onDust, hT, doWithdraw_whole_total T (onDust T depth) (onDust T 0) hfit]
  · simp only [onDust, hT, doTransfer_whole_total T (onDust T depth) (onDust T 0) hfit]

/-- With `u128` existential deposits, every write of an account stores the
same over the hook at any depth above zero as over `onDust T 1`. -/
theorem storeAccount_onDust_succ (hed : ∀ c, T.existentialDeposits c < 2 ^ 128) (depth : Nat)
    (who : AccountId) (c : CurrencyId) (account : AccountData) (s : State AccountId CurrencyId LockId) :
    storeAccount T (onDust T (depth + 1)) who c account s = storeAccount T (onDust T 1) who c account s := by
  rcases hs : settle T who c account with ⟨stored, _ | d⟩
  · rw [storeAccount_of_settle T _ s hs, storeAccount_of_settle T _ s hs]
  · have hdust := lt_of_settle_dust T hs
    obtain ⟨rfl, rfl⟩ := settle_eq_dust T hs
    have hacc : (s.setAccount who c (some account)).account who c = account := by
      simp [State.account_setAccount]
    have h := onDust_succ_eq_one T depth (s := s.setAccount who c (some account)) (hacc ▸ hdust) (hed c)
    rw [hacc] at h
    rw [storeAccount_of_settle_dust T _ s hs, storeAccount_of_settle_dust T _ s hs, h]

namespace Reference

/-- Alice's 5 SEU of dust, stored over the hook three levels deep, are
stored as over one. -/
theorem dust_stored_at_depth_three :
    (∀ c, testConfig.existentialDeposits c < 2 ^ 128) ∧
      storeAccount testConfig (onDust testConfig 3) .alice (.token .SEU) ⟨5, 0, 0⟩ genesisState =
        storeAccount testConfig (onDust testConfig 1) .alice (.token .SEU) ⟨5, 0, 0⟩ genesisState :=
  ⟨fun _ => by norm_num [testConfig], storeAccount_onDust_succ testConfig (fun _ => by norm_num [testConfig]) 2 _ _ _ _⟩

end Reference

/-! ## Issuance -/

variable [Fintype AccountId]

/-- The free and reserved balances of all accounts in a currency, added up. -/
def issued (s : State AccountId CurrencyId LockId) (c : CurrencyId) : Nat :=
  ∑ who, ((s.account who c).free + (s.account who c).reserved)

/-- `TotalIssuance` is what the accounts hold, in every currency. -/
def Conserved (s : State AccountId CurrencyId LockId) : Prop :=
  ∀ c, s.totalIssuance c = issued s c

theorem issued_setAccount (s : State AccountId CurrencyId LockId) (who : AccountId) (c : CurrencyId)
    (a : Option AccountData) :
    issued (s.setAccount who c a) c + ((s.account who c).free + (s.account who c).reserved) =
      issued s c + ((a.getD default).free + (a.getD default).reserved) := by
  unfold issued
  refine FinSum.sum_add_eq_of_eq_off _ (fun w => (s.account w c).free + (s.account w c).reserved)
    who (fun w hw => ?_) |>.trans ?_
  · simp [State.account_setAccount, hw]
  · simp [State.account_setAccount]

variable [DecidableEq LockId]

omit [Fintype AccountId] [DecidableEq LockId] in
/-- The `TransferDust` hook given an account's whole total either fails and
leaves everything as it was, or moves the total to the dust account. When it
reaps the account, the account held no reserve, and nothing but the two
accounts changed. -/
theorem onDust_reaps {D : AccountId} (hT : T.onDust = .transferDust D) {who : AccountId}
    {c : CurrencyId} (hwho : who ≠ D) {s : State AccountId CurrencyId LockId}
    (hd : (s.account who c).total ≠ 0)
    (hreaped : (onDust T 1 who c (s.account who c).total s).accounts who c = none) :
    (s.account who c).reserved = 0 ∧
      ∃ x, onDust T 1 who c (s.account who c).total s = (s.setAccount who c none).setAccount D c x := by
  rw [onDust_transferDust T hT] at hreaped ⊢
  cases hn : doTransfer T (onDust T 0) c who D (s.account who c).total .allowDeath s with
  | error e =>
      simp only [hn, Except.toOption, Option.getD_none] at hreaped
      simp [State.account, hreaped, AccountData.total, Balance.saturatingAdd, default] at hd
  | ok s₂ =>
      simp only [hn, Except.toOption, Option.getD_some] at hreaped ⊢
      obtain ⟨free, toFree, hfree, -, -, -, rfl⟩ := doTransfer_ok T (onDust T 0) hd hwho hn
      rw [storeAccount_onDust_zero, storeAccount_onDust_zero] at hreaped ⊢
      simp only [State.setAccount_accounts, hwho, false_and, if_false, and_self, if_true] at hreaped
      have hzero := total_eq_zero_of_settle T (by rw [hreaped])
      obtain ⟨-, rfl⟩ := Balance.checkedSub_eq_some.1 hfree
      refine ⟨?_, _, by rw [hreaped]⟩
      simp only [AccountData.total, Balance.saturatingAdd] at hzero hd ⊢
      omega

/-- A transfer into the dust account that reaps its sender, whose dust
`TransferDust` moved, loses that dust: the accounts hold it less than before
and `TotalIssuance` is unchanged. -/
theorem transfer_into_dustAccount {D : AccountId} (hT : T.onDust = .transferDust D)
    {s s' : State AccountId CurrencyId LockId} {src : AccountId} {c : CurrencyId} {amount : Nat}
    (hsrc : src ≠ D) (hamount : amount ≠ 0)
    (h : dispatch T (onDust T 1) s (.transfer src D c amount) = .ok s')
    (hleft : amount < (s.account src c).free) (hreaped : s'.accounts src c = none) :
    s'.totalIssuance = s.totalIssuance ∧
      issued s' c + ((s.account src c).free - amount) = issued s c := by
  obtain ⟨free, toFree, hfree, hto, hed, -, rfl⟩ := doTransfer_ok T _ hamount hsrc h
  obtain ⟨-, rfl⟩ := Balance.checkedSub_eq_some.1 hfree
  obtain ⟨-, rfl⟩ := Balance.checkedAdd_eq_some.1 hto
  -- the recipient, credited from its copy read before the sender's write, is stored as it is
  rw [storeAccount_of_settle T _ _ (settle_of_admitted T hed (by
    simp only [AccountData.total, Balance.saturatingAdd]; omega))] at hreaped ⊢
  simp only [State.setAccount_accounts, hsrc, false_and, if_false] at hreaped
  have ha0 : { s.account src c with free := (s.account src c).free - amount }.total ≠ 0 := by
    simp only [AccountData.total, Balance.saturatingAdd]
    omega
  rcases hst : settle T src c { s.account src c with free := (s.account src c).free - amount } with
    ⟨stored, _ | d⟩
  · -- without dust the sender's account is stored, and it is not empty
    rw [storeAccount_of_settle T _ _ hst] at hreaped
    simp only [State.setAccount_accounts, and_self, if_true] at hreaped
    exact absurd (total_eq_zero_of_settle T (by rw [hst]; exact hreaped)) ha0
  obtain ⟨rfl, rfl⟩ := settle_eq_dust T hst
  rw [storeAccount_of_settle_dust T _ _ hst] at hreaped ⊢
  -- the dust went to the dust account, whose write the recipient's copy then overwrites
  have hs₀ : (s.setAccount src c (some { s.account src c with free := (s.account src c).free - amount })).account src c =
      { s.account src c with free := (s.account src c).free - amount } := by
    simp [State.account_setAccount]
  obtain ⟨hres, x, hx⟩ := onDust_reaps T hT hsrc (by rwa [hs₀]) (by rwa [hs₀])
  rw [hs₀] at hx hres
  rw [hx, State.setAccount_setAccount_self, State.setAccount_setAccount_self]
  have h₁ := issued_setAccount (s.setAccount src c none) D c
    (some { s.account D c with free := (s.account D c).free + amount })
  have h₂ := issued_setAccount s src c none
  simp only [State.account_setAccount, Ne.symm hsrc, false_and, if_false, Option.getD_some,
    Option.getD_none] at h₁ h₂
  refine ⟨by simp, ?_⟩
  dsimp only at hres ⊢
  simp only [default, hres, Nat.add_zero] at h₂
  have hsub : (s.account src c).free - amount + amount = (s.account src c).free :=
    Nat.sub_add_cancel hleft.le
  omega

namespace Reference

/-- Alice, holding 100 SEU, sends 95 to the treasury, which is the dust
account: her 5 SEU of dust go to the treasury and are written over, so the
accounts hold 195 SEU against an issuance of 200. -/
theorem transfer_into_dustAccount_reference :
    Reachable (system testConfig) genesisState ∧
      genesisState.totalIssuance (.token .SEU) = issued genesisState (.token .SEU) ∧
      ∃ s', dispatch testConfig (onDust testConfig 1) genesisState
          (.transfer .alice .treasury (.token .SEU) 95) = .ok s' ∧
        s'.totalIssuance = genesisState.totalIssuance ∧
        issued s' (.token .SEU) + 5 = issued genesisState (.token .SEU) := by
  obtain ⟨s', hs'⟩ := exists_ok_of_toOption_isSome (by decide :
    (dispatch testConfig (onDust testConfig 1) genesisState
      (.transfer .alice .treasury (.token .SEU) 95)).toOption.isSome)
  have hreaped : s'.accounts .alice (.token .SEU) = none := by
    have h : ((dispatch testConfig (onDust testConfig 1) genesisState
        (.transfer .alice .treasury (.token .SEU) 95)).toOption.map
          fun s => s.accounts .alice (.token .SEU)) = some none := by decide
    simpa [hs', Except.toOption] using h
  obtain ⟨hti, hloss⟩ := transfer_into_dustAccount testConfig rfl (by decide) (by decide) hs'
    (by decide) hreaped
  have hdust : (genesisState.account .alice (.token .SEU)).free - 95 = 5 := by decide
  exact ⟨.init genesisState_init, by decide, s', hs', hti, hdust ▸ hloss⟩

end Reference

end Setheum.Tokens
