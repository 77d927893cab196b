import Setheum.Tokens.Issuance

/-!
# Whole runs of the tokens pallet

Every call of the pallet keeps `Issued`, so in a run from a genesis build no
finite set of accounts holds more of a currency than its `TotalIssuance`,
which stays below `2 ^ 128`. `slash` takes the free balance and then the
reserve, in two writes through `try_mutate_account`, and burns both;
`set_balance` moves `TotalIssuance` by the change of the account's total
before it writes the account; the lock calls write `frozen` and `Locks` only.
-/

namespace Setheum.Tokens

open Result Backing Transition

variable {AccountId CurrencyId LockId : Type} [DecidableEq AccountId] [DecidableEq CurrencyId]
variable {T : Config AccountId CurrencyId} {dust : DustHook AccountId CurrencyId LockId}
variable {s s' : State AccountId CurrencyId LockId}

/-! ## Writes through `try_mutate_account` -/

theorem Backed.storeAccount_debit (hd : HookSound dust) {who : AccountId} {c : CurrencyId} {a : AccountData}
    {k b m : Nat} (h : Backed s c k b) (ha : a.free + a.reserved + m ≤ holding s c who) :
    Backed (storeAccount T dust who c a s).2 c (k + m) b :=
  (keeps_storeAccount hd who c a s).backed c _ _ (h.setAccount_debit ha)

theorem Backed.storeAccount_credit (hd : HookSound dust) {who : AccountId} {c : CurrencyId} {a : AccountData}
    {k b m : Nat} (h : Backed s c (k + m) b) (ha : a.free + a.reserved ≤ holding s c who + m) :
    Backed (storeAccount T dust who c a s).2 c k b :=
  (keeps_storeAccount hd who c a s).backed c _ _ (h.setAccount_credit ha)

theorem Backed.storeAccount_of_ne (hd : HookSound dust) {who : AccountId} {c d : CurrencyId} {a : AccountData}
    {k b : Nat} (h : Backed s d k b) (hdc : d ≠ c) : Backed (storeAccount T dust who c a s).2 d k b :=
  (keeps_storeAccount hd who c a s).backed d _ _ (h.setAccount_of_ne _ hdc)

theorem totalIssuance_storeAccount_le (hd : HookSound dust) (who : AccountId) (c : CurrencyId) (a : AccountData)
    (d : CurrencyId) : (storeAccount T dust who c a s).2.totalIssuance d ≤ s.totalIssuance d :=
  (keeps_storeAccount hd who c a s).totalIssuance_le d

omit [DecidableEq AccountId] in
theorem backed_setTotalIssuance (c : CurrencyId) (v k b : Nat) :
    Backed (s.setTotalIssuance c v) c k b ↔ BackedBy (holding s c) k (v + b) := by
  simp [Backed]

omit [DecidableEq AccountId] in
theorem backed_setTotalIssuance_of_ne {c d : CurrencyId} (v k b : Nat) (hdc : d ≠ c) :
    Backed (s.setTotalIssuance c v) d k b ↔ Backed s d k b := by
  simp [Backed, Function.update_of_ne hdc]

omit [DecidableEq AccountId] in
theorem Issued.of_burn {c : CurrencyId} {m : Nat} (hb : Backed s c m 0) (hoff : ∀ d, d ≠ c → Backed s d 0 0)
    (hlt : ∀ d, s.totalIssuance d < 2 ^ 128) : Issued (s.setTotalIssuance c (s.totalIssuance c - m)) where
  backed d := by
    by_cases hdc : d = c
    · subst hdc
      rw [backed_setTotalIssuance]
      intro F
      have hF : ∑ x ∈ F, holding s d x + m ≤ s.totalIssuance d + 0 := hb F
      omega
    · exact (backed_setTotalIssuance_of_ne _ _ _ hdc).2 (hoff d hdc)
  lt d := by
    rw [State.setTotalIssuance_totalIssuance]
    by_cases hdc : d = c
    · subst hdc
      rw [Function.update_self]
      exact lt_of_le_of_lt (Nat.sub_le _ _) (hlt d)
    · rw [Function.update_of_ne hdc]
      exact hlt d

/-! ## `slash` -/

section Slash

variable {who : AccountId} {c : CurrencyId} {v k b : Nat}

theorem Backed.setFreeBalance (hd : HookSound dust) (h : Backed s c k b) (hv : v ≤ (s.account who c).free) :
    Backed (setFreeBalance T dust c who v s) c (k + ((s.account who c).free - v)) b := by
  rw [Tokens.setFreeBalance, mutateAccount_snd]
  exact h.storeAccount_debit hd (by unfold holding; dsimp only; omega)

theorem Backed.setReservedBalance (hd : HookSound dust) (h : Backed s c k b)
    (hv : v ≤ (s.account who c).reserved) :
    Backed (setReservedBalance T dust c who v s) c (k + ((s.account who c).reserved - v)) b := by
  rw [Tokens.setReservedBalance, mutateAccount_snd]
  exact h.storeAccount_debit hd (by unfold holding; dsimp only; omega)

theorem reserved_setFreeBalance (hd : HookSound dust) :
    ((setFreeBalance T dust c who v s).account who c).reserved = (s.account who c).reserved := by
  rw [setFreeBalance, mutateAccount_snd, reserved_storeAccount hd, if_pos ⟨rfl, rfl⟩]

theorem slash_writes (hd : HookSound dust) (h : Issued s) (fs rs : Nat)
    (hfs : fs ≤ (s.account who c).free) (hrs : rs ≤ (s.account who c).reserved) :
    let s₁ := if fs = 0 then s else setFreeBalance T dust c who ((s.account who c).free - fs) s
    let s₂ := if rs = 0 then s₁ else setReservedBalance T dust c who ((s.account who c).reserved - rs) s₁
    Backed s₂ c (fs + rs) 0 ∧ (∀ d, d ≠ c → Backed s₂ d 0 0) ∧ ∀ d, s₂.totalIssuance d ≤ s.totalIssuance d := by
  intro s₁ s₂
  have h₁ : Backed s₁ c fs 0 ∧ (∀ d, d ≠ c → Backed s₁ d 0 0) ∧ (∀ d, s₁.totalIssuance d ≤ s.totalIssuance d) ∧
      (s₁.account who c).reserved = (s.account who c).reserved := by
    by_cases hf : fs = 0
    · have hs₁ : s₁ = s := if_pos hf
      rw [hs₁, hf]
      exact ⟨h.backed c, fun d _ => h.backed d, fun _ => le_rfl, rfl⟩
    · have hs₁ : s₁ = setFreeBalance T dust c who ((s.account who c).free - fs) s := if_neg hf
      rw [hs₁]
      have hdebit : Backed (setFreeBalance T dust c who ((s.account who c).free - fs) s) c
          (0 + ((s.account who c).free - ((s.account who c).free - fs))) 0 :=
        (h.backed c).setFreeBalance hd (Nat.sub_le _ fs)
      refine ⟨by rwa [Nat.sub_sub_self hfs, Nat.zero_add] at hdebit, fun d hdc => ?_, fun d => ?_,
        reserved_setFreeBalance hd⟩
      · rw [setFreeBalance, mutateAccount_snd]
        exact (h.backed d).storeAccount_of_ne hd hdc
      · rw [setFreeBalance, mutateAccount_snd]
        exact totalIssuance_storeAccount_le hd _ _ _ d
  obtain ⟨hb₁, hoff₁, hti₁, hres₁⟩ := h₁
  by_cases hr : rs = 0
  · have hs₂ : s₂ = s₁ := if_pos hr
    rw [hs₂, hr, Nat.add_zero]
    exact ⟨hb₁, hoff₁, hti₁⟩
  · have hs₂ : s₂ = setReservedBalance T dust c who ((s.account who c).reserved - rs) s₁ := if_neg hr
    rw [hs₂]
    have hdebit : Backed (setReservedBalance T dust c who ((s.account who c).reserved - rs) s₁) c
        (fs + ((s₁.account who c).reserved - ((s.account who c).reserved - rs))) 0 :=
      hb₁.setReservedBalance hd (by rw [hres₁]; exact Nat.sub_le _ _)
    refine ⟨by rwa [hres₁, Nat.sub_sub_self hrs] at hdebit, fun d hdc => ?_, fun d => ?_⟩
    · rw [setReservedBalance, mutateAccount_snd]
      exact (hoff₁ d hdc).storeAccount_of_ne hd hdc
    · rw [setReservedBalance, mutateAccount_snd]
      exact (totalIssuance_storeAccount_le hd _ _ _ d).trans (hti₁ d)

theorem Issued.slash (hd : HookSound dust) (h : Issued s) (c : CurrencyId) (who : AccountId) (amount : Nat) :
    Issued (Tokens.slash T dust c who amount s).2 := by
  unfold Tokens.slash
  split_ifs with h0
  · exact h
  dsimp only
  set fs := min (s.account who c).free amount
  set rs := min (s.account who c).reserved (amount - fs)
  obtain ⟨hb, hoff, hti⟩ := slash_writes (T := T) (c := c) hd h fs rs
    (show fs ≤ (s.account who c).free from min_le_left _ _) (min_le_left _ _)
  simp only [apply_ite Prod.fst, apply_ite Prod.snd]
  have hsum : amount - (if rs = 0 then amount - fs else amount - fs - rs) = fs + rs := by
    have : fs ≤ amount := min_le_right _ _
    have : rs ≤ amount - fs := min_le_right _ _
    split_ifs <;> omega
  rw [hsum]
  exact Issued.of_burn hb hoff fun d => lt_of_le_of_lt (hti d) (h.lt d)

end Slash

/-! ## `set_balance` -/

section SetBalance

variable {who : AccountId} {c : CurrencyId} {newFree newReserved : Nat}

/-- What `set_balance` did when it succeeded: the account is set to the new
balances, or emptied when they add up to less than the existential deposit,
over a `TotalIssuance` moved by the change of the account's total. -/
theorem setBalance_ok (hr : setBalance T dust who c newFree newReserved s = .ok s') :
    ∃ (f r : Nat) (sI : State AccountId CurrencyId LockId),
      f + r < 2 ^ 128 ∧
      ((s.account who c).total < f + r ∧ s.totalIssuance c + (f + r - (s.account who c).total) < 2 ^ 128 ∧
          sI = s.setTotalIssuance c (s.totalIssuance c + (f + r - (s.account who c).total)) ∨
        f + r < (s.account who c).total ∧ (s.account who c).total - (f + r) ≤ s.totalIssuance c ∧
          sI = s.setTotalIssuance c (s.totalIssuance c - ((s.account who c).total - (f + r))) ∨
        f + r = (s.account who c).total ∧ sI = s) ∧
      s' = (storeAccount T dust who c { s.account who c with free := f, reserved := r } sI).2 := by
  unfold setBalance tryMutateAccount at hr
  simp only [bind_eq_ok, pure_eq_ok] at hr
  obtain ⟨_, ⟨⟨u, account, sI⟩, ⟨nt, hnt, hclosure⟩, rfl⟩, rfl⟩ := hr
  obtain ⟨hlt, rfl⟩ := Balance.checkedAdd_eq_some.1 (okOr_eq_ok.1 hnt)
  generalize hq : (if newFree + newReserved < T.existentialDeposits c then (0, 0, 0)
    else (newFree + newReserved, newFree, newReserved)) = q at hclosure
  obtain ⟨nt, f, r⟩ := q
  have hsum : nt = f + r ∧ f + r < 2 ^ 128 := by
    split_ifs at hq <;> simp only [Prod.mk.injEq] at hq <;> omega
  obtain ⟨rfl, hfr⟩ := hsum
  dsimp only at hclosure
  refine ⟨f, r, sI, hfr, ?_⟩
  split_ifs at hclosure with hup hdown
  · obtain ⟨t, ht, hrest⟩ := bind_eq_ok.1 hclosure
    obtain ⟨hlt', rfl⟩ := Balance.checkedAdd_eq_some.1 (okOr_eq_ok.1 ht)
    simp only [pure_bind, pure_eq_ok, Prod.mk.injEq] at hrest
    obtain ⟨-, rfl, rfl⟩ := hrest
    exact ⟨.inl ⟨hup, hlt', rfl⟩, rfl⟩
  · obtain ⟨t, ht, hrest⟩ := bind_eq_ok.1 hclosure
    obtain ⟨hle, rfl⟩ := Balance.checkedSub_eq_some.1 (okOr_eq_ok.1 ht)
    simp only [pure_bind, pure_eq_ok, Prod.mk.injEq] at hrest
    obtain ⟨-, rfl, rfl⟩ := hrest
    exact ⟨.inr (.inl ⟨hdown, hle, rfl⟩), rfl⟩
  · simp only [pure_bind, pure_eq_ok, Prod.mk.injEq] at hclosure
    obtain ⟨-, rfl, rfl⟩ := hclosure
    exact ⟨.inr (.inr ⟨by omega, rfl⟩), rfl⟩

omit [DecidableEq AccountId] [DecidableEq CurrencyId] in
theorem Issued.total_eq (h : Issued s) (c : CurrencyId) (who : AccountId) :
    (s.account who c).total = holding s c who :=
  Balance.saturatingAdd_eq (h.holding_lt c who)

omit [DecidableEq AccountId] [DecidableEq CurrencyId] in
theorem Backed.cancel {c : CurrencyId} {k m : Nat} (h : Backed s c (k + m) m) : Backed s c k 0 := by
  intro F
  have hF : ∑ x ∈ F, holding s c x + (k + m) ≤ s.totalIssuance c + m := h F
  change ∑ x ∈ F, holding s c x + k ≤ s.totalIssuance c + 0
  omega

theorem Issued.setBalance (hd : HookSound dust) (h : Issued s)
    (hr : setBalance T dust who c newFree newReserved s = .ok s') : Issued s' := by
  obtain ⟨f, r, sI, hfr, hcases, rfl⟩ := setBalance_ok hr
  rw [h.total_eq] at hcases
  set a : AccountData := { s.account who c with free := f, reserved := r }
  have ha : a.free + a.reserved = f + r := rfl
  have hoff : ∀ d, d ≠ c → Backed sI d 0 0 ∧ sI.totalIssuance d = s.totalIssuance d := fun d hdc => by
    rcases hcases with ⟨-, -, rfl⟩ | ⟨-, -, rfl⟩ | ⟨-, rfl⟩
    · exact ⟨(backed_setTotalIssuance_of_ne _ _ _ hdc).2 (h.backed d), Function.update_of_ne hdc _ _⟩
    · exact ⟨(backed_setTotalIssuance_of_ne _ _ _ hdc).2 (h.backed d), Function.update_of_ne hdc _ _⟩
    · exact ⟨h.backed d, rfl⟩
  have hc : Backed (Tokens.storeAccount T dust who c a sI).2 c 0 0 ∧ sI.totalIssuance c < 2 ^ 128 := by
    rcases hcases with ⟨hup, hlt, rfl⟩ | ⟨hdown, hle, rfl⟩ | ⟨heq, rfl⟩
    · -- the issuance is raised first, and the credit spends the raise
      have hI : Backed (s.setTotalIssuance c (s.totalIssuance c + (f + r - holding s c who))) c
          (0 + (f + r - holding s c who)) 0 := by
        rw [backed_setTotalIssuance]
        intro F
        have hF : ∑ x ∈ F, holding s c x + 0 ≤ s.totalIssuance c + 0 := h.backed c F
        omega
      refine ⟨hI.storeAccount_credit hd (by rw [holding_setTotalIssuance, ha]; omega), ?_⟩
      simpa using hlt
    · -- the issuance is lowered first, and the debit makes up for it
      have hI : Backed (s.setTotalIssuance c (s.totalIssuance c - (holding s c who - (f + r)))) c 0
          (holding s c who - (f + r)) := by
        rw [backed_setTotalIssuance]
        intro F
        have hF : ∑ x ∈ F, holding s c x + 0 ≤ s.totalIssuance c + 0 := h.backed c F
        omega
      refine ⟨(hI.storeAccount_debit hd (by rw [holding_setTotalIssuance, ha]; omega)).cancel, ?_⟩
      simpa using lt_of_le_of_lt (Nat.sub_le _ _) (h.lt c)
    · have hdebit : Backed (Tokens.storeAccount T dust who c a _).2 c (0 + 0) 0 :=
        (h.backed c).storeAccount_debit hd (by rw [ha]; omega)
      exact ⟨hdebit, h.lt c⟩
  refine ⟨fun d => ?_, fun d => ?_⟩
  · by_cases hdc : d = c
    · rw [hdc]
      exact hc.1
    · exact (hoff d hdc).1.storeAccount_of_ne hd hdc
  · refine lt_of_le_of_lt (totalIssuance_storeAccount_le hd _ _ _ d) ?_
    by_cases hdc : d = c
    · rw [hdc]
      exact hc.2
    · rw [(hoff d hdc).2]
      exact h.lt d

end SetBalance

/-! ## Locks -/

theorem keeps_setLocks (who : AccountId) (c : CurrencyId) (l : List (BalanceLock LockId)) (owner : AccountId) :
    Keeps s (s.setLocks who c l) owner :=
  ⟨fun _ _ => rfl, fun _ _ _ => le_rfl, fun _ _ _ h => h, fun _ => le_rfl⟩

section Locks

variable [DecidableEq LockId] {who : AccountId} {c : CurrencyId}

omit [DecidableEq LockId] in
theorem keeps_updateLocks (hd : HookSound dust) {locks : List (BalanceLock LockId)}
    (hr : updateLocks T dust c who locks s = .ok s') : Keeps s s' who := by
  unfold updateLocks at hr
  rw [mutateAccount_snd] at hr
  set a : AccountData := { s.account who c with frozen := maxLockAmount locks }
  have hk : Keeps s (Tokens.storeAccount T dust who c a s).2 who :=
    (keeps_setAccount_debit (a := a) rfl le_rfl).trans (keeps_storeAccount hd who c a s)
  split_ifs at hr
  · rw [pure_eq_ok] at hr
    exact hr ▸ hk.trans (keeps_setLocks _ _ _ _)
  · obtain ⟨_, -, hs'⟩ := bind_eq_ok.1 hr
    rw [pure_eq_ok] at hs'
    exact hs' ▸ hk.trans (keeps_setLocks _ _ _ _)

theorem keeps_setLock (hd : HookSound dust) {lockId : LockId} {amount : Nat}
    (hr : setLock T dust lockId c who amount s = .ok s') : Keeps s s' who := by
  unfold setLock at hr
  split_ifs at hr
  · rw [pure_eq_ok] at hr
    exact hr ▸ Keeps.refl s who
  · exact keeps_updateLocks hd hr

theorem keeps_extendLock (hd : HookSound dust) {lockId : LockId} {amount : Nat}
    (hr : extendLock T dust lockId c who amount s = .ok s') : Keeps s s' who := by
  unfold extendLock at hr
  split_ifs at hr
  · rw [pure_eq_ok] at hr
    exact hr ▸ Keeps.refl s who
  · exact keeps_updateLocks hd hr

end Locks

/-! ## Every call, and every run -/

section Run

variable [DecidableEq LockId]

theorem Issued.dispatch (hd : HookSound dust) (h : Issued s) {call : Call AccountId CurrencyId LockId}
    (hr : Tokens.dispatch T dust s call = .ok s') : Issued s' := by
  cases call with
  | transfer src dst c amount => exact h.of_keeps (keeps_doTransfer hd hr)
  | transferKeepAlive src dst c amount => exact h.of_keeps (keeps_doTransfer hd hr)
  | forceTransfer src dst c amount => exact h.of_keeps (keeps_doTransfer hd hr)
  | setBalance who c newFree newReserved => exact h.setBalance hd hr
  | deposit c who amount =>
      obtain ⟨⟨r, state⟩, hdep, hpure⟩ := bind_eq_ok.1 hr
      rw [pure_eq_ok] at hpure
      exact hpure ▸ (h.doDeposit hd hdep).1
  | withdraw c who amount existenceRequirement => exact h.of_keeps (keeps_doWithdraw hd hr)
  | slash c who amount =>
      rw [Tokens.dispatch, pure_eq_ok] at hr
      exact hr ▸ h.slash hd c who amount
  | reserve c who value => exact (h.reserve hd hr).1
  | unreserve c who value =>
      rw [Tokens.dispatch, pure_eq_ok] at hr
      exact hr ▸ (h.unreserve hd c who value).1
  | slashReserved c who value =>
      rw [Tokens.dispatch, pure_eq_ok] at hr
      exact hr ▸ (h.slashReserved hd c who value).1
  | setLock lockId c who amount => exact h.of_keeps (keeps_setLock hd hr)
  | extendLock lockId c who amount => exact h.of_keeps (keeps_extendLock hd hr)
  | removeLock lockId c who => exact h.of_keeps (keeps_updateLocks hd hr)

theorem issued_reachable :
    Invariant (system T : Transition.System (State AccountId CurrencyId LockId) _) Issued :=
  invariant_of_inductive _ (fun _ ⟨_, hg⟩ => Issued.build (hookSound_onDust T 1) hg)
    fun _ _ _ h hstep => h.dispatch (hookSound_onDust T 1) (toOption_eq_some.1 hstep)

/-- In every state the pallet reaches from a genesis build, by any calls, the
accounts of any finite set hold together, free and reserved, at most the
`TotalIssuance` of the currency, and `TotalIssuance` stays below `2 ^ 128`. -/
theorem totalIssuance_backs_balances (hs : Reachable (system T) s) (c : CurrencyId)
    (accounts : Finset AccountId) :
    ∑ who ∈ accounts, ((s.account who c).free + (s.account who c).reserved) ≤ s.totalIssuance c ∧
      s.totalIssuance c < 2 ^ 128 := by
  have h : Issued s := issued_reachable s hs
  have hF : ∑ who ∈ accounts, holding s c who + 0 ≤ s.totalIssuance c + 0 := h.backed c accounts
  exact ⟨by simpa [holding] using hF, h.lt c⟩

end Run

end Setheum.Tokens

namespace Setheum.Tokens.Reference

open Transition

/-- After Alice's lock, the slash that reaps her and the deposit that brings
her back, she and the treasury hold no more SEU than was issued. -/
theorem redeposited_balances_backed :
    ∑ who ∈ ({.alice, .treasury} : Finset Account),
        ((redeposited.account who (.token .SEU)).free + (redeposited.account who (.token .SEU)).reserved) ≤
      redeposited.totalIssuance (.token .SEU) ∧ redeposited.totalIssuance (.token .SEU) < 2 ^ 128 :=
  totalIssuance_backs_balances (((Reachable.init genesisState_init).run _).run _ |>.run _) _ _

end Setheum.Tokens.Reference
