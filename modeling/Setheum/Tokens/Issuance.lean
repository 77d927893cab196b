import Setheum.Tokens.Reducible
import Setheum.Tokens.Locks
import Setheum.Lib.Backing

/-!
# `TotalIssuance` backs what the accounts hold

No finite set of accounts holds more of a currency, free and reserved, than
its `TotalIssuance`, and no `TotalIssuance` reaches `2 ^ 128`; so no account's
balances saturate when added, and the saturating adds of the reserve
operations are exact. Transfers may lose dust to a stale write
(`transfer_into_dustAccount`), which only loosens the bound.

An operation writes one account at a time and hands dust to the hook between
writes, so the bound carries a slack (what is held by nobody between a debit
and its credit) and an offset of the issuance (what is credited before its
debit). `Keeps` is what a write on behalf of one account may do to the rest:
the hook, a withdrawal and a transfer keep it, so `onDust` keeps it at every
depth.
-/

namespace Setheum.Tokens

open Result Backing

variable {AccountId CurrencyId LockId : Type} [DecidableEq AccountId] [DecidableEq CurrencyId]

/-- What an account holds of a currency, free and reserved. -/
def holding (s : State AccountId CurrencyId LockId) (c : CurrencyId) (who : AccountId) : Nat :=
  (s.account who c).free + (s.account who c).reserved

/-- `TotalIssuance` of `c`, raised by `b`, backs with slack `k` what every
finite set of accounts holds of `c`. -/
def Backed (s : State AccountId CurrencyId LockId) (c : CurrencyId) (k b : Nat) : Prop :=
  BackedBy (holding s c) k (s.totalIssuance c + b)

/-- What a write on behalf of `owner` may do: keep every reserved balance,
lower no other account's free balance, keep every backing and raise no
issuance. -/
structure Keeps (s s' : State AccountId CurrencyId LockId) (owner : AccountId) : Prop where
  reserved : ∀ x d, (s'.account x d).reserved = (s.account x d).reserved
  free_le : ∀ x d, x ≠ owner → (s.account x d).free ≤ (s'.account x d).free
  backed : ∀ d k b, Backed s d k b → Backed s' d k b
  totalIssuance_le : ∀ d, s'.totalIssuance d ≤ s.totalIssuance d

omit [DecidableEq AccountId] [DecidableEq CurrencyId] in
theorem Keeps.refl (s : State AccountId CurrencyId LockId) (owner : AccountId) : Keeps s s owner :=
  ⟨fun _ _ => rfl, fun _ _ _ => le_rfl, fun _ _ _ h => h, fun _ => le_rfl⟩

omit [DecidableEq AccountId] [DecidableEq CurrencyId] in
theorem Keeps.trans {s₁ s₂ s₃ : State AccountId CurrencyId LockId} {owner : AccountId}
    (h₁ : Keeps s₁ s₂ owner) (h₂ : Keeps s₂ s₃ owner) : Keeps s₁ s₃ owner :=
  ⟨fun x d => (h₂.reserved x d).trans (h₁.reserved x d),
    fun x d hx => (h₁.free_le x d hx).trans (h₂.free_le x d hx),
    fun d k b h => h₂.backed d k b (h₁.backed d k b h),
    fun d => (h₂.totalIssuance_le d).trans (h₁.totalIssuance_le d)⟩

/-- A hook that keeps `Keeps` for the account it is called for. -/
def HookSound (dust : DustHook AccountId CurrencyId LockId) : Prop :=
  ∀ who c amount s, Keeps s (dust who c amount s) who

variable (T : Config AccountId CurrencyId) {dust : DustHook AccountId CurrencyId LockId}

/-! ## One write -/

omit [DecidableEq AccountId] [DecidableEq CurrencyId] in
theorem settle_free_reserved (who : AccountId) (c : CurrencyId) (a : AccountData) :
    ((settle T who c a).1.getD default).free = a.free ∧
      ((settle T who c a).1.getD default).reserved = a.reserved := by
  unfold settle
  split_ifs with hlt h0
  · simp only [AccountData.total, Balance.saturatingAdd] at h0
    exact ⟨by change 0 = a.free; omega, by change 0 = a.reserved; omega⟩
  all_goals exact ⟨rfl, rfl⟩

theorem free_setAccount_settle (s : State AccountId CurrencyId LockId) (who : AccountId) (c : CurrencyId)
    (a : AccountData) (x : AccountId) (d : CurrencyId) :
    ((s.setAccount who c (settle T who c a).1).account x d).free =
      if x = who ∧ d = c then a.free else (s.account x d).free := by
  rw [State.account_setAccount]
  split_ifs
  · exact (settle_free_reserved T who c a).1
  · rfl

theorem reserved_setAccount_settle (s : State AccountId CurrencyId LockId) (who : AccountId) (c : CurrencyId)
    (a : AccountData) (x : AccountId) (d : CurrencyId) :
    ((s.setAccount who c (settle T who c a).1).account x d).reserved =
      if x = who ∧ d = c then a.reserved else (s.account x d).reserved := by
  rw [State.account_setAccount]
  split_ifs
  · exact (settle_free_reserved T who c a).2
  · rfl

theorem holding_setAccount_settle (s : State AccountId CurrencyId LockId) (who : AccountId) (c : CurrencyId)
    (a : AccountData) (x : AccountId) :
    holding (s.setAccount who c (settle T who c a).1) c x =
      if x = who then a.free + a.reserved else holding s c x := by
  unfold holding
  rw [free_setAccount_settle, reserved_setAccount_settle]
  by_cases hx : x = who <;> simp [hx]

theorem holding_setAccount_of_ne (s : State AccountId CurrencyId LockId) {who : AccountId} {c d : CurrencyId}
    (st : Option AccountData) (hd : d ≠ c) (x : AccountId) :
    holding (s.setAccount who c st) d x = holding s d x := by
  simp [holding, State.account_setAccount, hd]

omit [DecidableEq AccountId] in
@[simp] theorem holding_setTotalIssuance (s : State AccountId CurrencyId LockId) (c : CurrencyId) (v : Nat) :
    holding (s.setTotalIssuance c v) = holding s := rfl

variable {T}

theorem Backed.setAccount_of_ne {s : State AccountId CurrencyId LockId} {who : AccountId} {c d : CurrencyId}
    {k b : Nat} (st : Option AccountData) (hd : d ≠ c) (h : Backed s d k b) :
    Backed (s.setAccount who c st) d k b := by
  unfold Backed at h ⊢
  rw [State.setAccount_totalIssuance]
  exact h.mono (fun x => (holding_setAccount_of_ne s st hd x).le) le_rfl le_rfl

theorem Backed.setAccount_debit {s : State AccountId CurrencyId LockId} {who : AccountId} {c : CurrencyId}
    {a : AccountData} {k b m : Nat} (h : Backed s c k b) (ha : a.free + a.reserved + m ≤ holding s c who) :
    Backed (s.setAccount who c (settle T who c a).1) c (k + m) b := by
  unfold Backed at h ⊢
  rw [State.setAccount_totalIssuance]
  refine h.debit who ?_ fun x hx => ?_
  · rwa [holding_setAccount_settle, if_pos rfl]
  · rw [holding_setAccount_settle, if_neg hx]

theorem Backed.setAccount_credit {s : State AccountId CurrencyId LockId} {who : AccountId} {c : CurrencyId}
    {a : AccountData} {k b m : Nat} (h : Backed s c (k + m) b) (ha : a.free + a.reserved ≤ holding s c who + m) :
    Backed (s.setAccount who c (settle T who c a).1) c k b := by
  unfold Backed at h ⊢
  rw [State.setAccount_totalIssuance]
  refine h.credit who ?_ fun x hx => ?_
  · rwa [holding_setAccount_settle, if_pos rfl]
  · rw [holding_setAccount_settle, if_neg hx]

theorem keeps_storeAccount (hd : HookSound dust) (who : AccountId) (c : CurrencyId) (a : AccountData)
    (s : State AccountId CurrencyId LockId) :
    Keeps (s.setAccount who c (settle T who c a).1) (storeAccount T dust who c a s).2 who := by
  unfold storeAccount
  generalize settle T who c a = p
  obtain ⟨stored, _ | amount⟩ := p
  · exact Keeps.refl _ _
  · exact hd who c amount _

theorem mutateAccount_snd {R : Type} (who : AccountId) (c : CurrencyId) (f : AccountData → Bool → R × AccountData)
    (s : State AccountId CurrencyId LockId) :
    (mutateAccount T dust who c f s).2 =
      (storeAccount T dust who c (f (s.account who c) (s.accounts who c).isSome).2 s).2 := rfl

theorem keeps_setAccount_debit {s : State AccountId CurrencyId LockId} {who : AccountId} {c : CurrencyId}
    {a : AccountData} (hres : a.reserved = (s.account who c).reserved)
    (hfree : a.free ≤ (s.account who c).free) :
    Keeps s (s.setAccount who c (settle T who c a).1) who where
  reserved x d := by
    rw [reserved_setAccount_settle]
    split_ifs with h
    · rw [hres, h.1, h.2]
    · rfl
  free_le x d hx := by
    rw [free_setAccount_settle, if_neg fun h => hx h.1]
  backed d k b h := by
    by_cases hdc : d = c
    · subst hdc
      have hdebit : Backed (s.setAccount who d (settle T who d a).1) d (k + 0) b :=
        h.setAccount_debit (by unfold holding; omega)
      simpa using hdebit
    · exact h.setAccount_of_ne _ hdc
  totalIssuance_le d := le_rfl

theorem keeps_setAccount_burn {s : State AccountId CurrencyId LockId} {who : AccountId} {c : CurrencyId}
    {a : AccountData} {m : Nat} (hres : a.reserved = (s.account who c).reserved)
    (hfree : a.free + m ≤ (s.account who c).free) :
    Keeps s ((s.setTotalIssuance c (s.totalIssuance c - m)).setAccount who c (settle T who c a).1) who where
  reserved x d := by
    rw [reserved_setAccount_settle]
    split_ifs with h
    · rw [hres, h.1, h.2]
    · rfl
  free_le x d hx := by
    rw [free_setAccount_settle, if_neg fun h => hx h.1]
    rfl
  backed d k b h := by
    by_cases hdc : d = c
    · subst hdc
      have hdebit : Backed (s.setAccount who d (settle T who d a).1) d (k + m) b :=
        h.setAccount_debit (by unfold holding; omega)
      unfold Backed at hdebit ⊢
      rw [State.setAccount_totalIssuance] at hdebit ⊢
      refine hdebit.burn.mono (fun x => ?_) le_rfl ?_
      · simp [holding, State.account]
      · simp only [State.setTotalIssuance_totalIssuance, Function.update_self]
        omega
    · refine Backed.setAccount_of_ne _ hdc ?_
      unfold Backed at h ⊢
      simpa [Function.update_of_ne hdc] using h
  totalIssuance_le d := by
    simp only [State.setAccount_totalIssuance, State.setTotalIssuance_totalIssuance]
    by_cases hdc : d = c
    · subst hdc
      simp
    · simp [Function.update_of_ne hdc]

/-! ## Withdrawals and transfers keep `Keeps` -/

theorem doWithdraw_ok {c : CurrencyId} {who : AccountId} {amount : Nat} {req : ExistenceRequirement}
    {s s' : State AccountId CurrencyId LockId} (hne : amount ≠ 0)
    (h : doWithdraw T dust c who amount req true s = .ok s') :
    ensureCanWithdraw s c who amount = .ok () ∧
      s' = (storeAccount T dust who c { s.account who c with free := (s.account who c).free - amount }
        (s.setTotalIssuance c (s.totalIssuance c - amount))).2 := by
  unfold doWithdraw at h
  rw [if_neg hne] at h
  simp only [tryMutateAccount, bind_eq_ok, pure_eq_ok, ensure_eq_ok, if_true] at h
  obtain ⟨_, ⟨_, ⟨_, hcw, _, -, rfl⟩, rfl⟩, rfl⟩ := h
  exact ⟨hcw, rfl⟩

theorem keeps_doWithdraw (hd : HookSound dust) {c : CurrencyId} {who : AccountId} {amount : Nat}
    {req : ExistenceRequirement} {s s' : State AccountId CurrencyId LockId}
    (h : doWithdraw T dust c who amount req true s = .ok s') : Keeps s s' who := by
  by_cases hne : amount = 0
  · simp only [doWithdraw, hne, if_true, pure_eq_ok] at h
    exact h ▸ Keeps.refl s who
  · obtain ⟨hcw, rfl⟩ := doWithdraw_ok hne h
    have hfree := (ensureCanWithdraw_eq_ok_iff.1 hcw).resolve_left hne
    have hburn : Keeps s ((s.setTotalIssuance c (s.totalIssuance c - amount)).setAccount who c
        (settle T who c { s.account who c with free := (s.account who c).free - amount }).1) who :=
      keeps_setAccount_burn rfl (by dsimp only; omega)
    exact hburn.trans (keeps_storeAccount hd _ _ _ _)

theorem keeps_doTransfer (hd : HookSound dust) {c : CurrencyId} {src dst : AccountId} {amount : Nat}
    {req : ExistenceRequirement} {s s' : State AccountId CurrencyId LockId}
    (h : doTransfer T dust c src dst amount req s = .ok s') : Keeps s s' src := by
  by_cases htriv : amount = 0 ∨ src = dst
  · simp only [doTransfer, htriv, if_true, pure_eq_ok] at h
    exact h ▸ Keeps.refl s src
  have hne : amount ≠ 0 := fun h0 => htriv (.inl h0)
  have hsd : src ≠ dst := fun h0 => htriv (.inr h0)
  obtain ⟨free, toFree, hfree, hto, hed, -, -, rfl⟩ := (doTransfer_eq_ok_iff dust hne hsd).mp h
  obtain ⟨hle, rfl⟩ := Balance.checkedSub_eq_some.1 hfree
  obtain ⟨-, rfl⟩ := Balance.checkedAdd_eq_some.1 hto
  have hk₀ : Keeps s (s.setAccount src c
      (settle T src c { s.account src c with free := (s.account src c).free - amount }).1) src :=
    keeps_setAccount_debit rfl (Nat.sub_le _ _)
  have hk₁ := hk₀.trans (keeps_storeAccount hd src c
    { s.account src c with free := (s.account src c).free - amount } s)
  set s₁ := (storeAccount T dust src c { s.account src c with free := (s.account src c).free - amount } s).2
  have hadm := settle_of_admitted T hed (by simp only [AccountData.total, Balance.saturatingAdd]; omega)
  have hs₂ : (storeAccount T dust dst c { s.account dst c with free := (s.account dst c).free + amount } s₁).2 =
      s₁.setAccount dst c
        (settle T dst c { s.account dst c with free := (s.account dst c).free + amount }).1 := by
    rw [storeAccount_of_settle T dust s₁ hadm, hadm]
  rw [hs₂]
  refine ⟨fun x d => ?_, fun x d hx => ?_, fun d k b hb => ?_, fun d => ?_⟩
  · rw [reserved_setAccount_settle]
    split_ifs with hxd
    · rw [hxd.1, hxd.2]
    · exact hk₁.reserved x d
  · rw [free_setAccount_settle]
    split_ifs with hxd
    · rw [hxd.1, hxd.2]
      exact Nat.le_add_right _ _
    · exact hk₁.free_le x d hx
  · by_cases hdc : d = c
    · rw [hdc] at hb ⊢
      have h₀ : Backed (s.setAccount src c
          (settle T src c { s.account src c with free := (s.account src c).free - amount }).1) c (k + amount) b :=
        hb.setAccount_debit (by unfold holding; dsimp only; omega)
      have h₁ : Backed s₁ c (k + amount) b := (keeps_storeAccount hd src c _ s).backed c _ _ h₀
      have hdst₁ : holding s c dst ≤ holding s₁ c dst := by
        unfold holding
        rw [hk₁.reserved]
        have := hk₁.free_le dst c (Ne.symm hsd)
        omega
      exact h₁.setAccount_credit (by unfold holding at hdst₁ ⊢; dsimp only; omega)
    · exact (hk₁.backed d k b hb).setAccount_of_ne _ hdc
  · rw [State.setAccount_totalIssuance]
    exact hk₁.totalIssuance_le d

omit [DecidableEq AccountId] [DecidableEq CurrencyId] in
theorem keeps_getD {s : State AccountId CurrencyId LockId} {who : AccountId}
    {r : Except DispatchError (State AccountId CurrencyId LockId)} (h : ∀ s', r = .ok s' → Keeps s s' who) :
    Keeps s (r.toOption.getD s) who := by
  cases r with
  | error e => exact Keeps.refl s who
  | ok s' => exact h s' rfl

variable (T) in
theorem hookSound_onDust (depth : Nat) : HookSound (onDust T depth : DustHook AccountId CurrencyId LockId) := by
  induction depth with
  | zero => exact fun who _ _ s => Keeps.refl s who
  | succ depth ih =>
      intro who c amount s
      simp only [onDust]
      split
      · exact keeps_getD fun _ h => keeps_doWithdraw ih h
      · exact keeps_getD fun _ h => keeps_doTransfer ih h

/-! ## The invariant: issuance backs every account and stays a `u128` -/

/-- `TotalIssuance` of every currency backs what the accounts hold of it and
stays below `2 ^ 128`. -/
structure Issued (s : State AccountId CurrencyId LockId) : Prop where
  backed : ∀ c, Backed s c 0 0
  lt : ∀ c, s.totalIssuance c < 2 ^ 128

section Issued

variable {s s' : State AccountId CurrencyId LockId}

omit [DecidableEq AccountId] [DecidableEq CurrencyId] in
theorem Issued.of_keeps {owner : AccountId} (h : Issued s) (hk : Keeps s s' owner) : Issued s' :=
  ⟨fun c => hk.backed c 0 0 (h.backed c), fun c => (hk.totalIssuance_le c).trans_lt (h.lt c)⟩

omit [DecidableEq AccountId] [DecidableEq CurrencyId] in
theorem Issued.holding_lt (h : Issued s) (c : CurrencyId) (who : AccountId) : holding s c who < 2 ^ 128 :=
  lt_of_le_of_lt (by simpa using (h.backed c).le who) (h.lt c)

omit [DecidableEq CurrencyId] in
theorem Issued.holding_add_lt (h : Issued s) (c : CurrencyId) {x y : AccountId} (hxy : x ≠ y) :
    holding s c x + holding s c y < 2 ^ 128 :=
  lt_of_le_of_lt (by simpa using (h.backed c).add_le hxy) (h.lt c)

theorem Issued.setAccount {who : AccountId} {c : CurrencyId} {a : AccountData} (h : Issued s)
    (ha : a.free + a.reserved ≤ holding s c who) : Issued (s.setAccount who c (settle T who c a).1) where
  backed d := by
    by_cases hdc : d = c
    · rw [hdc]
      have hdebit : Backed (s.setAccount who c (settle T who c a).1) c (0 + 0) 0 :=
        (h.backed c).setAccount_debit (by omega)
      simpa using hdebit
    · exact (h.backed d).setAccount_of_ne _ hdc
  lt d := h.lt d

theorem Issued.storeAccount (hd : HookSound dust) {who : AccountId} {c : CurrencyId} {a : AccountData}
    (h : Issued s) (ha : a.free + a.reserved ≤ holding s c who) : Issued (storeAccount T dust who c a s).2 :=
  (h.setAccount ha).of_keeps (keeps_storeAccount hd who c a s)

theorem reserved_storeAccount (hd : HookSound dust) (who : AccountId) (c : CurrencyId) (a : AccountData)
    (x : AccountId) (d : CurrencyId) :
    ((storeAccount T dust who c a s).2.account x d).reserved =
      if x = who ∧ d = c then a.reserved else (s.account x d).reserved := by
  rw [(keeps_storeAccount hd who c a s).reserved, reserved_setAccount_settle]

theorem Issued.doDeposit (hd : HookSound dust) {c : CurrencyId} {who : AccountId} {amount r : Nat}
    (h : Issued s) (hdep : doDeposit T dust c who amount false true s = .ok (r, s')) :
    Issued s' ∧ ∀ x d, (s'.account x d).reserved = (s.account x d).reserved := by
  by_cases hne : amount = 0
  · simp only [Tokens.doDeposit, hne, if_true, pure_eq_ok, Prod.mk.injEq] at hdep
    exact hdep.2 ▸ ⟨h, fun _ _ => rfl⟩
  obtain ⟨t, ht, -, rfl⟩ := doDeposit_ok T dust hne hdep
  obtain ⟨hlt, rfl⟩ := Balance.checkedAdd_eq_some.1 ht
  refine ⟨⟨fun d => ?_, fun d => ?_⟩, fun x d => ?_⟩
  · refine (keeps_storeAccount hd who c _ _).backed d 0 0 ?_
    by_cases hdc : d = c
    · rw [hdc]
      have hissue : Backed (s.setTotalIssuance c (s.totalIssuance c + amount)) c (0 + amount) 0 := by
        unfold Backed
        simpa [Function.update_self] using (h.backed c).issue (d := amount)
      refine hissue.setAccount_credit ?_
      rw [holding_setTotalIssuance]
      simp only [holding, Balance.saturatingAdd]
      omega
    · refine Backed.setAccount_of_ne _ hdc ?_
      have hb := h.backed d
      unfold Backed at hb ⊢
      simpa [Function.update_of_ne hdc] using hb
  · refine lt_of_le_of_lt ((keeps_storeAccount hd who c _ _).totalIssuance_le d) ?_
    rw [State.setAccount_totalIssuance, State.setTotalIssuance_totalIssuance]
    by_cases hdc : d = c
    · rw [hdc, Function.update_self]
      exact hlt
    · rw [Function.update_of_ne hdc]
      exact h.lt d
  · rw [reserved_storeAccount hd]
    split_ifs with hxd
    · rw [hxd.1, hxd.2]
    · rfl

/-- A reserve that succeeded moves `value` from the free balance to the
reserved one, exactly: below the issuance the reserved balance cannot
saturate. -/
theorem Issued.reserve (hd : HookSound dust) {c : CurrencyId} {who : AccountId} {value : Nat}
    (h : Issued s) (hr : Tokens.reserve T dust c who value s = .ok s') :
    Issued s' ∧ ∀ x d, (s'.account x d).reserved =
      if x = who ∧ d = c then (s.account who c).reserved + value else (s.account x d).reserved := by
  by_cases hv : value = 0
  · subst hv
    simp only [Tokens.reserve, if_true, pure_eq_ok] at hr
    subst hr
    refine ⟨h, fun x d => ?_⟩
    split_ifs with hxd
    · rw [hxd.1, hxd.2, Nat.add_zero]
    · rfl
  unfold Tokens.reserve at hr
  rw [if_neg hv] at hr
  simp only [bind_eq_ok, pure_eq_ok] at hr
  obtain ⟨_, hcw, rfl⟩ := hr
  have hfree := (ensureCanWithdraw_eq_ok_iff.1 hcw).resolve_left hv
  have hlt := h.holding_lt c who
  unfold holding at hlt
  rw [mutateAccount_snd]
  refine ⟨h.storeAccount hd (by simp only [holding, Balance.saturatingAdd]; omega), fun x d => ?_⟩
  rw [reserved_storeAccount hd]
  split_ifs with hxd
  · simp only [Balance.saturatingAdd]
    omega
  · rfl

theorem Issued.unreserve (hd : HookSound dust) (h : Issued s) (c : CurrencyId) (who : AccountId) (value : Nat) :
    Issued (Tokens.unreserve T dust c who value s).2 ∧
      (Tokens.unreserve T dust c who value s).1 = value - min (s.account who c).reserved value ∧
      ∀ x d, ((Tokens.unreserve T dust c who value s).2.account x d).reserved =
        if x = who ∧ d = c then (s.account who c).reserved - min (s.account who c).reserved value
        else (s.account x d).reserved := by
  by_cases hv : value = 0
  · subst hv
    have h0 : Tokens.unreserve T dust c who 0 s = (0, s) := by simp [Tokens.unreserve]
    refine ⟨h0 ▸ h, by simp [h0], fun x d => ?_⟩
    rw [h0]
    split_ifs with hxd
    · rw [hxd.1, hxd.2, Nat.min_zero, Nat.sub_zero]
    · rfl
  unfold Tokens.unreserve
  rw [if_neg hv]
  rw [mutateAccount_snd]
  refine ⟨h.storeAccount hd (by simp only [holding, Balance.saturatingAdd]; omega), rfl, fun x d => ?_⟩
  rw [reserved_storeAccount hd]

theorem Issued.slashReserved (hd : HookSound dust) (h : Issued s) (c : CurrencyId) (who : AccountId) (value : Nat) :
    Issued (Tokens.slashReserved T dust c who value s).2 ∧
      (Tokens.slashReserved T dust c who value s).1 = value - min (s.account who c).reserved value ∧
      ∀ x d, ((Tokens.slashReserved T dust c who value s).2.account x d).reserved =
        if x = who ∧ d = c then (s.account who c).reserved - min (s.account who c).reserved value
        else (s.account x d).reserved := by
  by_cases hv : value = 0
  · subst hv
    have h0 : Tokens.slashReserved T dust c who 0 s = (0, s) := by simp [Tokens.slashReserved]
    refine ⟨h0 ▸ h, by simp [h0], fun x d => ?_⟩
    rw [h0]
    split_ifs with hxd
    · rw [hxd.1, hxd.2, Nat.min_zero, Nat.sub_zero]
    · rfl
  unfold Tokens.slashReserved
  rw [if_neg hv]
  dsimp only
  rw [mutateAccount_snd]
  dsimp only
  set actual := min (s.account who c).reserved value
  set a : AccountData := { s.account who c with reserved := (s.account who c).reserved - actual }
  have hk : Keeps (s.setAccount who c (settle T who c a).1) (Tokens.storeAccount T dust who c a s).2 who :=
    keeps_storeAccount hd who c a s
  refine ⟨⟨fun d => ?_, fun d => ?_⟩, rfl, fun x d => ?_⟩
  · by_cases hdc : d = c
    · -- the debit is burnt from the issuance after the hook
      rw [hdc]
      have hdebit : Backed (s.setAccount who c (settle T who c a).1) c (0 + actual) 0 :=
        (h.backed c).setAccount_debit (by unfold holding; dsimp only [a]; omega)
      have hburn := (hk.backed c _ _ hdebit).burn
      unfold Backed at hburn ⊢
      simpa [Function.update_self] using hburn
    · have hb := hk.backed d 0 0 ((h.setAccount (a := a) (by unfold holding; dsimp only [a]; omega)).backed d)
      unfold Backed at hb ⊢
      simpa [Function.update_of_ne hdc] using hb
  · rw [State.setTotalIssuance_totalIssuance]
    have hle := (hk.totalIssuance_le d).trans_lt (h.lt d)
    by_cases hdc : d = c
    · rw [hdc, Function.update_self]
      rw [hdc] at hle
      omega
    · rw [Function.update_of_ne hdc]
      exact hle
  · rw [State.account_setTotalIssuance, reserved_storeAccount hd]

/-- A credit of up to `m` to one account, then a debit of `m` from another's
reserve, each through `try_mutate_account`: `repatriate_reserved` between two
accounts. The credit comes first, so the issuance is raised by `m` until the
debit. -/
theorem Issued.credit_then_debit (hd : HookSound dust) (h : Issued s) {c : CurrencyId}
    {slashed beneficiary : AccountId} (hne : slashed ≠ beneficiary) {a : AccountData} {m : Nat}
    (ha : a.free + a.reserved ≤ holding s c beneficiary + m) (hm : m ≤ (s.account slashed c).reserved)
    {s₁ : State AccountId CurrencyId LockId} (hs₁ : s₁ = (Tokens.storeAccount T dust beneficiary c a s).2) :
    Issued (Tokens.storeAccount T dust slashed c
        { s₁.account slashed c with reserved := (s.account slashed c).reserved - m } s₁).2 ∧
      ∀ x d, ((Tokens.storeAccount T dust slashed c
          { s₁.account slashed c with reserved := (s.account slashed c).reserved - m } s₁).2.account x d).reserved =
        if x = slashed ∧ d = c then (s.account slashed c).reserved - m
        else if x = beneficiary ∧ d = c then a.reserved else (s.account x d).reserved := by
  set a₂ : AccountData := { s₁.account slashed c with reserved := (s.account slashed c).reserved - m }
  have hk₁ : Keeps (s.setAccount beneficiary c (settle T beneficiary c a).1) s₁ beneficiary :=
    hs₁ ▸ keeps_storeAccount hd beneficiary c a s
  have hk₂ : Keeps (s₁.setAccount slashed c (settle T slashed c a₂).1) (Tokens.storeAccount T dust slashed c a₂ s₁).2
      slashed := keeps_storeAccount hd slashed c a₂ s₁
  have hres₁ : ∀ x d, (s₁.account x d).reserved =
      if x = beneficiary ∧ d = c then a.reserved else (s.account x d).reserved := fun x d => by
    rw [hk₁.reserved, reserved_setAccount_settle]
  refine ⟨⟨fun d => ?_, fun d => ?_⟩, fun x d => ?_⟩
  · by_cases hdc : d = c
    · rw [hdc]
      have h₀ : Backed s c (0 + m) m := by
        have hissue := (h.backed c).issue (d := m)
        unfold Backed at hissue ⊢
        simpa using hissue
      have h₂ : Backed s₁ c 0 m := hk₁.backed c 0 m (h₀.setAccount_credit ha)
      have hslashed : (s₁.account slashed c).reserved = (s.account slashed c).reserved := by
        rw [hres₁, if_neg fun h => hne h.1]
      have h₄ := hk₂.backed c _ _ (h₂.setAccount_debit (a := a₂) (m := m)
        (by unfold holding; dsimp only [a₂]; omega))
      have hburn := h₄.burn
      unfold Backed at hburn ⊢
      simpa using hburn
    · have h₂ : Backed s₁ d 0 0 := hk₁.backed d 0 0 ((h.backed d).setAccount_of_ne _ hdc)
      exact hk₂.backed d 0 0 (h₂.setAccount_of_ne _ hdc)
  · refine lt_of_le_of_lt (hk₂.totalIssuance_le d) (lt_of_le_of_lt (hk₁.totalIssuance_le d) (h.lt d))
  · rw [hk₂.reserved, reserved_setAccount_settle, hres₁]

/-- `repatriate_reserved` between two accounts moves what it can of `value`
from the slashed account's reserve to the beneficiary, to its free or its
reserved balance as `status` says, and returns the rest. Below the issuance
the beneficiary's balance cannot saturate. -/
theorem Issued.repatriateReserved (hd : HookSound dust) (h : Issued s) (c : CurrencyId)
    {slashed beneficiary : AccountId} (hne : slashed ≠ beneficiary) (value : Nat) (status : BalanceStatus) :
    Issued (Tokens.repatriateReserved T dust c slashed beneficiary value status s).2 ∧
      (Tokens.repatriateReserved T dust c slashed beneficiary value status s).1 =
        value - min (s.account slashed c).reserved value ∧
      ∀ x d, ((Tokens.repatriateReserved T dust c slashed beneficiary value status s).2.account x d).reserved =
        if x = slashed ∧ d = c then (s.account slashed c).reserved - min (s.account slashed c).reserved value
        else if x = beneficiary ∧ d = c ∧ status = .reserved then
          (s.account beneficiary c).reserved + min (s.account slashed c).reserved value
        else (s.account x d).reserved := by
  by_cases hv : value = 0
  · subst hv
    have h0 : Tokens.repatriateReserved T dust c slashed beneficiary 0 status s = (0, s) := by
      simp [Tokens.repatriateReserved]
    refine ⟨h0 ▸ h, by simp [h0], fun x d => ?_⟩
    rw [h0]
    split_ifs with h₁ h₂
    · rw [h₁.1, h₁.2, Nat.min_zero, Nat.sub_zero]
    · rw [h₂.1, h₂.2.1, Nat.min_zero, Nat.add_zero]
    · rfl
  have hlt := h.holding_add_lt c hne
  unfold holding at hlt
  unfold Tokens.repatriateReserved
  rw [if_neg hv, if_neg hne]
  dsimp only
  cases status with
  | free =>
      rw [setFreeBalance, setReservedBalance, mutateAccount_snd, mutateAccount_snd]
      dsimp only
      obtain ⟨hI, hres⟩ := h.credit_then_debit hd hne (m := min (s.account slashed c).reserved value)
        (a := { s.account beneficiary c with
          free := Balance.saturatingAdd (s.account beneficiary c).free (min (s.account slashed c).reserved value) })
        (by unfold holding; simp only [Balance.saturatingAdd]; omega) (min_le_left _ _) rfl
      refine ⟨hI, rfl, fun x d => ?_⟩
      rw [hres]
      split_ifs with h₁ h₂ h₃ <;> simp_all
  | reserved =>
      rw [setReservedBalance, setReservedBalance, mutateAccount_snd, mutateAccount_snd]
      dsimp only
      obtain ⟨hI, hres⟩ := h.credit_then_debit hd hne (m := min (s.account slashed c).reserved value)
        (a := { s.account beneficiary c with
          reserved := Balance.saturatingAdd (s.account beneficiary c).reserved
            (min (s.account slashed c).reserved value) })
        (by unfold holding; simp only [Balance.saturatingAdd]; omega) (min_le_left _ _) rfl
      have hsat : Balance.saturatingAdd (s.account beneficiary c).reserved (min (s.account slashed c).reserved value) =
          (s.account beneficiary c).reserved + min (s.account slashed c).reserved value :=
        Balance.saturatingAdd_eq (by omega)
      refine ⟨hI, rfl, fun x d => ?_⟩
      rw [hres]
      split_ifs with h₁ h₂ h₃ <;> simp_all

/-! ## Genesis -/

omit [DecidableEq AccountId] [DecidableEq CurrencyId] in
theorem Issued.empty : Issued (State.empty : State AccountId CurrencyId LockId) where
  backed c F := by simp [holding, State.account, State.empty, default]
  lt c := by simp [State.empty]

theorem Issued.buildEntry (hd : HookSound dust) (h : Issued s)
    {e : AccountId × CurrencyId × Nat} (he : Tokens.buildEntry T dust s e = some s') : Issued s' := by
  obtain ⟨who, c, initialBalance⟩ := e
  unfold Tokens.buildEntry at he
  dsimp only at he
  split_ifs at he with hed
  rw [mutateAccount_snd] at he
  dsimp only at he
  set a : AccountData := { s.account who c with free := initialBalance }
  have hk : Keeps (s.setAccount who c (settle T who c a).1) (Tokens.storeAccount T dust who c a s).2 who :=
    keeps_storeAccount hd who c a s
  obtain ⟨t, ht, rfl⟩ := Option.map_eq_some_iff.1 he
  obtain ⟨hlt, rfl⟩ := Balance.checkedAdd_eq_some.1 ht
  refine ⟨fun d => ?_, fun d => ?_⟩
  · by_cases hdc : d = c
    · rw [hdc]
      have h₀ : Backed s c (0 + initialBalance) initialBalance := by
        have hissue := (h.backed c).issue (d := initialBalance)
        unfold Backed at hissue ⊢
        simpa using hissue
      have h₂ := hk.backed c 0 _ (h₀.setAccount_credit (by unfold holding; dsimp only [a]; omega))
      unfold Backed at h₂ ⊢
      simpa [Function.update_self] using h₂
    · have h₂ := hk.backed d 0 0 ((h.backed d).setAccount_of_ne _ hdc)
      unfold Backed at h₂ ⊢
      simpa [Function.update_of_ne hdc] using h₂
  · rw [State.setTotalIssuance_totalIssuance]
    by_cases hdc : d = c
    · rw [hdc, Function.update_self]
      exact hlt
    · rw [Function.update_of_ne hdc]
      exact (hk.totalIssuance_le d).trans_lt (h.lt d)

theorem Issued.build (hd : HookSound dust) {g : GenesisConfig AccountId CurrencyId}
    (hb : g.build T dust State.empty = some s) : Issued s := by
  unfold GenesisConfig.build at hb
  split_ifs at hb
  -- the fold over the entries, from any state that has the invariant
  have hfold : ∀ (l : List (AccountId × CurrencyId × Nat)) (s₀ : State AccountId CurrencyId LockId),
      Issued s₀ → l.foldlM (Tokens.buildEntry T dust) s₀ = some s → Issued s := by
    intro l
    induction l with
    | nil =>
        intro s₀ h₀ hl
        cases hl
        exact h₀
    | cons e l ih =>
        intro s₀ h₀ hl
        rw [List.foldlM_cons] at hl
        obtain ⟨s₁, h₁, hrest⟩ := Option.bind_eq_some_iff.1 hl
        exact ih s₁ (h₀.buildEntry hd h₁) hrest
  exact hfold _ _ Issued.empty hb

end Issued

end Setheum.Tokens
