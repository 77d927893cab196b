import Setheum.Tokens.Runs

/-!
# Lock lists of the tokens pallet

`set_lock` and `extend_lock` pass the account's locks through a `filter_map`
that merges the first lock with the id into the new lock and drops later ones
with it, and append the new lock when no lock had the id; `remove_lock`
filters the id out. `update_locks` refuses a list longer than `MaxLocks`. No
other call, and not the dust hook, writes a lock list. So in every state a run
reaches, the ids of an account's locks are distinct and there are at most
`MaxLocks` of them.
-/

namespace Setheum.Tokens

open Result Transition

variable {AccountId CurrencyId LockId : Type} [DecidableEq AccountId] [DecidableEq CurrencyId]
variable {T : Config AccountId CurrencyId} {dust : DustHook AccountId CurrencyId LockId}
variable {s s' : State AccountId CurrencyId LockId}

/-! ## The merge pass -/

section Merge

variable [DecidableEq LockId]

/-- The pass that `set_lock` and `extend_lock` share: the first lock with the
id is merged with the new lock, which is then taken, later locks with the id
are dropped, and the new lock is left over if no lock had the id. -/
def mergeLocks (g : BalanceLock LockId → BalanceLock LockId → BalanceLock LockId) (lockId : LockId) :
    Option (BalanceLock LockId) → List (BalanceLock LockId) →
      List (BalanceLock LockId) × Option (BalanceLock LockId)
  | newLock, [] => ([], newLock)
  | newLock, lock :: rest =>
      if lock.id = lockId then
        let (rest, left) := mergeLocks g lockId none rest
        match newLock with
        | some l => (g lock l :: rest, left)
        | none => (rest, left)
      else
        let (rest, left) := mergeLocks g lockId newLock rest
        (lock :: rest, left)

variable {g : BalanceLock LockId → BalanceLock LockId → BalanceLock LockId} {lockId : LockId}

theorem replaceLock_eq_mergeLocks (newLock : Option (BalanceLock LockId)) (l : List (BalanceLock LockId)) :
    replaceLock lockId newLock l = mergeLocks (fun _ n => n) lockId newLock l := by
  induction l generalizing newLock with
  | nil => rfl
  | cons lock rest ih => cases newLock <;> simp only [replaceLock, mergeLocks, ih]

theorem extendLockList_eq_mergeLocks (newLock : Option (BalanceLock LockId)) (l : List (BalanceLock LockId)) :
    extendLockList lockId newLock l =
      mergeLocks (fun lock n => ⟨lock.id, max lock.amount n.amount⟩) lockId newLock l := by
  induction l generalizing newLock with
  | nil => rfl
  | cons lock rest ih => cases newLock <;> simp only [extendLockList, mergeLocks, ih]

omit [DecidableEq LockId] in
theorem pushLeft_cons (a : BalanceLock LockId) (l : List (BalanceLock LockId))
    (left : Option (BalanceLock LockId)) : pushLeft (a :: l, left) = a :: pushLeft (l, left) := by
  cases left <;> rfl

theorem mergeLocks_of_forall_ne {newLock : Option (BalanceLock LockId)} {l : List (BalanceLock LockId)}
    (h : ∀ x ∈ l, x.id ≠ lockId) : mergeLocks g lockId newLock l = (l, newLock) := by
  induction l with
  | nil => rfl
  | cons lock rest ih =>
      have hrest := ih fun x hx => h x (List.mem_cons_of_mem lock hx)
      simp only [mergeLocks, if_neg (h lock List.mem_cons_self), hrest]

variable (hg : ∀ lock n, lock.id = lockId → n.id = lockId → (g lock n).id = lockId)
include hg

theorem mem_pushLeft_mergeLocks {newLock : Option (BalanceLock LockId)} (hnew : ∀ n ∈ newLock, n.id = lockId)
    {l : List (BalanceLock LockId)} {x : BalanceLock LockId}
    (hx : x ∈ pushLeft (mergeLocks g lockId newLock l)) : x.id = lockId ∨ x ∈ l := by
  induction l generalizing newLock with
  | nil =>
      cases newLock with
      | none => simp [mergeLocks, pushLeft] at hx
      | some n =>
          have hxn : x = n := by simpa [mergeLocks, pushLeft] using hx
          exact .inl (hxn ▸ hnew n rfl)
  | cons lock rest ih =>
      by_cases hid : lock.id = lockId
      · have hrest := @ih none (by simp)
        simp only [mergeLocks, if_pos hid] at hx
        cases newLock with
        | none =>
            rcases hrest hx with h | h
            · exact .inl h
            · exact .inr (List.mem_cons_of_mem lock h)
        | some n =>
            rw [pushLeft_cons] at hx
            rcases List.mem_cons.1 hx with rfl | hx
            · exact .inl (hg lock n hid (hnew n rfl))
            · rcases hrest hx with h | h
              · exact .inl h
              · exact .inr (List.mem_cons_of_mem lock h)
      · simp only [mergeLocks, if_neg hid] at hx
        rw [pushLeft_cons] at hx
        rcases List.mem_cons.1 hx with rfl | hx
        · exact .inr List.mem_cons_self
        · rcases ih hnew hx with h | h
          · exact .inl h
          · exact .inr (List.mem_cons_of_mem lock h)

theorem nodup_pushLeft_mergeLocks {newLock : Option (BalanceLock LockId)} (hnew : ∀ n ∈ newLock, n.id = lockId)
    {l : List (BalanceLock LockId)} (hl : (l.map BalanceLock.id).Nodup) :
    ((pushLeft (mergeLocks g lockId newLock l)).map BalanceLock.id).Nodup := by
  induction l generalizing newLock with
  | nil => cases newLock <;> simp [mergeLocks, pushLeft]
  | cons lock rest ih =>
      rw [List.map_cons, List.nodup_cons] at hl
      obtain ⟨hlock, hrest⟩ := hl
      by_cases hid : lock.id = lockId
      · -- the only lock with the id: the rest passes through
        have hne : ∀ x ∈ rest, x.id ≠ lockId := fun x hx hx' =>
          hlock (hid ▸ hx' ▸ List.mem_map_of_mem hx)
        simp only [mergeLocks, if_pos hid, mergeLocks_of_forall_ne hne]
        cases newLock with
        | none => exact hrest
        | some n =>
            rw [pushLeft_cons, List.map_cons, List.nodup_cons]
            refine ⟨fun hmem => ?_, hrest⟩
            obtain ⟨x, hx, hxid⟩ := List.mem_map.1 hmem
            exact hne x hx (hxid.trans (hg lock n hid (hnew n rfl)))
      · simp only [mergeLocks, if_neg hid]
        rw [pushLeft_cons, List.map_cons, List.nodup_cons]
        refine ⟨fun hmem => ?_, ih hnew hrest⟩
        obtain ⟨x, hx, hxid⟩ := List.mem_map.1 hmem
        rcases mem_pushLeft_mergeLocks hg hnew hx with h | h
        · exact hid (hxid ▸ h)
        · exact hlock (hxid ▸ List.mem_map_of_mem h)

end Merge

/-! ## Writes that leave the lock lists -/

/-- A hook that writes no lock list. -/
def LocksKept (dust : DustHook AccountId CurrencyId LockId) : Prop :=
  ∀ who c amount s, (dust who c amount s).locks = s.locks

section Kept

variable (hd : LocksKept dust)
include hd

theorem locks_storeAccount (who : AccountId) (c : CurrencyId) (a : AccountData)
    (s : State AccountId CurrencyId LockId) : (storeAccount T dust who c a s).2.locks = s.locks := by
  rcases hset : settle T who c a with ⟨stored, _ | amount⟩ <;> simp only [storeAccount, hset]
  · rfl
  · rw [hd]
    rfl

theorem locks_mutateAccount {R : Type} (who : AccountId) (c : CurrencyId) (f : AccountData → Bool → R × AccountData)
    (s : State AccountId CurrencyId LockId) : (mutateAccount T dust who c f s).2.locks = s.locks := by
  rw [mutateAccount_snd]
  exact locks_storeAccount hd _ _ _ _

variable {c : CurrencyId} {who : AccountId}

theorem locks_doWithdraw {amount : Nat} {req : ExistenceRequirement}
    (hr : doWithdraw T dust c who amount req true s = .ok s') : s'.locks = s.locks := by
  by_cases hne : amount = 0
  · simp only [doWithdraw, hne, if_true, pure_eq_ok] at hr
    rw [hr]
  · obtain ⟨-, rfl⟩ := doWithdraw_ok hne hr
    exact locks_storeAccount hd _ _ _ _

theorem locks_doTransfer {src dst : AccountId} {amount : Nat} {req : ExistenceRequirement}
    (hr : doTransfer T dust c src dst amount req s = .ok s') : s'.locks = s.locks := by
  by_cases htriv : amount = 0 ∨ src = dst
  · simp only [doTransfer, htriv, if_true, pure_eq_ok] at hr
    rw [hr]
  · have hne : amount ≠ 0 := fun h0 => htriv (.inl h0)
    have hsd : src ≠ dst := fun h0 => htriv (.inr h0)
    obtain ⟨_, _, -, -, -, -, -, rfl⟩ := (doTransfer_eq_ok_iff dust hne hsd).mp hr
    rw [locks_storeAccount hd, locks_storeAccount hd]

theorem locks_doDeposit {amount r : Nat} (hr : doDeposit T dust c who amount false true s = .ok (r, s')) :
    s'.locks = s.locks := by
  by_cases hne : amount = 0
  · simp only [doDeposit, hne, if_true, pure_eq_ok, Prod.mk.injEq] at hr
    rw [hr.2]
  · obtain ⟨_, -, -, rfl⟩ := doDeposit_ok T dust hne hr
    exact locks_storeAccount hd _ _ _ _

theorem locks_setBalance {newFree newReserved : Nat}
    (hr : setBalance T dust who c newFree newReserved s = .ok s') : s'.locks = s.locks := by
  obtain ⟨f, r, sI, -, hsI, rfl⟩ := setBalance_ok hr
  rw [locks_storeAccount hd]
  rcases hsI with ⟨-, -, rfl⟩ | ⟨-, -, rfl⟩ | ⟨-, rfl⟩ <;> rfl

theorem locks_slash (amount : Nat) : (slash T dust c who amount s).2.locks = s.locks := by
  unfold slash
  split_ifs
  · rfl
  dsimp only
  simp only [apply_ite Prod.snd, State.setTotalIssuance_locks]
  split_ifs <;> simp only [setFreeBalance, setReservedBalance, locks_mutateAccount hd]

theorem locks_reserve {value : Nat} (hr : reserve T dust c who value s = .ok s') : s'.locks = s.locks := by
  unfold reserve at hr
  split_ifs at hr
  · rw [pure_eq_ok] at hr
    rw [hr]
  · obtain ⟨_, -, hs'⟩ := bind_eq_ok.1 hr
    rw [pure_eq_ok] at hs'
    rw [← hs', locks_mutateAccount hd]

theorem locks_unreserve (value : Nat) : (unreserve T dust c who value s).2.locks = s.locks := by
  unfold unreserve
  split_ifs
  · rfl
  · rw [mutateAccount_snd]
    exact locks_storeAccount hd _ _ _ _

theorem locks_slashReserved (value : Nat) : (slashReserved T dust c who value s).2.locks = s.locks := by
  unfold slashReserved
  split_ifs
  · rfl
  · simp only [State.setTotalIssuance_locks, locks_mutateAccount hd]

end Kept

omit [DecidableEq AccountId] [DecidableEq CurrencyId] in
theorem locks_getD {r : Except DispatchError (State AccountId CurrencyId LockId)}
    (h : ∀ s', r = .ok s' → s'.locks = s.locks) : (r.toOption.getD s).locks = s.locks := by
  cases r with
  | error e => rfl
  | ok s' => exact h s' rfl

variable (T) in
theorem locksKept_onDust (depth : Nat) : LocksKept (onDust T depth : DustHook AccountId CurrencyId LockId) := by
  induction depth with
  | zero => exact fun _ _ _ _ => rfl
  | succ depth ih =>
      intro who c amount s
      simp only [onDust]
      split
      · exact locks_getD fun _ h => locks_doWithdraw ih h
      · exact locks_getD fun _ h => locks_doTransfer ih h

/-! ## The invariant -/

/-- The lock lists are well formed: the ids of an account's locks are
distinct, and there are at most `MaxLocks` of them. -/
structure LocksWellFormed (T : Config AccountId CurrencyId) (s : State AccountId CurrencyId LockId) : Prop where
  nodup : ∀ who c, ((s.locks who c).map BalanceLock.id).Nodup
  length_le : ∀ who c, (s.locks who c).length ≤ T.maxLocks

section WellFormed

omit [DecidableEq AccountId] [DecidableEq CurrencyId] in
theorem LocksWellFormed.of_locks_eq (h : LocksWellFormed T s) (he : s'.locks = s.locks) :
    LocksWellFormed T s' :=
  ⟨fun who c => he ▸ h.nodup who c, fun who c => he ▸ h.length_le who c⟩

theorem LocksWellFormed.setLocks (h : LocksWellFormed T s) {who : AccountId} {c : CurrencyId}
    {l : List (BalanceLock LockId)} (hn : (l.map BalanceLock.id).Nodup) (hl : l.length ≤ T.maxLocks) :
    LocksWellFormed T (s.setLocks who c l) := by
  refine ⟨fun w d => ?_, fun w d => ?_⟩ <;> rw [State.setLocks_locks] <;> split_ifs
  · exact hn
  · exact h.nodup w d
  · exact hl
  · exact h.length_le w d

variable [DecidableEq LockId] {c : CurrencyId} {who : AccountId}

omit [DecidableEq LockId] in
/-- What `update_locks` did when it succeeded: `frozen` is written, and then
the list, which is no longer than `MaxLocks`, is stored (an empty one by
removing the entry). -/
theorem updateLocks_ok {locks : List (BalanceLock LockId)} (hr : updateLocks T dust c who locks s = .ok s') :
    locks.length ≤ T.maxLocks ∧
      s' = (mutateAccount T dust who c (fun account _ =>
        ((), { account with frozen := maxLockAmount locks })) s).2.setLocks who c locks := by
  unfold updateLocks at hr
  split_ifs at hr with hempty
  · rw [pure_eq_ok] at hr
    rw [List.isEmpty_iff] at hempty
    subst hempty
    exact ⟨Nat.zero_le _, hr.symm⟩
  · obtain ⟨_, hle, hs'⟩ := bind_eq_ok.1 hr
    rw [pure_eq_ok] at hs'
    exact ⟨of_decide_eq_true (ensure_eq_ok.1 hle), hs'.symm⟩

omit [DecidableEq LockId] in
theorem LocksWellFormed.updateLocks (hd : LocksKept dust) (h : LocksWellFormed T s)
    {locks : List (BalanceLock LockId)} (hn : (locks.map BalanceLock.id).Nodup)
    (hr : Tokens.updateLocks T dust c who locks s = .ok s') : LocksWellFormed T s' := by
  obtain ⟨hle, rfl⟩ := updateLocks_ok hr
  exact (h.of_locks_eq (locks_mutateAccount hd _ _ _ _)).setLocks hn hle

theorem LocksWellFormed.setLock (hd : LocksKept dust) (h : LocksWellFormed T s) {lockId : LockId}
    {amount : Nat} (hr : Tokens.setLock T dust lockId c who amount s = .ok s') : LocksWellFormed T s' := by
  unfold Tokens.setLock at hr
  split_ifs at hr
  · rw [pure_eq_ok] at hr
    exact hr ▸ h
  · refine h.updateLocks hd ?_ hr
    rw [replaceLock_eq_mergeLocks]
    exact nodup_pushLeft_mergeLocks (fun _ n _ hn => hn) (fun n hn => by rw [← Option.mem_some_iff.1 hn])
      (h.nodup who c)

theorem LocksWellFormed.extendLock (hd : LocksKept dust) (h : LocksWellFormed T s) {lockId : LockId}
    {amount : Nat} (hr : Tokens.extendLock T dust lockId c who amount s = .ok s') : LocksWellFormed T s' := by
  unfold Tokens.extendLock at hr
  split_ifs at hr
  · rw [pure_eq_ok] at hr
    exact hr ▸ h
  · refine h.updateLocks hd ?_ hr
    rw [extendLockList_eq_mergeLocks]
    refine nodup_pushLeft_mergeLocks ?_ (fun n hn => by rw [← Option.mem_some_iff.1 hn]) (h.nodup who c)
    exact fun _ _ hl _ => hl

theorem LocksWellFormed.removeLock (hd : LocksKept dust) (h : LocksWellFormed T s) {lockId : LockId}
    (hr : Tokens.removeLock T dust lockId c who s = .ok s') : LocksWellFormed T s' :=
  h.updateLocks hd ((h.nodup who c).sublist (List.Sublist.map BalanceLock.id List.filter_sublist)) hr

theorem LocksWellFormed.dispatch (hd : LocksKept dust) (h : LocksWellFormed T s)
    {call : Call AccountId CurrencyId LockId} (hr : Tokens.dispatch T dust s call = .ok s') :
    LocksWellFormed T s' := by
  cases call with
  | transfer src dst c amount => exact h.of_locks_eq (locks_doTransfer hd hr)
  | transferKeepAlive src dst c amount => exact h.of_locks_eq (locks_doTransfer hd hr)
  | forceTransfer src dst c amount => exact h.of_locks_eq (locks_doTransfer hd hr)
  | setBalance who c newFree newReserved => exact h.of_locks_eq (locks_setBalance hd hr)
  | deposit c who amount =>
      obtain ⟨⟨r, state⟩, hdep, hpure⟩ := bind_eq_ok.1 hr
      rw [pure_eq_ok] at hpure
      exact hpure ▸ h.of_locks_eq (locks_doDeposit hd hdep)
  | withdraw c who amount existenceRequirement => exact h.of_locks_eq (locks_doWithdraw hd hr)
  | slash c who amount =>
      rw [Tokens.dispatch, pure_eq_ok] at hr
      exact hr ▸ h.of_locks_eq (locks_slash hd amount)
  | reserve c who value => exact h.of_locks_eq (locks_reserve hd hr)
  | unreserve c who value =>
      rw [Tokens.dispatch, pure_eq_ok] at hr
      exact hr ▸ h.of_locks_eq (locks_unreserve hd value)
  | slashReserved c who value =>
      rw [Tokens.dispatch, pure_eq_ok] at hr
      exact hr ▸ h.of_locks_eq (locks_slashReserved hd value)
  | setLock lockId c who amount => exact h.setLock hd hr
  | extendLock lockId c who amount => exact h.extendLock hd hr
  | removeLock lockId c who => exact h.removeLock hd hr

omit [DecidableEq AccountId] [DecidableEq CurrencyId] [DecidableEq LockId] in
theorem LocksWellFormed.empty : LocksWellFormed T (State.empty : State AccountId CurrencyId LockId) :=
  ⟨fun _ _ => List.nodup_nil, fun _ _ => Nat.zero_le _⟩

omit [DecidableEq LockId] in
theorem LocksWellFormed.build (hd : LocksKept dust) {g : GenesisConfig AccountId CurrencyId}
    (hb : g.build T dust State.empty = some s) : LocksWellFormed T s := by
  unfold GenesisConfig.build at hb
  split_ifs at hb
  refine foldlM_invariant (fun s₀ e s₁ _ h₀ he => ?_) LocksWellFormed.empty hb
  obtain ⟨who, c, initialBalance⟩ := e
  unfold buildEntry at he
  dsimp only at he
  split_ifs at he
  obtain ⟨t, -, rfl⟩ := Option.map_eq_some_iff.1 he
  exact h₀.of_locks_eq (locks_mutateAccount hd _ _ _ _)

theorem locksWellFormed_reachable :
    Invariant (system T : Transition.System (State AccountId CurrencyId LockId) _) (LocksWellFormed T) :=
  invariant_of_inductive _ (fun _ ⟨_, hg⟩ => LocksWellFormed.build (locksKept_onDust T 1) hg)
    fun _ _ _ h hstep => h.dispatch (locksKept_onDust T 1) (toOption_eq_some.1 hstep)

/-- In every state the pallet reaches from a genesis build, by any calls, no
two locks of an account and currency share an id, and an account has at most
`MaxLocks` locks of a currency. -/
theorem lock_ids_distinct_and_bounded (hs : Reachable (system T) s) (who : AccountId) (c : CurrencyId) :
    ((s.locks who c).map BalanceLock.id).Nodup ∧ (s.locks who c).length ≤ T.maxLocks :=
  ⟨(locksWellFormed_reachable s hs).nodup who c, (locksWellFormed_reachable s hs).length_le who c⟩

end WellFormed

end Setheum.Tokens

namespace Setheum.Tokens.Reference

open Transition

/-- After Alice's lock of 100 SEU, her SEU locks have distinct ids and fit
under `MaxLocks`. -/
theorem locked_lock_ids_distinct :
    ((locked.locks .alice (.token .SEU)).map BalanceLock.id).Nodup ∧
      (locked.locks .alice (.token .SEU)).length ≤ testConfig.maxLocks :=
  lock_ids_distinct_and_bounded ((Reachable.init genesisState_init).run _) _ _

end Setheum.Tokens.Reference
