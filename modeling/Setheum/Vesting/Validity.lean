import Setheum.Vesting.Reference

/-!
# Stored vesting schedules

`locked_amount` expects a valid schedule: a nonzero period and a total that
does not overflow. `ensure_valid_vesting_schedule` checks that, and an end
that does not overflow, in the genesis build and in `vested_transfer`, and
`locked_balance` only ever drops schedules; so every call but root's
`update_vesting_schedules` keeps every stored schedule valid, and on such a
state `locked_balance` never panics. `update_vesting_schedules` checks only
how many schedules it is given: root can store a schedule whose end overflows,
as long as `locked_amount` does not panic on it at the time of the call.
-/

namespace Setheum.Vesting

open Result Transition

namespace VestingSchedule

/-- What `ensure_valid_vesting_schedule` checks of the schedule itself. -/
def Valid (s : VestingSchedule) : Prop :=
  s.period ≠ 0 ∧ s.periodCount ≠ 0 ∧ s.end.isSome ∧ s.totalAmount.isSome

instance : DecidablePred Valid := fun s => by unfold Valid; infer_instance

theorem lockedAmount_lt {s : VestingSchedule} {time a : Nat} (h : s.lockedAmount time = some a) :
    a < 2 ^ 128 := by
  unfold lockedAmount at h
  split_ifs at h
  obtain ⟨hlt, rfl⟩ := Balance.checkedMul_eq_some.1 h
  exact hlt

theorem lockedAmount_of_valid {s : VestingSchedule} (h : s.Valid) (time : Nat) :
    ∃ a, s.lockedAmount time = some a ∧ a ≤ s.perPeriod * s.periodCount := by
  obtain ⟨hperiod, -, -, htotal⟩ := h
  have hlt : s.perPeriod * s.periodCount < 2 ^ 128 := by
    obtain ⟨total, htotal⟩ := Option.isSome_iff_exists.1 htotal
    exact (Balance.checkedMul_eq_some.1 htotal).1
  have hle : s.perPeriod * (s.periodCount - (time - s.start) / s.period) ≤
      s.perPeriod * s.periodCount := Nat.mul_le_mul_left _ (Nat.sub_le _ _)
  refine ⟨_, ?_, hle⟩
  simp only [lockedAmount, hperiod, if_false]
  exact Balance.checkedMul_eq_some.2 ⟨lt_of_le_of_lt hle hlt, rfl⟩

end VestingSchedule

/-! ## The `retain` pass of `locked_balance` -/

theorem retainLocked_sublist {now : Nat} :
    ∀ {l kept : List VestingSchedule} {total t : Nat},
      retainLocked now total l = some (kept, t) → kept.Sublist l
  | [], kept, total, t, h => by
      simp only [retainLocked, Option.some.injEq, Prod.mk.injEq] at h
      rw [← h.1]
  | schedule :: rest, kept, total, t, h => by
      simp only [retainLocked, Option.bind_eq_bind, Option.bind_eq_some_iff] at h
      obtain ⟨amount, -, ⟨kept', t'⟩, hrest, h⟩ := h
      simp only [Option.pure_def, Option.some.injEq, Prod.mk.injEq] at h
      have ih := retainLocked_sublist hrest
      rw [← h.1]
      split_ifs
      · exact ih.cons _
      · exact ih.cons_cons _

theorem retainLocked_of_valid (now : Nat) :
    ∀ {l : List VestingSchedule} (total : Nat), (∀ s ∈ l, s.Valid) →
      ∃ r, retainLocked now total l = some r
  | [], total, _ => ⟨_, rfl⟩
  | schedule :: rest, total, hl => by
      obtain ⟨amount, hamount, -⟩ :=
        VestingSchedule.lockedAmount_of_valid (hl schedule List.mem_cons_self) now
      obtain ⟨⟨kept, t⟩, hrest⟩ := retainLocked_of_valid now (Balance.saturatingAdd total amount)
        fun s hs => hl s (List.mem_cons_of_mem _ hs)
      exact ⟨(if amount = 0 then kept else schedule :: kept, t),
        by simp [retainLocked, hamount, hrest]⟩

variable {AccountId L : Type} [DecidableEq AccountId] (T : Config AccountId L)

/-! ## Valid states -/

/-- Every stored schedule is valid. -/
def SchedulesValid (s : State AccountId L) : Prop :=
  ∀ who, ∀ schedule ∈ s.nativeVestingSchedules who, schedule.Valid

/-- The schedules of `s'` are sublists of those of `s`. -/
def Drops (s s' : State AccountId L) : Prop :=
  ∀ who, (s'.nativeVestingSchedules who).Sublist (s.nativeVestingSchedules who)

omit [DecidableEq AccountId] in
theorem SchedulesValid.of_drops {s s' : State AccountId L} (hs : SchedulesValid s)
    (h : Drops s s') : SchedulesValid s' :=
  fun who schedule hmem => hs who schedule ((h who).subset hmem)

theorem SchedulesValid.setSchedules {s : State AccountId L} {who : AccountId}
    {l : List VestingSchedule} (hs : SchedulesValid s) (hl : ∀ schedule ∈ l, schedule.Valid) :
    SchedulesValid (s.setSchedules who l) := by
  intro w schedule hmem
  by_cases hw : w = who
  · subst hw
    simp only [State.setSchedules_schedules, Function.update_self] at hmem
    exact hl schedule hmem
  · simp only [State.setSchedules_schedules, Function.update_of_ne hw] at hmem
    exact hs w schedule hmem

theorem SchedulesValid.append {s : State AccountId L} {who : AccountId} {schedule : VestingSchedule}
    (hs : SchedulesValid s) (hvalid : schedule.Valid) :
    SchedulesValid (s.setSchedules who (s.nativeVestingSchedules who ++ [schedule])) := by
  refine hs.setSchedules fun x hx => ?_
  rcases List.mem_append.1 hx with hx | hx
  · exact hs who x hx
  · rw [List.mem_singleton.1 hx]
    exact hvalid

omit [DecidableEq AccountId] in
@[simp] theorem schedulesValid_setLedger {s : State AccountId L} {l : L} :
    SchedulesValid (s.setLedger l) ↔ SchedulesValid s := Iff.rfl

/-! ## What each operation does to the schedules -/

omit [DecidableEq AccountId] in
theorem ensureValidVestingSchedule_ok {c : CurrencyId} {schedule : VestingSchedule} {total : Nat}
    (h : ensureValidVestingSchedule T c schedule = .ok total) :
    schedule.Valid ∧ schedule.totalAmount = some total := by
  simp only [ensureValidVestingSchedule, bind_eq_ok, ensure_eq_ok, okOr_eq_ok] at h
  obtain ⟨_, hperiod, _, hcount, _, hend, t, ht, hmin⟩ := h
  have htotal : t = total := by
    split_ifs at hmin
    · simp only [bind_eq_ok, ensure_eq_ok, pure_eq_ok] at hmin
      obtain ⟨_, -, h⟩ := hmin
      exact h
    · exact pure_eq_ok.1 hmin
  subst htotal
  refine ⟨⟨?_, ?_, hend, by rw [ht]; rfl⟩, ht⟩
  · simpa using hperiod
  · simpa using hcount

omit [DecidableEq AccountId] in
theorem Drops.refl (s : State AccountId L) : Drops s s := fun _ => List.Sublist.refl _

omit [DecidableEq AccountId] in
theorem Drops.trans {s₁ s₂ s₃ : State AccountId L} (h₁ : Drops s₁ s₂) (h₂ : Drops s₂ s₃) :
    Drops s₁ s₃ :=
  fun who => (h₂ who).trans (h₁ who)

omit [DecidableEq AccountId] in
@[simp] theorem drops_setLedger {s s' : State AccountId L} {l : L} :
    Drops s (s'.setLedger l) ↔ Drops s s' := Iff.rfl

theorem drops_setSchedules {s : State AccountId L} {who : AccountId} {l : List VestingSchedule}
    (h : l.Sublist (s.nativeVestingSchedules who)) : Drops s (s.setSchedules who l) := by
  intro w
  by_cases hw : w = who
  · subst hw
    simpa using h
  · simp [Function.update_of_ne hw]

theorem lockedBalance_ok {c : CurrencyId} {who : AccountId} {s s' : State AccountId L} {total : Nat}
    (h : lockedBalance T c who s = .ok (total, s')) :
    s'.ledger = s.ledger ∧ s'.blockNumber = s.blockNumber ∧ Drops s s' := by
  unfold lockedBalance at h
  split_ifs at h
  · simp only [bind_eq_ok, okOr_eq_ok, pure_eq_ok] at h
    obtain ⟨⟨kept, t⟩, hretain, h⟩ := h
    obtain ⟨-, rfl⟩ := Prod.mk.inj h
    refine ⟨rfl, rfl, drops_setSchedules ?_⟩
    split_ifs
    · exact List.nil_sublist _
    · exact retainLocked_sublist hretain
  · obtain ⟨-, rfl⟩ := Prod.mk.inj (pure_eq_ok.1 h)
    exact ⟨rfl, rfl, Drops.refl s⟩

theorem doClaim_drops {c : CurrencyId} {who : AccountId} {s s' : State AccountId L} {r : Nat}
    (h : doClaim T c who s = .ok (r, s')) : Drops s s' := by
  simp only [doClaim, bind_eq_ok] at h
  obtain ⟨⟨locked, s₁⟩, hlocked, h⟩ := h
  have h₁ := (lockedBalance_ok T hlocked).2.2
  split_ifs at h
  · obtain ⟨-, rfl⟩ := Prod.mk.inj (pure_eq_ok.1 h)
    exact h₁.trans (drops_setSchedules (List.nil_sublist _))
  · obtain ⟨-, rfl⟩ := Prod.mk.inj (pure_eq_ok.1 h)
    exact h₁
  · obtain ⟨-, rfl⟩ := Prod.mk.inj (pure_eq_ok.1 h)
    exact h₁

theorem doVestedTransfer_schedulesValid {c : CurrencyId} {src dst : AccountId}
    {schedule : VestingSchedule} {s s' : State AccountId L} (hs : SchedulesValid s)
    (h : doVestedTransfer T c src dst schedule s = .ok s') : SchedulesValid s' := by
  unfold doVestedTransfer at h
  split_ifs at h
  · simp only [bind_eq_ok, okOr_eq_ok, ensure_eq_ok, pure_eq_ok] at h
    obtain ⟨total, hvalid, ledger, -, _, -, ⟨locked, s₁⟩, hlocked, ledger', -, rfl⟩ := h
    have hs₁ : SchedulesValid ((s.setLedger ledger).setSchedules dst
        ((s.setLedger ledger).nativeVestingSchedules dst ++ [schedule])) :=
      (schedulesValid_setLedger.2 hs).append (ensureValidVestingSchedule_ok T hvalid).1
    exact schedulesValid_setLedger.2 (hs₁.of_drops (lockedBalance_ok T hlocked).2.2)
  · rw [← pure_eq_ok.1 h]
    exact hs

theorem doUpdateVestingSchedules_schedulesValid {c : CurrencyId} {who : AccountId}
    {schedules : List VestingSchedule} {s s' : State AccountId L} (hs : SchedulesValid s)
    (hl : ∀ x ∈ schedules, x.Valid)
    (h : doUpdateVestingSchedules T c who schedules s = .ok s') : SchedulesValid s' := by
  unfold doUpdateVestingSchedules at h
  split_ifs at h
  · -- no schedules: the entry is removed
    simp only [bind_eq_ok, ensure_eq_ok, pure_eq_ok] at h
    obtain ⟨_, -, rfl⟩ := h
    exact schedulesValid_setLedger.2 (hs.setSchedules (by simp))
  · simp only [bind_eq_ok, okOr_eq_ok, ensure_eq_ok, pure_eq_ok] at h
    obtain ⟨_, -, ⟨locked, s₁⟩, hlocked, _, -, ledger, -, rfl⟩ := h
    exact schedulesValid_setLedger.2 ((hs.setSchedules hl).of_drops (lockedBalance_ok T hlocked).2.2)
  · rw [← pure_eq_ok.1 h]
    exact hs

/-! ## Over whole runs -/

/-- The calls that give `update_vesting_schedules` only valid schedules; every
other call qualifies. -/
def Call.Validated : Call AccountId → Prop
  | .updateVestingSchedules _ _ schedules => ∀ x ∈ schedules, x.Valid
  | _ => True

instance : DecidablePred (@Call.Validated AccountId) := fun call => by
  cases call <;> unfold Call.Validated <;> infer_instance

theorem dispatch_schedulesValid {s s' : State AccountId L} {call : Call AccountId}
    (hcall : call.Validated) (hs : SchedulesValid s) (h : dispatch T s call = .ok s') :
    SchedulesValid s' := by
  cases call with
  | claim who c =>
      simp only [dispatch, bind_eq_ok, pure_eq_ok] at h
      obtain ⟨⟨r, s₁⟩, hclaim, rfl⟩ := h
      exact hs.of_drops (doClaim_drops T hclaim)
  | vestedTransfer src c dst schedule =>
      simp only [dispatch] at h
      split_ifs at h
      · simp only [bind_eq_ok] at h
        obtain ⟨_, -, _, -, h⟩ := h
        exact doVestedTransfer_schedulesValid T hs h
      · exact doVestedTransfer_schedulesValid T hs h
  | updateVestingSchedules c who schedules =>
      exact doUpdateVestingSchedules_schedulesValid T hs hcall h
  | claimFor c dst =>
      simp only [dispatch, bind_eq_ok, pure_eq_ok] at h
      obtain ⟨⟨r, s₁⟩, hclaim, rfl⟩ := h
      exact hs.of_drops (doClaim_drops T hclaim)
  | newBlock =>
      simp only [dispatch, pure_eq_ok] at h
      subst h
      exact hs

theorem buildEntry_schedulesValid {s s' : State AccountId L}
    {e : AccountId × CurrencyId × VestingSchedule} (hs : SchedulesValid s)
    (h : buildEntry T s e = some s') : SchedulesValid s' := by
  obtain ⟨who, c, schedule⟩ := e
  simp only [buildEntry] at h
  split_ifs at h
  · simp only [Option.bind_eq_bind, Option.bind_eq_some_iff, toOption_eq_some] at h
    obtain ⟨total, hvalid, h⟩ := h
    split_ifs at h with hcheck
    · simp only [Option.bind_eq_some_iff, toOption_eq_some] at h
      obtain ⟨⟨locked, s₁⟩, hlocked, h⟩ := h
      rw [← Option.some.inj h]
      exact schedulesValid_setLedger.2
        ((hs.append (ensureValidVestingSchedule_ok T hvalid).1).of_drops (lockedBalance_ok T hlocked).2.2)
  · rw [← Option.some.inj h]
    exact hs

theorem schedulesValid_init {s : State AccountId L} (h : (system T).init s) : SchedulesValid s := by
  obtain ⟨g, ledger, hbuild⟩ := h
  have hempty : SchedulesValid (⟨fun _ => [], ledger, 0⟩ : State AccountId L) :=
    fun _ _ hmem => absurd hmem List.not_mem_nil
  exact foldlM_invariant (fun _ _ _ _ hs he => buildEntry_schedulesValid T hs he) hempty hbuild

theorem schedulesValid_of_validated : Invariant ((system T).restrict Call.Validated) SchedulesValid := by
  apply invariant_of_inductive
  · exact fun s h => schedulesValid_init T h
  · intro s t call hs hstep
    obtain ⟨hcall, hstep⟩ := System.restrict_step_eq_some.1 hstep
    exact dispatch_schedulesValid T hcall hs (toOption_eq_some.1 hstep)

theorem lockedBalance_of_schedulesValid {s : State AccountId L} (hs : SchedulesValid s)
    (c : CurrencyId) (who : AccountId) : ∃ r, lockedBalance T c who s = .ok r := by
  unfold lockedBalance
  split_ifs
  · obtain ⟨⟨kept, t⟩, hretain⟩ := retainLocked_of_valid s.blockNumber 0 (hs who)
    exact ⟨_, by rw [hretain]; rfl⟩
  · exact ⟨_, rfl⟩

theorem dispatch_claim_ok {s : State AccountId L} (hs : SchedulesValid s) (who : AccountId)
    (c : CurrencyId) : ∃ s', dispatch T s (.claim who c) = .ok s' := by
  obtain ⟨⟨locked, s₁⟩, hlocked⟩ := lockedBalance_of_schedulesValid T hs c who
  simp only [dispatch, doClaim, hlocked, ok_bind]
  split_ifs <;> exact ⟨_, rfl⟩

/-- In every state reached from a genesis build by calls that give
`update_vesting_schedules` only valid schedules, every stored schedule has a
nonzero period and period count, an end and a total that do not overflow, and
every account's `claim` of every currency succeeds. -/
theorem validated_runs_keep_claims_ok {s : State AccountId L}
    (hs : Reachable ((system T).restrict Call.Validated) s) :
    SchedulesValid s ∧ ∀ who c, ∃ s', dispatch T s (.claim who c) = .ok s' := by
  have hvalid := schedulesValid_of_validated T s hs
  exact ⟨hvalid, fun who c => dispatch_claim_ok T hvalid who c⟩

namespace Reference

/-- After a new block and Alice's claim, every stored schedule is valid and
every claim succeeds. -/
theorem claimed_claims_ok :
    let s := ((system vestingConfig).restrict Call.Validated).run genesisState
      [.newBlock, .claim .alice (.token .SEU)]
    SchedulesValid s ∧ ∀ who c, ∃ s', dispatch vestingConfig s (.claim who c) = .ok s' := by
  have hinit : ((system vestingConfig).restrict Call.Validated).init genesisState := genesisState_init
  exact validated_runs_keep_claims_ok vestingConfig ((Reachable.init hinit).run _)

end Reference

/-! ## Root's update -/

/-- `update_vesting_schedules` stores a schedule without validating it: a
schedule that locks a positive amount at the current block, within the free
balance, is stored as soon as the currency takes the lock, whatever its end
and its total. -/
theorem updateVestingSchedules_stores_unvalidated {s : State AccountId L} {who : AccountId}
    {schedule : VestingSchedule} {locked : Nat} {ledger : L}
    (hmax : 1 ≤ T.maxNativeVestingSchedules)
    (hlocked : schedule.lockedAmount s.blockNumber = some locked) (hpos : locked ≠ 0)
    (hfree : locked ≤ T.currency.freeBalance s.ledger who)
    (hlock : T.currency.setLock who locked s.ledger = some ledger) :
    dispatch T s (.updateVestingSchedules T.nativeCurrencyId who [schedule]) =
      .ok ((s.setSchedules who [schedule]).setLedger ledger) := by
  have hretain : retainLocked s.blockNumber 0 [schedule] = some ([schedule], locked) := by
    simp [retainLocked, hlocked, hpos,
      Balance.saturatingAdd_eq (show 0 + locked < 2 ^ 128 by simpa using VestingSchedule.lockedAmount_lt hlocked)]
  have hbalance : lockedBalance T T.nativeCurrencyId who (s.setSchedules who [schedule]) =
      .ok (locked, s.setSchedules who [schedule]) := by
    simp [lockedBalance, hretain, hpos, okOr]
  simp only [dispatch, doUpdateVestingSchedules, if_true, List.isEmpty_cons, Bool.false_eq_true,
    if_false, bind_eq_ok, ensure_eq_ok, okOr_eq_ok, pure_eq_ok, decide_eq_true_eq,
    List.length_singleton]
  exact ⟨(), hmax, _, hbalance, (), hfree, ledger, hlock, rfl⟩

namespace Reference

/-- A schedule that starts at the last `u32` block: its end overflows. -/
def overflowingSchedule : VestingSchedule := ⟨2 ^ 32 - 1, 1, 1, 10⟩

/-- At genesis root replaces Alice's schedule by one whose end overflows; the
update succeeds and leaves a reachable state with an invalid stored schedule. -/
theorem updateVestingSchedules_stores_unvalidated_reference :
    ∃ s, Reachable (system vestingConfig) s ∧
      s.nativeVestingSchedules .alice = [overflowingSchedule] ∧
      overflowingSchedule.end = none ∧ ¬ SchedulesValid s := by
  obtain ⟨ledger, hledger⟩ := Option.isSome_iff_exists.1
    (by decide : (vestingConfig.currency.setLock .alice 10 genesisState.ledger).isSome)
  have h := updateVestingSchedules_stores_unvalidated vestingConfig (by decide)
    (by decide : overflowingSchedule.lockedAmount genesisState.blockNumber = some 10)
    (by decide) (by decide) hledger
  have hinvalid : ¬ overflowingSchedule.Valid := by decide
  refine ⟨_, .step _ (.init genesisState_init) (toOption_eq_some.2 h), by simp, by decide, ?_⟩
  exact fun hs => hinvalid (hs .alice overflowingSchedule (by simp))

end Reference

end Setheum.Vesting
