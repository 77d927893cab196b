import Setheum.Oracle.Median

/-!
# Runs of the oracle

Over every run the oracle's storage stays tidy: a raw value is kept only for a
current member or the root operator, since `change_members_sorted` clears the
outgoing members' values; no raw or combined value is stamped later than now;
and `HasDispatched` lists each account once and stays within
`MaxHasDispatchedSize`.
-/

namespace Setheum.Oracle

open Result Transition OrderStatistic

variable {AccountId Key Value : Type} [DecidableEq AccountId] [DecidableEq Key] [LinearOrder Value]
variable {T : Config AccountId}

/-- The oracle's storage is tidy. -/
structure Tidy (T : Config AccountId) (s : State AccountId Key Value) : Prop where
  raw_operator : ∀ w k, (s.rawValues w k).isSome → w ∈ s.members ∨ w = T.rootOperatorAccountId
  raw_time_le : ∀ w k v, s.rawValues w k = some v → v.timestamp ≤ s.now
  value_time_le : ∀ k v, s.values k = some v → v.timestamp ≤ s.now
  dispatched_nodup : s.hasDispatched.Nodup
  dispatched_le : s.hasDispatched.length ≤ T.maxHasDispatchedSize

variable {s s' : State AccountId Key Value}

/-! ## What a combined value is made of -/

omit [DecidableEq AccountId] [DecidableEq Key] in
theorem combineData_mem {values : List (TimestampedValue Value)} {prev : Option (TimestampedValue Value)}
    {now : Nat} {v : TimestampedValue Value} (h : combineData T values prev now = some v) :
    prev = some v ∨ v ∈ values := by
  unfold combineData at h
  dsimp only at h
  split_ifs at h
  · exact .inl h
  · -- the middle one is a member of the sorted, hence of the filtered, values
    have hsorted := List.mem_of_getElem? h
    exact .inr (List.mem_of_mem_filter ((sortBy_perm _ _).mem_iff.1 hsorted))

omit [DecidableEq AccountId] [DecidableEq Key] [LinearOrder Value] in
theorem mem_readRawValues {key : Key} {v : TimestampedValue Value} (h : v ∈ readRawValues T key s) :
    ∃ w, s.rawValues w key = some v := by
  obtain ⟨w, -, hw⟩ := List.mem_filterMap.1 h
  exact ⟨w, hw⟩

omit [DecidableEq AccountId] [DecidableEq Key] in
theorem combined_time_le (h : Tidy T s) {key : Key} {v : TimestampedValue Value}
    (hv : combined T key s = some v) : v.timestamp ≤ s.now := by
  rcases combineData_mem hv with hprev | hraw
  · exact h.value_time_le key v hprev
  · obtain ⟨w, hw⟩ := mem_readRawValues hraw
    exact h.raw_time_le w key v hw

/-! ## Every call -/

theorem feedValue_members {who : AccountId} (kv : Key × Value) : (feedValue T who s kv).members = s.members := by
  unfold Oracle.feedValue
  dsimp only
  split <;> rfl

theorem Tidy.feedValue (h : Tidy T s) {who : AccountId} (hwho : who ∈ s.members ∨ who = T.rootOperatorAccountId)
    (kv : Key × Value) : Tidy T (feedValue T who s kv) := by
  have h₁ : Tidy T (s.setRawValue who kv.1 (some ⟨kv.2, s.now⟩)) := by
    refine ⟨fun w k hw => ?_, fun w k v hv => ?_, h.value_time_le, h.dispatched_nodup, h.dispatched_le⟩
    · rw [State.setRawValue_rawValues] at hw
      split_ifs at hw with hwk
      · exact hwk.1 ▸ hwho
      · exact h.raw_operator w k hw
    · rw [State.setRawValue_rawValues] at hv
      split_ifs at hv with hwk
      · rw [Option.some_inj] at hv
        rw [← hv]
        rfl
      · exact h.raw_time_le w k v hv
  unfold Oracle.feedValue
  dsimp only
  split
  · next c hc =>
      refine ⟨h₁.raw_operator, h₁.raw_time_le, fun k v hv => ?_, h₁.dispatched_nodup, h₁.dispatched_le⟩
      rw [State.setValue_values] at hv
      by_cases hk : k = kv.1
      · rw [hk, Function.update_self, Option.some_inj] at hv
        exact hv ▸ combined_time_le h₁ hc
      · rw [Function.update_of_ne hk] at hv
        exact h₁.value_time_le k v hv
  · exact h₁

theorem Tidy.feedValues (h : Tidy T s) {origin : Origin AccountId} {values : List (Key × Value)}
    (hr : Oracle.feedValues T origin values s = .ok s') : Tidy T s' := by
  simp only [Oracle.feedValues, bind_eq_ok, ensure_eq_ok, pure_eq_ok] at hr
  obtain ⟨who, hwho, _, hinserted, rfl⟩ := hr
  have hop : who ∈ s.members ∨ who = T.rootOperatorAccountId := by
    cases origin with
    | signed w =>
        simp only [ensureAccount, bind_eq_ok, ensure_eq_ok, pure_eq_ok, decide_eq_true_eq] at hwho
        obtain ⟨⟨⟩, hmem, rfl⟩ := hwho
        exact .inl hmem
    | root =>
        rw [ensureAccount, pure_eq_ok] at hwho
        exact .inr hwho.symm
  have h₁ : Tidy T { s with hasDispatched := (insertDispatched T s.hasDispatched who).2 } := by
    refine ⟨h.raw_operator, h.raw_time_le, h.value_time_le, ?_, ?_⟩ <;> dsimp only <;>
      unfold insertDispatched at hinserted ⊢ <;> split_ifs at hinserted ⊢ with hin hfull
    · exact List.nodup_cons.2 ⟨hin, h.dispatched_nodup⟩
    · rw [List.length_cons]
      omega
  have hfold := foldl_invariant (P := fun s₀ : State AccountId Key Value => Tidy T s₀ ∧ s₀.members = s.members) (l := values)
    (fun s₀ kv _ h₀ => ⟨h₀.1.feedValue (h₀.2 ▸ hop) kv, (feedValue_members kv).trans h₀.2⟩) ⟨h₁, rfl⟩
  exact hfold.1

omit [DecidableEq Key] [LinearOrder Value] in
theorem Tidy.changeMembers (h : Tidy T s) (new : List AccountId) (hnew : new.Nodup) :
    Tidy T (Oracle.changeMembers new hnew s) := by
  refine ⟨fun w k hw => ?_, fun w k v hv => ?_, h.value_time_le, h.dispatched_nodup, h.dispatched_le⟩
  · -- the outgoing members' raw values are cleared
    dsimp only [Oracle.changeMembers] at hw ⊢
    split_ifs at hw with hout
    · cases hw
    · rcases h.raw_operator w k hw with hmem | hroot
      · left
        by_contra hnot
        exact hout (List.mem_filter.2 ⟨hmem, decide_eq_true hnot⟩)
      · exact .inr hroot
  · -- a cleared value is none, so what is left was there before
    dsimp only [Oracle.changeMembers] at hv ⊢
    split_ifs at hv
    exact h.raw_time_le w k v hv

theorem Tidy.dispatch (h : Tidy T s) {call : Call AccountId Key Value} (hr : Oracle.dispatch T s call = .ok s') :
    Tidy T s' := by
  cases call with
  | feedValues origin values =>
      simp only [Oracle.dispatch] at hr
      split_ifs at hr
      exact h.feedValues hr
  | onFinalize =>
      rw [Oracle.dispatch, pure_eq_ok] at hr
      subst hr
      exact ⟨h.raw_operator, h.raw_time_le, h.value_time_le, List.nodup_nil, Nat.zero_le _⟩
  | changeMembers new hnew =>
      rw [Oracle.dispatch, pure_eq_ok] at hr
      exact hr ▸ h.changeMembers new hnew
  | tick d =>
      rw [Oracle.dispatch, pure_eq_ok] at hr
      subst hr
      exact ⟨h.raw_operator, fun w k v hv => (h.raw_time_le w k v hv).trans (Nat.le_add_right _ _),
        fun k v hv => (h.value_time_le k v hv).trans (Nat.le_add_right _ _), h.dispatched_nodup, h.dispatched_le⟩

theorem Tidy.init (hs : (system T).init s) : Tidy T s := by
  obtain ⟨hraw, hval, hdisp⟩ := hs
  refine ⟨fun w k hw => ?_, fun w k v hv => ?_, fun k v hv => ?_, hdisp ▸ List.nodup_nil, ?_⟩
  · rw [hraw] at hw
    cases hw
  · rw [hraw] at hv
    cases hv
  · rw [hval] at hv
    cases hv
  · rw [hdisp]
    exact Nat.zero_le _

variable (T) in
theorem tidy_reachable :
    Invariant (system T : Transition.System (State AccountId Key Value) _) (Tidy T) :=
  invariant_of_inductive _ (fun _ hs => Tidy.init hs) fun _ _ _ h hstep => h.dispatch (toOption_eq_some.1 hstep)

/-- In every state the oracle reaches, by any feeds, block ends, changes of
members and time, a raw value is kept only for a current member or the root
operator, no raw or combined value is stamped later than now, and
`HasDispatched` lists each account at most once and at most
`MaxHasDispatchedSize` of them. -/
theorem oracle_storage_tidy (hs : Reachable (system T) s) :
    (∀ w k, (s.rawValues w k).isSome → w ∈ s.members ∨ w = T.rootOperatorAccountId) ∧
      (∀ w k v, s.rawValues w k = some v → v.timestamp ≤ s.now) ∧
      (∀ k v, s.values k = some v → v.timestamp ≤ s.now) ∧
      s.hasDispatched.Nodup ∧ s.hasDispatched.length ≤ T.maxHasDispatchedSize := by
  have h := tidy_reachable T s hs
  exact ⟨h.raw_operator, h.raw_time_le, h.value_time_le, h.dispatched_nodup, h.dispatched_le⟩

namespace Reference

/-- After members 1, 2 and 3 fed key 1, member 3 leaves: its raw value is
cleared. -/
def reshuffled : State Nat Nat Nat :=
  (system mockConfig).run fedState [.changeMembers [1, 2] (by decide)]

/-- The storage after the change of members is tidy. -/
theorem reshuffled_storage_tidy :
    (∀ w k, (reshuffled.rawValues w k).isSome → w ∈ reshuffled.members ∨ w = mockConfig.rootOperatorAccountId) ∧
      (∀ w k v, reshuffled.rawValues w k = some v → v.timestamp ≤ reshuffled.now) ∧
      (∀ k v, reshuffled.values k = some v → v.timestamp ≤ reshuffled.now) ∧
      reshuffled.hasDispatched.Nodup ∧ reshuffled.hasDispatched.length ≤ mockConfig.maxHasDispatchedSize :=
  oracle_storage_tidy (((Reachable.init genesisState_init).run _).run _)

example : reshuffled.rawValues 3 1 = none := by decide

end Reference

end Setheum.Oracle
