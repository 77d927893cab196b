import Mathlib
import Setheum.Oracle.Pallet

/-!
# The combined value is a robust median

`combined` reads one raw value per member and one for the root operator, and
takes the middle one of those that have not expired. Read with the account
each value came from, this is the order statistic of `OrderStatistic`, so it
lies between two honest values when fewer than half of the values come from
faulty accounts. The root operator is read after the members whether or not
it is one of them: when it is, its raw value is read twice.
-/

namespace Setheum.Oracle

open Result Transition OrderStatistic

variable {AccountId Key Value : Type} (T : Config AccountId)

/-- The raw values `read_raw_values` lists, each with the account it was read
from. -/
def rawSources (key : Key) (s : State AccountId Key Value) : List (AccountId × TimestampedValue Value) :=
  (s.members ++ [T.rootOperatorAccountId]).filterMap fun x => (s.rawValues x key).map (x, ·)

/-- Those that have not expired, which `combine_data` keeps. -/
def unexpiredSources (key : Key) (s : State AccountId Key Value) :
    List (AccountId × TimestampedValue Value) :=
  (rawSources T key s).filter fun e => decide (s.now < min (e.2.timestamp + T.expiresIn) (2 ^ 64 - 1))

theorem readRawValues_eq (key : Key) (s : State AccountId Key Value) :
    readRawValues T key s = (rawSources T key s).map Prod.snd := by
  simp [readRawValues, rawSources, List.map_filterMap, Function.comp_def]

theorem filter_readRawValues (key : Key) (s : State AccountId Key Value) :
    (readRawValues T key s).filter (fun x => decide (s.now < min (x.timestamp + T.expiresIn) (2 ^ 64 - 1))) =
      (unexpiredSources T key s).map Prod.snd := by
  rw [readRawValues_eq, List.filter_map]
  rfl

theorem nodup_rawSources_accounts {key : Key} {s : State AccountId Key Value}
    (hroot : T.rootOperatorAccountId ∉ s.members) : ((rawSources T key s).map Prod.fst).Nodup := by
  have hsources : (s.members ++ [T.rootOperatorAccountId]).Nodup :=
    List.nodup_append_comm.2 (List.nodup_cons.2 ⟨hroot, s.members_nodup⟩)
  rw [rawSources, List.map_filterMap]
  refine hsources.filterMap fun a a' b ha ha' => ?_
  simp only [Option.map_map, Option.mem_def, Option.map_eq_some_iff, Function.comp_apply] at ha ha'
  obtain ⟨_, -, rfl⟩ := ha
  obtain ⟨_, -, h⟩ := ha'
  exact h.symm

/-! ## What `combined` returns -/

variable [LinearOrder Value]

theorem combined_of_few {key : Key} {s : State AccountId Key Value}
    (h : (unexpiredSources T key s).length < T.minimumCount ∨ (unexpiredSources T key s).length = 0) :
    combined T key s = s.values key := by
  unfold combined combineData
  dsimp only
  rw [filter_readRawValues, List.length_map, if_pos h]

theorem combined_of_enough {key : Key} {s : State AccountId Key Value}
    (h : ¬ ((unexpiredSources T key s).length < T.minimumCount ∨ (unexpiredSources T key s).length = 0)) :
    combined T key s = ((sortBy (TimestampedValue.value ∘ Prod.snd) (unexpiredSources T key s))[
      (unexpiredSources T key s).length / 2]?).map Prod.snd := by
  unfold combined combineData
  dsimp only
  rw [filter_readRawValues, List.length_map, if_neg h, ← map_sortBy, List.getElem?_map]

/-- With enough unexpired values, at most `⌊(c - 1) / 2⌋` of the `c` of them
from faulty accounts, the combined value is one of them and lies between two
honest ones. -/
theorem combined_between (honest : AccountId → Bool) {key : Key} {s : State AccountId Key Value}
    (henough : T.minimumCount ≤ (unexpiredSources T key s).length)
    (hpos : 0 < (unexpiredSources T key s).length)
    (hfaulty : (unexpiredSources T key s).countP (fun e => !honest e.1) ≤
      ((unexpiredSources T key s).length - 1) / 2) :
    ∃ v, combined T key s = some v ∧ v ∈ (unexpiredSources T key s).map Prod.snd ∧
      (∃ e ∈ unexpiredSources T key s, honest e.1 ∧ e.2.value ≤ v.value) ∧
      ∃ e ∈ unexpiredSources T key s, honest e.1 ∧ v.value ≤ e.2.value := by
  have hmid : (unexpiredSources T key s).length / 2 <
      (sortBy (TimestampedValue.value ∘ Prod.snd) (unexpiredSources T key s)).length := by
    rw [length_sortBy]
    omega
  obtain ⟨e, he⟩ : ∃ e, (sortBy (TimestampedValue.value ∘ Prod.snd) (unexpiredSources T key s))[
      (unexpiredSources T key s).length / 2]? = some e := ⟨_, List.getElem?_eq_getElem hmid⟩
  have hcombined : combined T key s = _ := combined_of_enough T (by omega)
  rw [he, Option.map_some] at hcombined
  obtain ⟨⟨y, hy, hgy, hley⟩, ⟨z, hz, hgz, hlez⟩⟩ :=
    median_between (fun e => honest e.1) he hfaulty
  have hmem : e ∈ unexpiredSources T key s :=
    (sortBy_perm _ _).subset (List.mem_of_getElem? he)
  exact ⟨e.2, hcombined, List.mem_map_of_mem hmem, ⟨y, hy, hgy, hley⟩, ⟨z, hz, hgz, hlez⟩⟩

/-! ## One feed per block -/

variable [DecidableEq AccountId] [DecidableEq Key]

theorem doFeedValues_hasDispatched (who : AccountId) (values : List (Key × Value))
    (s : State AccountId Key Value) :
    (doFeedValues T who values s).hasDispatched = s.hasDispatched := by
  unfold doFeedValues
  induction values generalizing s with
  | nil => rfl
  | cons kv rest ih =>
      rw [List.foldl_cons, ih]
      simp only [feedValue]
      split <;> rfl

theorem feedValue_values_self (who : AccountId) (s : State AccountId Key Value) (key : Key)
    (value : Value) {v : TimestampedValue Value}
    (h : combined T key (s.setRawValue who key (some ⟨value, s.now⟩)) = some v) :
    (feedValue T who s (key, value)).values key = some v := by
  simp only [feedValue, h, State.setValue_values, Function.update_self]

omit [DecidableEq AccountId] [DecidableEq Key] in
theorem combineData_of_prev {values : List (TimestampedValue Value)} {prev : Option (TimestampedValue Value)}
    {now : Nat} {c : TimestampedValue Value} (h : combineData T values prev now = some c) :
    combineData T values (some c) now = some c := by
  dsimp only [combineData] at h ⊢
  split_ifs at h ⊢
  · rfl
  · exact h

omit [DecidableEq AccountId] [DecidableEq Key] in
theorem combineData_eq_none {values : List (TimestampedValue Value)} {prev : Option (TimestampedValue Value)}
    {now : Nat} (h : combineData T values prev now = none) : prev = none := by
  dsimp only [combineData] at h
  split_ifs at h with hfew
  · exact h
  · rw [List.getElem?_eq_none_iff, length_sortBy] at h
    omega

theorem feedValue_values_combined (who : AccountId) (s : State AccountId Key Value) (key : Key) (value : Value) :
    (feedValue T who s (key, value)).values key = combined T key (feedValue T who s (key, value)) := by
  simp only [feedValue]
  split
  · -- storing the combined value leaves the raw values and the time `combined` reads
    rename_i c hc
    simp only [combined, readRawValues, State.setValue_rawValues, State.setValue_members, State.setValue_now,
      State.setValue_values, Function.update_self] at hc ⊢
    exact (combineData_of_prev T hc).symm
  · rename_i hnone
    rw [hnone]
    exact combineData_eq_none T hnone

theorem feedValue_other_key (who : AccountId) (s : State AccountId Key Value) {key : Key} {kv : Key × Value}
    (hne : key ≠ kv.1) :
    (feedValue T who s kv).values key = s.values key ∧ combined T key (feedValue T who s kv) = combined T key s := by
  have hraw : ∀ t : State AccountId Key Value, (t.setRawValue who kv.1 (some ⟨kv.2, t.now⟩)).rawValues =
      fun w k => if w = who ∧ k = kv.1 then some ⟨kv.2, t.now⟩ else t.rawValues w k := fun _ => rfl
  have hread : readRawValues T key (s.setRawValue who kv.1 (some ⟨kv.2, s.now⟩)) = readRawValues T key s := by
    simp only [readRawValues, hraw, State.setRawValue_members, hne, and_false, if_false]
  simp only [feedValue]
  split
  · rename_i c _
    have hread' : readRawValues T key ((s.setRawValue who kv.1 (some ⟨kv.2, s.now⟩)).setValue kv.1 (some c)) =
        readRawValues T key s := hread
    simp only [combined, hread', State.setValue_values, Function.update_of_ne hne, State.setRawValue_values,
      State.setValue_now, State.setRawValue_now, and_self]
  · simp only [combined, State.setRawValue_values, State.setRawValue_now, hread, and_self]

/-- After a feed, every key it fed holds the value `combined` gives. The
induction runs over the fed values; a later value of another key leaves a
key's stored and combined values alone. -/
theorem doFeedValues_values (who : AccountId) (values : List (Key × Value)) (s : State AccountId Key Value)
    (key : Key) (hkey : key ∈ values.map Prod.fst ∨ s.values key = combined T key s) :
    (doFeedValues T who values s).values key = combined T key (doFeedValues T who values s) := by
  induction values generalizing s with
  | nil => simpa [doFeedValues] using hkey
  | cons kv rest ih =>
      unfold doFeedValues
      rw [List.foldl_cons]
      refine ih _ ?_
      by_cases hfed : key = kv.1
      · subst hfed
        exact .inr (feedValue_values_combined T who s _ kv.2)
      · rcases hkey with hmem | hstored
        · rcases List.mem_cons.1 hmem with h | h
          · exact absurd h hfed
          · exact .inl h
        · obtain ⟨hv, hc⟩ := feedValue_other_key T who s hfed
          exact .inr (by rw [hv, hc, hstored])

theorem feedValues_stores_combined {origin : Origin AccountId} {values : List (Key × Value)}
    {s s' : State AccountId Key Value} (h : feedValues T origin values s = .ok s') :
    ∀ key ∈ values.map Prod.fst, s'.values key = combined T key s' := by
  simp only [feedValues, bind_eq_ok, ensure_eq_ok, pure_eq_ok] at h
  obtain ⟨who, -, _, -, rfl⟩ := h
  exact fun key hkey => doFeedValues_values T who values _ key (.inl hkey)

theorem feedValues_alreadyFeeded {origin : Origin AccountId} {who : AccountId}
    {values : List (Key × Value)} {s : State AccountId Key Value}
    (hwho : ensureAccount T s origin = .ok who) (hin : who ∈ s.hasDispatched) :
    feedValues T origin values s = .error (.module .alreadyFeeded) := by
  simp [feedValues, hwho, ok_bind, insertDispatched, hin, ensure]
  rfl

theorem feedValues_records {origin : Origin AccountId} {values : List (Key × Value)}
    {s s' : State AccountId Key Value} (h : feedValues T origin values s = .ok s') :
    ∃ who, ensureAccount T s origin = .ok who ∧ who ∈ s'.hasDispatched := by
  simp only [feedValues, bind_eq_ok, ensure_eq_ok, pure_eq_ok] at h
  obtain ⟨who, hwho, _, hinserted, rfl⟩ := h
  refine ⟨who, hwho, ?_⟩
  rw [doFeedValues_hasDispatched]
  unfold insertDispatched at hinserted ⊢
  split_ifs at hinserted ⊢
  exact List.mem_cons_self

theorem dispatch_hasDispatched_subset {s s' : State AccountId Key Value}
    {call : Call AccountId Key Value} (hcall : call ≠ .onFinalize) (h : dispatch T s call = .ok s') :
    s.hasDispatched ⊆ s'.hasDispatched := by
  cases call with
  | feedValues origin values =>
      simp only [dispatch] at h
      split_ifs at h
      simp only [feedValues, bind_eq_ok, ensure_eq_ok, pure_eq_ok] at h
      obtain ⟨who, -, _, -, rfl⟩ := h
      rw [doFeedValues_hasDispatched]
      unfold insertDispatched
      split_ifs <;> simp
  | onFinalize => exact absurd rfl hcall
  | changeMembers new hnew =>
      simp only [dispatch, pure_eq_ok] at h
      subst h
      exact List.Subset.refl _
  | tick d =>
      simp only [dispatch, pure_eq_ok] at h
      subst h
      exact List.Subset.refl _

theorem run_hasDispatched_subset {calls : List (Call AccountId Key Value)}
    (hcalls : ∀ c ∈ calls, c ≠ .onFinalize) (s : State AccountId Key Value) :
    s.hasDispatched ⊆ ((system T).run s calls).hasDispatched := by
  induction calls generalizing s with
  | nil => exact List.Subset.refl _
  | cons call rest ih =>
      have hrest := ih (fun c hc => hcalls c (List.mem_cons_of_mem _ hc))
      cases hstep : (system T).step s call with
      | none => simpa [System.run, hstep] using hrest s
      | some t =>
          have hsub := dispatch_hasDispatched_subset T (hcalls call List.mem_cons_self)
            (toOption_eq_some.1 hstep)
          simpa [System.run, hstep] using List.Subset.trans hsub (hrest t)

/-- The oracle's aggregation of one key, at any state: each account is read
once when the root operator is not a member; fewer than `max MinimumCount 1`
unexpired values keep the previous value, and otherwise the one in the middle
by value is taken, which lies between two honest values when at most
`⌊(c - 1) / 2⌋` of the `c` unexpired values come from faulty accounts; and an
account that has fed cannot feed again before `on_finalize`. -/
theorem combined_robust_median (honest : AccountId → Bool) (key : Key) (s : State AccountId Key Value) :
    (T.rootOperatorAccountId ∉ s.members → ((rawSources T key s).map Prod.fst).Nodup) ∧
    ((unexpiredSources T key s).length < max T.minimumCount 1 → combined T key s = s.values key) ∧
    (max T.minimumCount 1 ≤ (unexpiredSources T key s).length →
      combined T key s = ((sortBy (TimestampedValue.value ∘ Prod.snd) (unexpiredSources T key s))[
        (unexpiredSources T key s).length / 2]?).map Prod.snd ∧
      ((unexpiredSources T key s).countP (fun e => !honest e.1) ≤
          ((unexpiredSources T key s).length - 1) / 2 →
        ∃ v, combined T key s = some v ∧
          (∃ e ∈ unexpiredSources T key s, honest e.1 ∧ e.2.value ≤ v.value) ∧
          ∃ e ∈ unexpiredSources T key s, honest e.1 ∧ v.value ≤ e.2.value)) ∧
    (∀ (origin : Origin AccountId) (values : List (Key × Value)) (s' : State AccountId Key Value),
      feedValues T origin values s = .ok s' → ∀ key' ∈ values.map Prod.fst, s'.values key' = combined T key' s') ∧
    ∀ (origin origin' : Origin AccountId) (values values' : List (Key × Value)) (who : AccountId)
      (calls : List (Call AccountId Key Value)) {s₁ : State AccountId Key Value},
      feedValues T origin values s = .ok s₁ → ensureAccount T s origin = .ok who →
      (∀ c ∈ calls, c ≠ .onFinalize) → ensureAccount T ((system T).run s₁ calls) origin' = .ok who →
      feedValues T origin' values' ((system T).run s₁ calls) = .error (.module .alreadyFeeded) := by
  refine ⟨nodup_rawSources_accounts T, fun hfew => combined_of_few T (by omega),
    fun henough => ⟨combined_of_enough T (by omega), fun hfaulty => ?_⟩,
    fun _ _ _ h => feedValues_stores_combined T h, ?_⟩
  · obtain ⟨v, hv, -, hlow, hhigh⟩ := combined_between T honest (by omega) (by omega) hfaulty
    exact ⟨v, hv, hlow, hhigh⟩
  · intro origin origin' values values' who calls s₁ hfeed hwho hcalls hwho'
    obtain ⟨who₁, hwho₁, hin⟩ := feedValues_records T hfeed
    obtain rfl : who₁ = who := Except.ok.inj (hwho₁.symm.trans hwho)
    exact feedValues_alreadyFeeded T hwho' (run_hasDispatched_subset T hcalls s₁ hin)

namespace Reference

/-- The pallet's test runtime: root operator 4, `MinimumCount` 3,
`ExpiresIn` 600, at most 100 feeders a block and 5 values a feed. -/
def mockConfig : Config Nat := ⟨4, 3, 600, 100, 5⟩

/-- Empty storage at time 0, with members 1, 2 and 3. -/
def genesisState : State Nat Nat Nat := ⟨fun _ _ => none, fun _ => none, [], [1, 2, 3], by decide, 0⟩

theorem genesisState_init : (system mockConfig).init genesisState := ⟨fun _ _ => rfl, fun _ => rfl, rfl⟩

/-- Members 1, 2 and 3 feed 10, 20 and 1000 for key 1. -/
def fedState : State Nat Nat Nat :=
  (system mockConfig).run genesisState
    [.feedValues (.signed 1) [(1, 10)], .feedValues (.signed 2) [(1, 20)], .feedValues (.signed 3) [(1, 1000)]]

/-- Members 1 and 2 feed 10 and 20 for key 1. -/
def halfFedState : State Nat Nat Nat :=
  (system mockConfig).run genesisState [.feedValues (.signed 1) [(1, 10)], .feedValues (.signed 2) [(1, 20)]]

/-- Member 3 alone is faulty: the combined value is 20, between the honest
10 and 20; and member 3's feed after members 1 and 2 stores the value it
combines. -/
theorem combined_robust_median_reference :
    Reachable (system mockConfig) fedState ∧
      (∃ v, combined mockConfig 1 fedState = some v ∧
        (∃ e ∈ unexpiredSources mockConfig 1 fedState, e.1 ≠ 3 ∧ e.2.value ≤ v.value) ∧
        ∃ e ∈ unexpiredSources mockConfig 1 fedState, e.1 ≠ 3 ∧ v.value ≤ e.2.value) ∧
      ∃ s', feedValues mockConfig (.signed 3) [(1, 1000)] halfFedState = .ok s' ∧
        s'.values 1 = combined mockConfig 1 s' := by
  refine ⟨(Reachable.init genesisState_init).run _, ?_, ?_⟩
  · obtain ⟨v, hv, ⟨e, he, hhonest, hle⟩, ⟨e', he', hhonest', hle'⟩⟩ :=
      ((combined_robust_median mockConfig (fun a => a != 3) 1 fedState).2.2.1 (by decide)).2 (by decide)
    exact ⟨v, hv, ⟨e, he, by simpa using hhonest, hle⟩, ⟨e', he', by simpa using hhonest', hle'⟩⟩
  · obtain ⟨s', hfeed⟩ := exists_ok_of_toOption_isSome
      (by decide : (feedValues mockConfig (.signed 3) [(1, 1000)] halfFedState).toOption.isSome)
    exact ⟨s', hfeed, (combined_robust_median mockConfig (fun a => a != 3) 1 halfFedState).2.2.2.1 _ _ _ hfeed 1
      (by simp)⟩

/-- With the root operator 4 made a member, member 1 feeds 10 and member 4
feeds 100: account 4 is read twice, which makes the three values
`MinimumCount` asks for out of two accounts, and its 100 is the combined
value. -/
theorem rawSources_root_member_reference :
    ∃ s, Reachable (system mockConfig) s ∧ s.members = [1, 4] ∧
      (rawSources mockConfig 1 s).map Prod.fst = [1, 4, 4] ∧
      readRawValues mockConfig 1 s = [⟨10, 0⟩, ⟨100, 0⟩, ⟨100, 0⟩] ∧
      combined mockConfig 1 s = some ⟨100, 0⟩ := by
  refine ⟨(system mockConfig).run genesisState
    [.changeMembers [1, 4] (by decide), .feedValues (.signed 1) [(1, 10)], .feedValues (.signed 4) [(1, 100)]],
    (Reachable.init genesisState_init).run _, ?_⟩
  decide

end Reference

end Setheum.Oracle
