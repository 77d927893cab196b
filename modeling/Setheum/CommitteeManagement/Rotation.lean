import Mathlib
import Setheum.Lib.CyclicWindow

/-!
# Committee rotation

`choose_for_session`, `choose_finality_committee`, `select_committee_inner`
and `select_committee` of the committee-management pallet. The `usize`
arithmetic is that of a target of `bits` bits: 64 natively, 32 in the wasm
runtime.

Where `session * seats` does not saturate and the slices are no longer than
`isize::MAX`, as every Rust slice is, each part of a committee is a cyclic
window: `seats` members from position `session * seats` on, all of them when
there are no more. Consecutive sessions take consecutive windows, so over
`n / gcd n seats` sessions the windows cover each of the `n` members
`seats / gcd n seats` times; when there are more seats than members, every
session takes all the members, and each is chosen `n / gcd n seats` times.
-/

namespace Setheum.CommitteeManagement

open Finset

/-! ## `usize` arithmetic on a target of `bits` bits -/

namespace Usize

def saturatingMul (bits a b : Nat) : Nat := min (a * b) (2 ^ bits - 1)

def saturatingAdd (bits a b : Nat) : Nat := min (a + b) (2 ^ bits - 1)

theorem saturatingMul_eq {bits a b : Nat} (h : a * b < 2 ^ bits) : saturatingMul bits a b = a * b :=
  min_eq_left (by omega)

theorem saturatingAdd_eq {bits a b : Nat} (h : a + b < 2 ^ bits) : saturatingAdd bits a b = a + b :=
  min_eq_left (by omega)

end Usize

/-- `SessionCommittee`, as the pallet builds it. -/
structure SessionCommittee (AccountId : Type) where
  producers : List AccountId
  finalizers : List AccountId
  deriving DecidableEq, Repr

structure EraValidators (AccountId : Type) where
  reserved : List AccountId
  nonReserved : List AccountId

/-- `CommitteeSeats`; its `u32` fields are cast to `usize` without loss. -/
structure CommitteeSeats where
  reservedSeats : Nat
  nonReservedSeats : Nat
  nonReservedFinalitySeats : Nat

section Selection

variable {AccountId : Type} (bits : Nat)

/-- `choose_for_session`. -/
def chooseForSession (validators : List AccountId) (count session : Nat) : Option (List AccountId) :=
  if h : validators.isEmpty = true ∨ count = 0 then none
  else
    let validatorsLen := validators.length
    have hlen : 0 < validatorsLen := List.length_pos_iff.mpr fun e => h (.inl (List.isEmpty_iff.mpr e))
    let firstIndex := Usize.saturatingMul bits session count % validatorsLen
    some ((List.range (min count validatorsLen)).map fun i =>
      validators.get ⟨Usize.saturatingAdd bits firstIndex i % validatorsLen, Nat.mod_lt _ hlen⟩)

/-- `choose_finality_committee`. -/
def chooseFinalityCommittee (reserved nonReserved : Option (List AccountId)) (nonReservedSeats session : Nat) :
    List AccountId :=
  let nonReservedFinalityCommittee :=
    (nonReserved.bind fun nr => chooseForSession bits nr nonReservedSeats session).getD []
  reserved.getD [] ++ nonReservedFinalityCommittee

/-- `select_committee_inner`. -/
def selectCommitteeInner (currentSession reservedSeats nonReservedSeats nonReservedFinalitySeats : Nat)
    (reserved nonReserved : List AccountId) : Option (SessionCommittee AccountId) := do
  let reservedCommittee := chooseForSession bits reserved reservedSeats currentSession
  let nonReservedCommittee := chooseForSession bits nonReserved nonReservedSeats currentSession
  let finalizers := chooseFinalityCommittee bits reservedCommittee nonReservedCommittee
    nonReservedFinalitySeats currentSession
  let producers ← match reservedCommittee, nonReservedCommittee with
    | some rc, some nrc => some (rc ++ nrc)
    | some rc, none => some rc
    | none, some nrc => some nrc
    | none, none => none
  pure ⟨producers, finalizers⟩

/-- `select_committee`. -/
def selectCommittee (eraValidators : EraValidators AccountId) (committeeSeats : CommitteeSeats)
    (currentSession : Nat) : Option (SessionCommittee AccountId) :=
  selectCommitteeInner bits currentSession committeeSeats.reservedSeats committeeSeats.nonReservedSeats
    committeeSeats.nonReservedFinalitySeats eraValidators.reserved eraValidators.nonReserved

/-- The block producers of a session, none when no committee is chosen. -/
def sessionProducers (reservedSeats nonReservedSeats nonReservedFinalitySeats : Nat)
    (reserved nonReserved : List AccountId) (session : Nat) : List AccountId :=
  ((selectCommitteeInner bits session reservedSeats nonReservedSeats nonReservedFinalitySeats reserved
    nonReserved).map SessionCommittee.producers).getD []

end Selection

/-! ## Cyclic windows -/

section Window

variable {AccountId : Type} {validators : List AccountId} {count session : Nat}

/-- The `count` members from position `session * count` on, cyclically; all of
them when there are no more. -/
def rotation (validators : List AccountId) (count session : Nat) : List AccountId :=
  (validators.rotate (session * count)).take count

@[simp] theorem length_rotation : (rotation validators count session).length = min count validators.length := by
  simp [rotation]

theorem rotation_eq_nil_iff : rotation validators count session = [] ↔ validators = [] ∨ count = 0 := by
  rw [rotation, List.take_eq_nil_iff, List.rotate_eq_nil_iff, or_comm]

theorem rotation_subset : rotation validators count session ⊆ validators :=
  fun _ hx => List.mem_rotate.mp (List.mem_of_mem_take hx)

theorem nodup_rotation (h : validators.Nodup) : (rotation validators count session).Nodup :=
  List.Nodup.sublist (List.take_sublist _ _) (List.nodup_rotate.mpr h)

theorem mem_rotation_iff (hnodup : validators.Nodup) {j : Nat} (hj : j < validators.length)
    (hcount : count ≤ validators.length) :
    validators[j] ∈ rotation validators count session ↔
      ∃ i < count, (session * count + i) % validators.length = j := by
  rw [List.mem_iff_getElem]
  constructor
  · rintro ⟨i, hi, heq⟩
    rw [length_rotation] at hi
    simp only [rotation, List.getElem_take, List.getElem_rotate] at heq
    refine ⟨i, by omega, ?_⟩
    rw [Nat.add_comm]
    exact hnodup.getElem_inj_iff.mp heq
  · rintro ⟨i, hi, hmod⟩
    refine ⟨i, by rw [length_rotation]; omega, ?_⟩
    simp only [rotation, List.getElem_take, List.getElem_rotate]
    congr 1
    rw [Nat.add_comm]
    exact hmod

theorem mem_rotation_of_le (hcount : validators.length ≤ count) {v : AccountId} :
    v ∈ rotation validators count session ↔ v ∈ validators := by
  rw [rotation, List.take_of_length_le (by rw [List.length_rotate]; exact hcount), List.mem_rotate]

theorem card_window_of_le [DecidableEq AccountId] (hnodup : validators.Nodup) {j : Nat}
    (hj : j < validators.length) (hcount : count ≤ validators.length) (s0 k : Nat) :
    #{t ∈ range k | validators[j] ∈ rotation validators count (s0 + t)} =
      Nat.count (fun m => (s0 * count + m) % validators.length = j) (k * count) := by
  have hn : 0 < validators.length := by omega
  rw [card_filter, ← CyclicWindow.sum_count_windows]
  refine sum_congr rfl fun t _ => ?_
  have hle := CyclicWindow.count_mod_le_one ((s0 + t) * count) hn hcount hj
  have hpos := CyclicWindow.count_pos_iff (fun i => ((s0 + t) * count + i) % validators.length = j) count
  rw [← mem_rotation_iff hnodup hj hcount] at hpos
  simp only [Nat.add_mul, Nat.add_assoc] at hle hpos ⊢
  split_ifs with hmem
  · have := hpos.mpr hmem
    omega
  · have := mt hpos.mp hmem
    omega

theorem card_window_mem_rotation [DecidableEq AccountId] (hnodup : validators.Nodup) {v : AccountId}
    (hv : v ∈ validators) (s0 : Nat) :
    #{t ∈ range (validators.length / validators.length.gcd count) | v ∈ rotation validators count (s0 + t)} =
      min count validators.length / validators.length.gcd count := by
  obtain ⟨j, hj, rfl⟩ := List.mem_iff_getElem.mp hv
  have hn : 0 < validators.length := by omega
  by_cases hcount : count ≤ validators.length
  · -- the windows tile `count / g` turns of the `n` positions
    have hg : validators.length.gcd count ∣ validators.length := Nat.gcd_dvd_left _ _
    have hg' : validators.length.gcd count ∣ count := Nat.gcd_dvd_right _ _
    have htile : validators.length / validators.length.gcd count * count =
        validators.length * (count / validators.length.gcd count) :=
      calc validators.length / validators.length.gcd count * count
          = validators.length / validators.length.gcd count *
              (validators.length.gcd count * (count / validators.length.gcd count)) := by
            rw [Nat.mul_div_cancel' hg']
        _ = validators.length / validators.length.gcd count * validators.length.gcd count *
              (count / validators.length.gcd count) := by rw [Nat.mul_assoc]
        _ = validators.length * (count / validators.length.gcd count) := by rw [Nat.div_mul_cancel hg]
    rw [card_window_of_le hnodup hj hcount, min_eq_left hcount, htile, CyclicWindow.count_mod_eq _ hn _ hj]
  · -- every session takes all the members
    have hall : ∀ t, validators[j] ∈ rotation validators count (s0 + t) :=
      fun _ => (mem_rotation_of_le (by omega)).mpr (List.getElem_mem hj)
    rw [filter_true_of_mem fun t _ => hall t, card_range, min_eq_right (by omega)]

end Window

/-! ## The committee a session gets -/

section Committee

variable {AccountId : Type} {bits : Nat} {validators : List AccountId} {count session : Nat}

theorem chooseForSession_eq_none_iff :
    chooseForSession bits validators count session = none ↔ validators = [] ∨ count = 0 := by
  unfold chooseForSession
  rw [← List.isEmpty_iff]
  split_ifs with h
  · exact iff_of_true rfl h
  · exact iff_of_false (by simp) h

theorem chooseForSession_eq_rotation (hmul : session * count < 2 ^ bits) (hlen : 2 * validators.length ≤ 2 ^ bits)
    (hsome : ¬(validators = [] ∨ count = 0)) :
    chooseForSession bits validators count session = some (rotation validators count session) := by
  have hn : 0 < validators.length := List.length_pos_iff.mpr fun e => hsome (.inl e)
  unfold chooseForSession
  rw [dif_neg (by rwa [List.isEmpty_iff]), Option.some.injEq]
  apply List.ext_getElem (by simp)
  intro i hi _
  simp only [List.length_map, List.length_range] at hi
  simp only [List.getElem_map, List.getElem_range, List.get_eq_getElem, rotation, List.getElem_take,
    List.getElem_rotate]
  congr 1
  have hfirst : session * count % validators.length < validators.length := Nat.mod_lt _ hn
  rw [Usize.saturatingMul_eq hmul, Usize.saturatingAdd_eq (by omega), Nat.mod_add_mod, Nat.add_comm]

theorem getD_chooseForSession (hmul : session * count < 2 ^ bits) (hlen : 2 * validators.length ≤ 2 ^ bits) :
    (chooseForSession bits validators count session).getD [] = rotation validators count session := by
  by_cases hsome : validators = [] ∨ count = 0
  · rw [chooseForSession_eq_none_iff.mpr hsome, Option.getD_none, eq_comm, rotation_eq_nil_iff]
    exact hsome
  · rw [chooseForSession_eq_rotation hmul hlen hsome, Option.getD_some]

variable {rs ns nfs : Nat} {R N : List AccountId}

theorem selectCommitteeInner_eq_none_iff :
    selectCommitteeInner bits session rs ns nfs R N = none ↔
      chooseForSession bits R rs session = none ∧ chooseForSession bits N ns session = none := by
  unfold selectCommitteeInner
  cases chooseForSession bits R rs session <;> cases chooseForSession bits N ns session <;> simp

theorem selectCommitteeInner_eq_some {c : SessionCommittee AccountId}
    (h : selectCommitteeInner bits session rs ns nfs R N = some c) :
    c.producers = (chooseForSession bits R rs session).getD [] ++ (chooseForSession bits N ns session).getD [] ∧
      c.finalizers = chooseFinalityCommittee bits (chooseForSession bits R rs session)
        (chooseForSession bits N ns session) nfs session := by
  unfold selectCommitteeInner at h
  cases hR : chooseForSession bits R rs session <;> cases hN : chooseForSession bits N ns session <;>
    simp [hR, hN] at h <;> subst h <;> exact ⟨by simp, rfl⟩

theorem chooseFinalityCommittee_eq (hrs : session * rs < 2 ^ bits) (hns : session * ns < 2 ^ bits)
    (hnfs : session * nfs < 2 ^ bits) (hR : 2 * R.length ≤ 2 ^ bits) (hN : 2 * N.length ≤ 2 ^ bits) :
    chooseFinalityCommittee bits (chooseForSession bits R rs session) (chooseForSession bits N ns session) nfs
        session =
      rotation R rs session ++ rotation (rotation N ns session) nfs session := by
  unfold chooseFinalityCommittee
  dsimp only
  rw [getD_chooseForSession hrs hR]
  congr 1
  by_cases hsome : N = [] ∨ ns = 0
  · rw [chooseForSession_eq_none_iff.mpr hsome, Option.bind_none, Option.getD_none,
      rotation_eq_nil_iff.mpr hsome, eq_comm, rotation_eq_nil_iff]
    exact .inl rfl
  · rw [chooseForSession_eq_rotation hns hN hsome, Option.bind_some, getD_chooseForSession hnfs]
    rw [length_rotation]
    omega

theorem sessionProducers_eq (hrs : session * rs < 2 ^ bits) (hns : session * ns < 2 ^ bits)
    (hR : 2 * R.length ≤ 2 ^ bits) (hN : 2 * N.length ≤ 2 ^ bits) :
    sessionProducers bits rs ns nfs R N session = rotation R rs session ++ rotation N ns session := by
  unfold sessionProducers
  cases hc : selectCommitteeInner bits session rs ns nfs R N with
  | none =>
      obtain ⟨hRc, hNc⟩ := selectCommitteeInner_eq_none_iff.mp hc
      rw [Option.map_none, Option.getD_none, ← getD_chooseForSession hrs hR, ← getD_chooseForSession hns hN,
        hRc, hNc]
      rfl
  | some c =>
      rw [Option.map_some, Option.getD_some, (selectCommitteeInner_eq_some hc).1,
        getD_chooseForSession hrs hR, getD_chooseForSession hns hN]

end Committee

/-! ## Well formed and fair -/

section Fairness

variable {AccountId : Type} {bits rs ns nfs : Nat} {R N : List AccountId}

theorem selectCommitteeInner_spec (hnodup : (R ++ N).Nodup) (hR : 2 * R.length ≤ 2 ^ bits)
    (hN : 2 * N.length ≤ 2 ^ bits) {s : Nat} (hrs : s * rs < 2 ^ bits) (hns : s * ns < 2 ^ bits)
    (hnfs : s * nfs < 2 ^ bits) :
    (selectCommitteeInner bits s rs ns nfs R N = none ↔ (R = [] ∨ rs = 0) ∧ (N = [] ∨ ns = 0)) ∧
    ∀ c, selectCommitteeInner bits s rs ns nfs R N = some c →
      c.producers = rotation R rs s ++ rotation N ns s ∧ c.producers.Nodup ∧
      c.finalizers = rotation R rs s ++ rotation (rotation N ns s) nfs s ∧ c.finalizers.Nodup ∧
      c.finalizers ⊆ c.producers := by
  have hdisj := List.disjoint_of_nodup_append hnodup
  have hwin : (rotation R rs s).Disjoint (rotation N ns s) := fun _ ha hb => hdisj (rotation_subset ha) (rotation_subset hb)
  have hfin : (rotation R rs s).Disjoint (rotation (rotation N ns s) nfs s) :=
    fun _ ha hb => hwin ha (rotation_subset hb)
  have hRn : (rotation R rs s).Nodup := nodup_rotation hnodup.of_append_left
  have hNn : (rotation N ns s).Nodup := nodup_rotation hnodup.of_append_right
  refine ⟨by rw [selectCommitteeInner_eq_none_iff, chooseForSession_eq_none_iff, chooseForSession_eq_none_iff],
    fun c hc => ?_⟩
  obtain ⟨hprod, hfinal⟩ := selectCommitteeInner_eq_some hc
  rw [getD_chooseForSession hrs hR, getD_chooseForSession hns hN] at hprod
  rw [chooseFinalityCommittee_eq hrs hns hnfs hR hN] at hfinal
  refine ⟨hprod, hprod ▸ hRn.append hNn hwin, hfinal, hfinal ▸ hRn.append (nodup_rotation hNn) hfin, ?_⟩
  rw [hprod, hfinal]
  exact List.append_subset.mpr
    ⟨List.subset_append_left _ _, fun _ hx => List.subset_append_right _ _ (rotation_subset hx)⟩

theorem card_sessionProducers_nonReserved [DecidableEq AccountId] (hnodup : (R ++ N).Nodup)
    (hR : 2 * R.length ≤ 2 ^ bits) (hN : 2 * N.length ≤ 2 ^ bits) {s0 k : Nat}
    (hsat : ∀ t < k, (s0 + t) * rs < 2 ^ bits ∧ (s0 + t) * ns < 2 ^ bits) {v : AccountId} (hv : v ∈ N) :
    #{t ∈ range k | v ∈ sessionProducers bits rs ns nfs R N (s0 + t)} =
      #{t ∈ range k | v ∈ rotation N ns (s0 + t)} := by
  congr 1
  refine filter_congr fun t ht => ?_
  obtain ⟨hrs, hns⟩ := hsat t (mem_range.mp ht)
  rw [sessionProducers_eq hrs hns hR hN, List.mem_append]
  exact or_iff_right fun hr => List.disjoint_of_nodup_append hnodup (rotation_subset hr) hv

theorem card_sessionProducers_reserved [DecidableEq AccountId] (hnodup : (R ++ N).Nodup)
    (hR : 2 * R.length ≤ 2 ^ bits) (hN : 2 * N.length ≤ 2 ^ bits) {s0 k : Nat}
    (hsat : ∀ t < k, (s0 + t) * rs < 2 ^ bits ∧ (s0 + t) * ns < 2 ^ bits) {v : AccountId} (hv : v ∈ R) :
    #{t ∈ range k | v ∈ sessionProducers bits rs ns nfs R N (s0 + t)} =
      #{t ∈ range k | v ∈ rotation R rs (s0 + t)} := by
  congr 1
  refine filter_congr fun t ht => ?_
  obtain ⟨hrs, hns⟩ := hsat t (mem_range.mp ht)
  rw [sessionProducers_eq hrs hns hR hN, List.mem_append]
  exact or_iff_left fun hn => List.disjoint_of_nodup_append hnodup hv (rotation_subset hn)

theorem committee_rotation_fair [DecidableEq AccountId] (bits rs ns nfs : Nat) (R N : List AccountId)
    (hnodup : (R ++ N).Nodup) (hR : 2 * R.length ≤ 2 ^ bits) (hN : 2 * N.length ≤ 2 ^ bits) :
    (∀ s, s * rs < 2 ^ bits → s * ns < 2 ^ bits → s * nfs < 2 ^ bits →
      (selectCommitteeInner bits s rs ns nfs R N = none ↔ (R = [] ∨ rs = 0) ∧ (N = [] ∨ ns = 0)) ∧
      ∀ c, selectCommitteeInner bits s rs ns nfs R N = some c →
        c.producers = rotation R rs s ++ rotation N ns s ∧ c.producers.Nodup ∧
        (rotation R rs s).length = min rs R.length ∧ (rotation N ns s).length = min ns N.length ∧
        c.finalizers = rotation R rs s ++ rotation (rotation N ns s) nfs s ∧ c.finalizers.Nodup ∧
        c.finalizers ⊆ c.producers ∧ (rotation (rotation N ns s) nfs s).length = min nfs (min ns N.length)) ∧
    (∀ s0, (∀ t < N.length / N.length.gcd ns, (s0 + t) * rs < 2 ^ bits ∧ (s0 + t) * ns < 2 ^ bits) →
      ∀ v ∈ N, #{t ∈ range (N.length / N.length.gcd ns) | v ∈ sessionProducers bits rs ns nfs R N (s0 + t)} =
        min ns N.length / N.length.gcd ns) ∧
    (∀ s0, (∀ t < R.length / R.length.gcd rs, (s0 + t) * rs < 2 ^ bits ∧ (s0 + t) * ns < 2 ^ bits) →
      ∀ v ∈ R, #{t ∈ range (R.length / R.length.gcd rs) | v ∈ sessionProducers bits rs ns nfs R N (s0 + t)} =
        min rs R.length / R.length.gcd rs) := by
  refine ⟨fun s hrs hns hnfs => ?_, fun s0 hsat v hv => ?_, fun s0 hsat v hv => ?_⟩
  · obtain ⟨hnone, hsome⟩ := selectCommitteeInner_spec hnodup hR hN hrs hns hnfs
    refine ⟨hnone, fun c hc => ?_⟩
    obtain ⟨hprod, hpn, hfinal, hfn, hsub⟩ := hsome c hc
    exact ⟨hprod, hpn, length_rotation, length_rotation, hfinal, hfn, hsub,
      by rw [length_rotation, length_rotation]⟩
  · rw [card_sessionProducers_nonReserved hnodup hR hN hsat hv]
    exact card_window_mem_rotation hnodup.of_append_right hv s0
  · rw [card_sessionProducers_reserved hnodup hR hN hsat hv]
    exact card_window_mem_rotation hnodup.of_append_left hv s0

/-- One reserved seat and two of three non-reserved seats on the wasm runtime:
over three sessions, each non-reserved validator produces in two. -/
theorem committee_rotation_fair_reference :
    #{t ∈ range 3 | 1 ∈ sessionProducers 32 1 2 1 [0] [1, 2, 3] t} = 2 := by
  have h := (committee_rotation_fair 32 1 2 1 [0] [1, 2, 3] (by decide) (by norm_num) (by norm_num)).2.1 0
    (by decide) 1 (by decide)
  simpa using h

/-- Three seats for two non-reserved validators: every session takes both, so
over the `2 / gcd 2 3 = 2` sessions each is a producer twice, not `3 / gcd 2 3 = 3`
times. -/
theorem rotation_more_seats_than_members :
    #{t ∈ range ([1, 2].length / [1, 2].length.gcd 3) | 1 ∈ sessionProducers 32 0 3 0 [] [1, 2] t} = 2 ∧
      3 / [1, 2].length.gcd 3 = 3 := by
  decide

end Fairness

end Setheum.CommitteeManagement
