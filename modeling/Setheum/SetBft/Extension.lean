import Mathlib
import Setheum.SetBft.Units

/-!
# Batches of the ordering extension

`extension::units::Units` keeps the units that reached the extension by hash,
and `remove_batch` takes out a head together with every unit still kept that
the head reaches through parents: a breadth-first search from the head that
removes each unit from the map as it finds it, reversed at the end so that
the batch starts with the least recent units.

The search meets a unit first along its shortest path from the head. With
parents of any lower round, as `ControlHash::validate` allows, a unit can be
found before another unit of the batch that has it as a parent, and then the
reversed batch lists that other unit first.
-/

namespace Setheum.SetBft

open UnitLike

/-- `UnitWithParents`: a unit with the hashes of its parents in creator order. -/
class UnitWithParents (U : Type) (H : outParam Type) extends UnitLike U H where
  parents : U → List H

/-- `ReconstructedUnit`: a unit with the hash and round of its parent of each
creator. -/
structure ReconstructedUnit (U H : Type) where
  unit : U
  parents : NodeMap (H × Nat)

instance {U H : Type} [UnitLike U H] : UnitWithParents (ReconstructedUnit U H) H where
  hash u := hash u.unit
  coord u := coord u.unit
  parents u := u.parents.iter.map fun e => e.2.1

namespace Extension

open UnitWithParents

variable {U H : Type} [DecidableEq H] [UnitWithParents U H]

structure Units (U H : Type) [DecidableEq H] where
  units : AList (fun _ : H => U)
  byRound : Nat → List H
  highestRound : Nat

namespace Units

def new : Units U H := ⟨∅, fun _ => [], 0⟩

/-- `add_unit`. -/
def addUnit (s : Units U H) (u : U) : Units U H :=
  let round := (coord u).round
  let highestRound := if round > s.highestRound then round else s.highestRound
  { units := s.units.insert (hash u) u
    byRound := Function.update s.byRound round (s.byRound round ++ [hash u])
    highestRound }

/-- The `for` loop over a unit's parents: every parent still kept is removed
from the map and queued, in the parents' order. -/
def takeParents (units : AList (fun _ : H => U)) : List H → AList (fun _ : H => U) × List U
  | [] => (units, [])
  | h :: hs =>
    match units.extract h with
    | (some v, units) =>
        let r := takeParents units hs
        (r.1, v :: r.2)
    | (none, units) => takeParents units hs

/-- The `while let` loop of `remove_batch`, with fuel: the queue, and the
batch in the order the units leave the queue. -/
def removeBatchLoop : Nat → AList (fun _ : H => U) → List U → List U → Option (AList (fun _ : H => U) × List U)
  | _, units, [], batch => some (units, batch)
  | 0, _, _ :: _, _ => none
  | fuel + 1, units, u :: queue, batch =>
    let r := takeParents units (parents u)
    removeBatchLoop fuel r.1 (queue ++ r.2) (batch ++ [u])

/-- `remove_batch`; `none` where the source panics, on a head that is not
kept. The loop runs once per unit it removes, so its fuel is the number of
units kept plus the head. -/
def removeBatch (s : Units U H) (head : H) : Option (Units U H × List U) := do
  let (u, units) := s.units.extract head
  let u ← u
  let (units, batch) ← removeBatchLoop (units.entries.length + 1) units [u] []
  pure ({ s with units }, batch.reverse)

/-! ### The search -/

section Search

variable {units units₁ units₂ : AList (fun _ : H => U)}

omit [UnitWithParents U H] in
theorem length_erase_add_one {a : H} (h : a ∈ units) :
    (units.erase a).entries.length + 1 = units.entries.length := by
  have hkeys : ∀ t : AList (fun _ : H => U), t.keys.length = t.entries.length :=
    fun _ => List.length_map _
  rw [← hkeys, ← hkeys, AList.keys_erase, List.length_erase_of_mem (AList.mem_keys.mp h)]
  have : 0 < units.keys.length := List.length_pos_of_mem (AList.mem_keys.mp h)
  omega

omit [UnitWithParents U H] in
theorem erase_of_notMem {a : H} (h : a ∉ units) : units.erase a = units :=
  AList.ext (List.kerase_of_notMem_keys h)

omit [UnitWithParents U H] in
theorem takeParents_cons (units : AList (fun _ : H => U)) (h : H) (hs : List H) :
    takeParents units (h :: hs) =
      match units.lookup h with
      | some v => ((takeParents (units.erase h) hs).1, v :: (takeParents (units.erase h) hs).2)
      | none => takeParents (units.erase h) hs := by
  rw [takeParents, AList.extract_eq_lookup_erase]
  cases units.lookup h <;> rfl

omit [UnitWithParents U H] in
theorem takeParents_length (hs : List H) (units : AList (fun _ : H => U)) :
    (takeParents units hs).1.entries.length + (takeParents units hs).2.length = units.entries.length := by
  induction hs generalizing units with
  | nil => rfl
  | cons h hs ih =>
      rw [takeParents_cons]
      cases hl : units.lookup h with
      | none =>
          rw [ih, erase_of_notMem (AList.lookup_eq_none.mp hl)]
      | some v =>
          have hmem : h ∈ units := AList.lookup_isSome.mp (by rw [hl]; rfl)
          simp only [List.length_cons]
          rw [← Nat.add_assoc, ih, length_erase_add_one hmem]

omit [UnitWithParents U H] in
theorem takeParents_perm (hs : List H) (p : units₁.entries.Perm units₂.entries) :
    (takeParents units₁ hs).2 = (takeParents units₂ hs).2 ∧
      (takeParents units₁ hs).1.entries.Perm (takeParents units₂ hs).1.entries := by
  induction hs generalizing units₁ units₂ with
  | nil => exact ⟨rfl, p⟩
  | cons h hs ih =>
      obtain ⟨hq, hp⟩ := ih (AList.perm_erase (a := h) p)
      rw [takeParents_cons, takeParents_cons, AList.perm_lookup p]
      cases units₂.lookup h with
      | none => exact ⟨hq, hp⟩
      | some v => exact ⟨by rw [hq], hp⟩

theorem removeBatchLoop_isSome {fuel : Nat} {queue batch : List U}
    (hfuel : queue.length + units.entries.length ≤ fuel) :
    (removeBatchLoop fuel units queue batch).isSome := by
  induction fuel generalizing units queue batch with
  | zero =>
      cases queue with
      | nil => rfl
      | cons u queue => simp at hfuel
  | succ fuel ih =>
      cases queue with
      | nil => rfl
      | cons u queue =>
          apply ih
          have hlen := takeParents_length (parents u) units
          simp only [List.length_cons] at hfuel
          simp only [List.length_append]
          omega

theorem removeBatchLoop_prefix {fuel : Nat} {queue batch : List U} {r : AList (fun _ : H => U) × List U}
    (h : removeBatchLoop fuel units queue batch = some r) : ∃ rest, r.2 = batch ++ rest := by
  induction fuel generalizing units queue batch with
  | zero =>
      cases queue with
      | nil =>
          cases h
          exact ⟨[], (List.append_nil _).symm⟩
      | cons u queue => cases h
  | succ fuel ih =>
      cases queue with
      | nil =>
          cases h
          exact ⟨[], (List.append_nil _).symm⟩
      | cons u queue =>
          obtain ⟨rest, hrest⟩ := ih h
          exact ⟨u :: rest, by rw [hrest, List.append_assoc, List.singleton_append]⟩

theorem removeBatchLoop_perm {fuel : Nat} {queue batch : List U}
    (p : units₁.entries.Perm units₂.entries) :
    (removeBatchLoop fuel units₁ queue batch).map Prod.snd =
      (removeBatchLoop fuel units₂ queue batch).map Prod.snd := by
  induction fuel generalizing units₁ units₂ queue batch with
  | zero => cases queue <;> rfl
  | succ fuel ih =>
      cases queue with
      | nil => rfl
      | cons u queue =>
          obtain ⟨hq, hp⟩ := takeParents_perm (parents u) p
          simp only [removeBatchLoop]
          rw [hq]
          exact ih hp

end Search

theorem removeBatch_eq (s : Units U H) (head : H) :
    s.removeBatch head = (s.units.lookup head).bind fun u =>
      (removeBatchLoop ((s.units.erase head).entries.length + 1) (s.units.erase head) [u] []).map
        fun r => ({ s with units := r.1 }, r.2.reverse) := by
  unfold removeBatch
  rw [AList.extract_eq_lookup_erase]
  cases s.units.lookup head with
  | none => rfl
  | some u =>
      rcases hloop : removeBatchLoop ((s.units.erase head).entries.length + 1) (s.units.erase head) [u] []
        with _ | r
      · simp [hloop]
      · simp [hloop]

theorem removeBatch_isSome {s : Units U H} {head : H} (h : head ∈ s.units) :
    (s.removeBatch head).isSome := by
  obtain ⟨u, hu⟩ := Option.isSome_iff_exists.mp (AList.lookup_isSome.mpr h)
  rw [removeBatch_eq, hu, Option.bind_some, Option.isSome_map]
  exact removeBatchLoop_isSome (by simp only [List.length_singleton]; omega)

theorem removeBatch_getLast {s s' : Units U H} {head : H} {batch : List U}
    (h : s.removeBatch head = some (s', batch)) :
    ∃ u, s.units.lookup head = some u ∧ batch.getLast? = some u := by
  rw [removeBatch_eq] at h
  obtain ⟨u, hu, h⟩ := Option.bind_eq_some_iff.mp h
  obtain ⟨r, hr, hrs⟩ := Option.map_eq_some_iff.mp h
  rw [removeBatchLoop] at hr
  obtain ⟨rest, hrest⟩ := removeBatchLoop_prefix hr
  obtain ⟨-, rfl⟩ := Prod.mk.inj hrs
  refine ⟨u, hu, ?_⟩
  simp [hrest]

theorem removeBatch_perm {s₁ s₂ : Units U H} (p : s₁.units.entries.Perm s₂.units.entries) (head : H) :
    (s₁.removeBatch head).map Prod.snd = (s₂.removeBatch head).map Prod.snd := by
  have pe := AList.perm_erase (a := head) p
  rw [removeBatch_eq, removeBatch_eq, AList.perm_lookup p, pe.length_eq]
  cases s₂.units.lookup head with
  | none => rfl
  | some u =>
      have h : (removeBatchLoop ((s₂.units.erase head).entries.length + 1) (s₁.units.erase head) [u] []).map
          Prod.snd = (removeBatchLoop ((s₂.units.erase head).entries.length + 1) (s₂.units.erase head) [u] []).map
          Prod.snd := removeBatchLoop_perm pe
      have hf : ∀ t : Units U H,
          (Prod.snd ∘ fun r : AList (fun _ : H => U) × List U => ({ t with units := r.1 }, r.2.reverse)) =
            List.reverse ∘ Prod.snd := fun _ => rfl
      rw [Option.bind_some, Option.bind_some, Option.map_map, Option.map_map, hf, hf, ← Option.map_map,
        ← Option.map_map, h]

theorem foldl_addUnit_congr (us : List U) {s₁ s₂ : Units U H}
    (hs : s₁.units.entries.Perm s₂.units.entries) :
    (us.foldl addUnit s₁).units.entries.Perm (us.foldl addUnit s₂).units.entries := by
  induction us generalizing s₁ s₂ with
  | nil => exact hs
  | cons u us ih => exact ih (AList.perm_insert hs)

theorem foldl_addUnit_perm {us₁ us₂ : List U} (hp : us₁.Perm us₂)
    (hh : ∀ u ∈ us₁, ∀ v ∈ us₁, hash u = hash v → u = v) {s₁ s₂ : Units U H}
    (hs : s₁.units.entries.Perm s₂.units.entries) :
    (us₁.foldl addUnit s₁).units.entries.Perm (us₂.foldl addUnit s₂).units.entries := by
  induction hp generalizing s₁ s₂ with
  | nil => exact hs
  | cons u _ ih =>
      exact ih (fun x hx y hy => hh x (List.mem_cons_of_mem _ hx) y (List.mem_cons_of_mem _ hy))
        (AList.perm_insert hs)
  | swap u v us =>
      simp only [List.foldl_cons]
      apply foldl_addUnit_congr
      by_cases huv : hash v = hash u
      · obtain rfl := hh v (by simp) u (by simp) huv
        exact AList.perm_insert (AList.perm_insert hs)
      · exact (AList.perm_insert (AList.perm_insert hs)).trans (AList.insert_insert_of_ne _ huv)
  | trans p₁₂ _ ih₁₂ ih₂₃ =>
      exact (ih₁₂ hh hs).trans
        (ih₂₃ (fun x hx y hy => hh x (p₁₂.symm.subset hx) y (p₁₂.symm.subset hy)) (List.Perm.refl _))

end Units

/-- The batch of a head is the same list whatever order the units were added
in, when units of one hash are one unit. -/
theorem removeBatch_addUnit_order {us₁ us₂ : List U} (hp : us₁.Perm us₂)
    (hh : ∀ u ∈ us₁, ∀ v ∈ us₁, hash u = hash v → u = v) (head : H) :
    ((us₁.foldl Units.addUnit Units.new).removeBatch head).map Prod.snd =
      ((us₂.foldl Units.addUnit Units.new).removeBatch head).map Prod.snd :=
  Units.removeBatch_perm (Units.foldl_addUnit_perm hp hh (List.Perm.refl _)) head

/-- Every unit of the list comes after the parents of it that the list holds. -/
def ParentsFirst (batch : List U) : Prop :=
  batch.Pairwise fun earlier later => UnitLike.hash later ∉ parents earlier

instance (batch : List U) : Decidable (ParentsFirst batch) :=
  inferInstanceAs (Decidable (batch.Pairwise fun earlier later => UnitLike.hash later ∉ parents earlier))

namespace Reference

/-- A unit of the tests: its coordinate, hashed as `4 * round + creator`. -/
structure TestUnit where
  coord : UnitCoord

instance : UnitLike TestUnit Nat where
  hash u := 4 * u.coord.round + u.coord.creator
  coord u := u.coord

def unitHash (round creator : Nat) : Nat := 4 * round + creator

def testUnit (round creator : Nat) (parents : NodeMap (Nat × Nat)) : ReconstructedUnit TestUnit Nat :=
  ⟨⟨⟨round, creator⟩⟩, parents⟩

/-- The parents of each of the four creators at `round`. -/
def fullParents (round : Nat) : NodeMap (Nat × Nat) :=
  (List.range 4).map fun creator => some (unitHash round creator, round)

/-- Four nodes. Rounds 0 and 1 are full; round 2 has the units of creators 1
to 3; the head, of creator 1 in round 3, has creator 0's unit of round 1 as
its parent, two rounds below. -/
def dag : List (ReconstructedUnit TestUnit Nat) :=
  (List.range 4).map (fun creator => testUnit 0 creator (NodeMap.withSize 4)) ++
    (List.range 4).map (fun creator => testUnit 1 creator (fullParents 0)) ++
    [1, 2, 3].map (fun creator => testUnit 2 creator (fullParents 1)) ++
    [testUnit 3 1 [some (unitHash 1 0, 1), some (unitHash 2 1, 2), some (unitHash 2 2, 2), some (unitHash 2 3, 2)]]

/-- The control hash of a unit's parents. -/
def parentRounds (u : ReconstructedUnit TestUnit Nat) : ControlHash Nat :=
  ⟨u.parents.map (Option.map Prod.snd), 0⟩

/-- The units, added parents first, pass `validate_non_initial_round`; the
batch of the head lists creator 1's unit of round 2 before its parent of
round 1, and the units of round 1 before their parents of round 0. -/
theorem removeBatch_not_parents_first :
    (∀ u ∈ dag, 0 < (coord u).round → (parentRounds u).validateNonInitialRound (coord u) = .ok ()) ∧
      ((Units.removeBatch (dag.foldl Units.addUnit Units.new) (unitHash 3 1)).map fun r => r.2.map coord) =
        some [⟨1, 3⟩, ⟨1, 2⟩, ⟨1, 1⟩, ⟨0, 3⟩, ⟨0, 2⟩, ⟨0, 1⟩, ⟨0, 0⟩, ⟨2, 3⟩, ⟨2, 2⟩, ⟨2, 1⟩, ⟨1, 0⟩, ⟨3, 1⟩] ∧
      ((Units.removeBatch (dag.foldl Units.addUnit Units.new) (unitHash 3 1)).map fun r =>
        decide (ParentsFirst r.2)) = some false :=
  ⟨by decide, by decide, by decide⟩

/-- Added in the reverse order, the units give the head the same batch. -/
theorem removeBatch_reversed :
    ((dag.reverse.foldl Units.addUnit Units.new).removeBatch (unitHash 3 1)).map Prod.snd =
      ((dag.foldl Units.addUnit Units.new).removeBatch (unitHash 3 1)).map Prod.snd :=
  removeBatch_addUnit_order (List.reverse_perm dag)
    (List.inj_on_of_nodup_map (by decide : (dag.reverse.map UnitLike.hash).Nodup)) _

end Reference

end Extension

end Setheum.SetBft
