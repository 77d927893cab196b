import Mathlib
import Setheum.Lib.Result

/-!
# Set-BFT units

A unit is created by one node in one round and names, through its control
hash, the rounds of its parents by creator. Units are signed by their
creator; a unit that passes `units::Validator::validate_unit` is a
`SignedUnit`, whose signature verifies by construction.

Hashing is a parameter: the hash of a unit's encoding and the hash
`ControlHash::create_control_hash` takes of a parent map.
-/

namespace Setheum.SetBft

open Result

/-- `NodeMap<T>`: an optional entry for each node. -/
abbrev NodeMap (T : Type) := List (Option T)

namespace NodeMap

variable {T : Type}

def withSize (n : Nat) : NodeMap T := List.replicate n none

def size (m : NodeMap T) : Nat := m.length

/-- Reading past the end panics in the source; here it is no entry. -/
def get (m : NodeMap T) (i : Nat) : Option T := m[i]?.join

def iter (m : NodeMap T) : List (Nat × T) := m.zipIdx.filterMap fun e => e.1.map (e.2, ·)

/-- Writing past the end panics in the source; here it changes nothing. -/
def insert (m : NodeMap T) (i : Nat) (v : T) : NodeMap T := m.set i (some v)

@[simp] theorem get_withSize (n i : Nat) : (withSize n : NodeMap T).get i = none := by
  simp only [get, withSize, List.getElem?_replicate]
  split <;> rfl

@[simp] theorem size_insert (m : NodeMap T) (i : Nat) (v : T) : (m.insert i v).size = m.size :=
  List.length_set

theorem get_insert_self {m : NodeMap T} {i : Nat} (v : T) (h : i < m.size) : (m.insert i v).get i = some v := by
  simp [get, insert, List.getElem?_set_self h]

theorem get_insert_ne {m : NodeMap T} {i j : Nat} (v : T) (h : i ≠ j) : (m.insert i v).get j = m.get j := by
  simp [get, insert, List.getElem?_set_ne h]

theorem lt_size_of_isSome_get {m : NodeMap T} {i : Nat} (h : (m.get i).isSome) : i < m.size := by
  by_contra hle
  simp [get, List.getElem?_eq_none (Nat.le_of_not_lt hle)] at h

theorem isSome_get_insert {m : NodeMap T} {i j : Nat} (v : T) (h : (m.get j).isSome) :
    ((m.insert i v).get j).isSome := by
  by_cases hij : i = j
  · subst hij
    rw [get_insert_self v (lt_size_of_isSome_get h)]
    rfl
  · rwa [get_insert_ne v hij]

theorem get_map {T' : Type} (f : T → T') (m : NodeMap T) (i : Nat) :
    get (m.map (Option.map f)) i = (m.get i).map f := by
  simp only [get, List.getElem?_map]
  cases m[i]? with
  | none => rfl
  | some e => cases e <;> rfl

theorem mem_iff_get {m : NodeMap T} {v : T} : some v ∈ m ↔ ∃ i, m.get i = some v := by
  rw [List.mem_iff_getElem?]
  constructor
  · rintro ⟨i, hi⟩
    exact ⟨i, by simp [get, hi]⟩
  · rintro ⟨i, hi⟩
    refine ⟨i, ?_⟩
    simp only [get] at hi
    cases hm : m[i]? with
    | none => rw [hm] at hi; cases hi
    | some e => rw [hm] at hi; cases e <;> simp_all

theorem mem_iterFrom {i : Nat} {v : T} :
    ∀ (m : NodeMap T) (k : Nat),
      (i, v) ∈ (m.zipIdx k).filterMap (fun e => e.1.map (e.2, ·)) ↔ k ≤ i ∧ m[i - k]? = some (some v)
  | [], k => by simp
  | a :: m, k => by
      have ih := mem_iterFrom (i := i) (v := v) m (k + 1)
      rw [List.zipIdx_cons, List.filterMap_cons]
      cases a with
      | none =>
          simp only [Option.map_none]
          rw [ih]
          constructor
          · rintro ⟨hk, hv⟩
            refine ⟨by omega, ?_⟩
            rwa [show i - k = i - (k + 1) + 1 by omega]
          · rintro ⟨hk, hv⟩
            have hik : i ≠ k := by
              rintro rfl
              simp at hv
            refine ⟨by omega, ?_⟩
            rwa [show i - k = i - (k + 1) + 1 by omega] at hv
      | some w =>
          simp only [Option.map_some, List.mem_cons, Prod.mk.injEq]
          rw [ih]
          constructor
          · rintro (⟨rfl, rfl⟩ | ⟨hk, hv⟩)
            · simp
            · refine ⟨by omega, ?_⟩
              rwa [show i - k = i - (k + 1) + 1 by omega]
          · rintro ⟨hk, hv⟩
            by_cases hik : i = k
            · subst hik
              simp only [Nat.sub_self, List.getElem?_cons_zero, Option.some.injEq] at hv
              exact Or.inl ⟨rfl, hv.symm⟩
            · refine Or.inr ⟨by omega, ?_⟩
              rwa [show i - k = i - (k + 1) + 1 by omega] at hv

theorem mem_iter {m : NodeMap T} {i : Nat} {v : T} : (i, v) ∈ m.iter ↔ m.get i = some v := by
  rw [iter, mem_iterFrom m 0, get, Nat.sub_zero]
  constructor
  · rintro ⟨-, h⟩
    rw [h]
    rfl
  · intro h
    refine ⟨Nat.zero_le _, ?_⟩
    cases hm : m[i]? with
    | none => rw [hm] at h; cases h
    | some e => rw [hm] at h; cases e <;> simp_all

theorem map_fst_iterFrom_sublist :
    ∀ (m : NodeMap T) (k : Nat),
      (((m.zipIdx k).filterMap fun e => e.1.map (e.2, ·)).map Prod.fst).Sublist (List.range' k m.length)
  | [], _ => by simp
  | a :: m, k => by
      rw [List.zipIdx_cons, List.filterMap_cons, List.length_cons, List.range'_succ]
      cases a with
      | none => exact (map_fst_iterFrom_sublist m (k + 1)).cons k
      | some w => exact (map_fst_iterFrom_sublist m (k + 1)).cons_cons k

theorem nodup_map_fst_iter (m : NodeMap T) : (m.iter.map Prod.fst).Nodup :=
  (map_fst_iterFrom_sublist m 0).nodup List.nodup_range'

theorem length_filter_iterFrom (p : T → Bool) :
    ∀ (m : NodeMap T) (k : Nat),
      (((m.zipIdx k).filterMap fun e => e.1.map (e.2, ·)).filter fun e => p e.2).length =
        m.countP fun e => e.any p
  | [], _ => rfl
  | a :: m, k => by
      rw [List.zipIdx_cons, List.filterMap_cons, List.countP_cons, ← length_filter_iterFrom p m (k + 1)]
      cases a with
      | none => simp
      | some w =>
          simp only [Option.map_some, List.filter_cons, Option.any_some]
          split <;> simp

theorem length_filter_iter (m : NodeMap T) (p : T → Bool) :
    (m.iter.filter fun e => p e.2).length = m.countP fun e => e.any p :=
  length_filter_iterFrom p m 0

theorem length_le_countP {m : NodeMap T} {p : T → Bool} {nodes : List Nat} (hnodes : nodes.Nodup)
    (h : ∀ i ∈ nodes, ∃ v, m.get i = some v ∧ p v = true) :
    nodes.length ≤ m.countP fun e => e.any p := by
  rw [← length_filter_iter, ← List.length_map (f := Prod.fst)]
  refine hnodes.length_le_of_subset fun i hi => ?_
  obtain ⟨v, hv, hp⟩ := h i hi
  exact List.mem_map.mpr ⟨(i, v), List.mem_filter.mpr ⟨mem_iter.mpr hv, hp⟩, rfl⟩

theorem foldl_insert_iterFrom {T' : Type} (f : T → T') :
    ∀ (m : NodeMap T) (k : Nat) (P : NodeMap T'), P.length = k →
      ((m.zipIdx k).filterMap fun e => e.1.map (e.2, ·)).foldl (fun acc e => acc.insert e.1 (f e.2))
          (P ++ List.replicate m.length none) = P ++ m.map (Option.map f)
  | [], _, P, _ => by simp
  | a :: m, k, P, hP => by
      rw [List.zipIdx_cons, List.filterMap_cons, List.length_cons, List.replicate_succ]
      cases a with
      | none =>
          have := foldl_insert_iterFrom f m (k + 1) (P ++ [none]) (by simp [hP])
          simpa using this
      | some w =>
          rw [Option.map_some, List.foldl_cons]
          have hset : (P ++ none :: List.replicate m.length none).insert k (f w) =
              (P ++ [some (f w)]) ++ List.replicate m.length none := by
            rw [insert, ← hP, List.set_append_right _ _ (Nat.le_refl _), Nat.sub_self]
            simp
          rw [hset, foldl_insert_iterFrom f m (k + 1) _ (by simp [hP])]
          simp

end NodeMap

@[ext] structure UnitCoord where
  round : Nat
  creator : Nat
  deriving DecidableEq

/-- `NodeCount::consensus_threshold`. -/
def consensusThreshold (n : Nat) : Nat := 2 * n / 3 + 1

structure ControlHash (H : Type) where
  parents : NodeMap Nat
  combinedHash : H
  deriving DecidableEq

inductive ControlHashError (H : Type) where
  | roundZeroWithSomeParents (count : Nat)
  | roundZeroBadControlHash (current expected : H)
  | notDescendantOfPreviousUnit (creator : Nat)
  | descendantOfPreviousUnitHasWrongRound (round : Nat)
  | notEnoughParentsForRound (round : Nat)
  | parentsHigherThanRound (round : Nat)
  deriving DecidableEq

namespace ControlHash

variable {H : Type} [DecidableEq H]

/-- The coordinates of the parents. -/
def parentCoords (ch : ControlHash H) : List UnitCoord := ch.parents.iter.map fun e => ⟨e.2, e.1⟩

def nMembers (ch : ControlHash H) : Nat := ch.parents.size

/-- `ControlHash::new`: the parents' rounds, and the hash of their hashes
and rounds. -/
def new (createControlHash : NodeMap (H × Nat) → H) (parentsWithRoundsAndHashes : NodeMap (H × Nat)) :
    ControlHash H :=
  let parentsWithRounds := parentsWithRoundsAndHashes.iter.foldl (fun m e => m.insert e.1 e.2.2)
    (NodeMap.withSize parentsWithRoundsAndHashes.size)
  ⟨parentsWithRounds, createControlHash parentsWithRoundsAndHashes⟩

omit [DecidableEq H] in
theorem parents_new (createControlHash : NodeMap (H × Nat) → H) (parents : NodeMap (H × Nat)) :
    (new createControlHash parents).parents = parents.map (Option.map Prod.snd) := by
  have h := NodeMap.foldl_insert_iterFrom Prod.snd parents 0 [] rfl
  rw [List.nil_append, List.nil_append] at h
  exact h

omit [DecidableEq H] in
theorem length_filter_parentCoords (ch : ControlHash H) (r : Nat) :
    (ch.parentCoords.filter (·.round == r)).length = ch.parents.countP fun e => e.any (· == r) := by
  rw [parentCoords, List.filter_map, List.length_map, ← NodeMap.length_filter_iter]
  rfl

omit [DecidableEq H] in
theorem mem_parentCoords {ch : ControlHash H} {c : UnitCoord} :
    c ∈ ch.parentCoords ↔ ch.parents.get c.creator = some c.round := by
  rw [parentCoords, List.mem_map]
  constructor
  · rintro ⟨e, he, rfl⟩
    exact NodeMap.mem_iter.mp he
  · intro h
    exact ⟨(c.creator, c.round), NodeMap.mem_iter.mpr h, rfl⟩

def validateInitialRound (createControlHash : NodeMap (H × Nat) → H) (ch : ControlHash H) :
    Except (ControlHashError H) Unit := do
  ensure (ch.parentCoords.length == 0) (.roundZeroWithSomeParents ch.parentCoords.length)
  let recalculated := createControlHash (NodeMap.withSize ch.nMembers)
  ensure (ch.combinedHash == recalculated) (.roundZeroBadControlHash ch.combinedHash recalculated)

def validateNonInitialRound (ch : ControlHash H) (coord : UnitCoord) : Except (ControlHashError H) Unit := do
  match ch.parents.get coord.creator with
  | none => throw (.notDescendantOfPreviousUnit coord.creator)
  | some parentRound =>
      ensure (coord.round - 1 == parentRound) (.descendantOfPreviousUnitHasWrongRound parentRound)
  ensure (consensusThreshold ch.nMembers ≤ (ch.parentCoords.filter (·.round == coord.round - 1)).length)
    (.notEnoughParentsForRound (coord.round - 1))
  ensure (!ch.parentCoords.any (·.round > coord.round - 1)) (.parentsHigherThanRound (coord.round - 1))

def validate (createControlHash : NodeMap (H × Nat) → H) (ch : ControlHash H) (coord : UnitCoord) :
    Except (ControlHashError H) Unit :=
  match coord.round with
  | 0 => ch.validateInitialRound createControlHash
  | _ + 1 => ch.validateNonInitialRound coord

end ControlHash

structure PreUnit (H : Type) where
  coord : UnitCoord
  controlHash : ControlHash H
  deriving DecidableEq

def PreUnit.nMembers {H : Type} [DecidableEq H] (u : PreUnit H) : Nat := u.controlHash.nMembers

structure FullUnit (H D : Type) where
  preUnit : PreUnit H
  data : Option D
  sessionId : Nat
  deriving DecidableEq

namespace FullUnit

variable {H D : Type}

def coord (u : FullUnit H D) : UnitCoord := u.preUnit.coord

def creator (u : FullUnit H D) : Nat := u.coord.creator

def round (u : FullUnit H D) : Nat := u.coord.round

end FullUnit

structure UncheckedSigned (T S : Type) where
  signable : T
  signature : S
  deriving DecidableEq

abbrev UncheckedSignedUnit (H D S : Type) := UncheckedSigned (FullUnit H D) S

/-- The part of a `Keychain` the checks read: the committee size, our index,
and signature verification of a hash by a node. -/
structure Keychain (H S : Type) where
  nodeCount : Nat
  index : Nat
  verify : H → S → Nat → Bool

/-- The hashes of the `Hasher`: of a unit's encoding, and of the encoded
parent map (`ControlHash::create_control_hash`). -/
structure Hasher (H D : Type) where
  unitHash : FullUnit H D → H
  createControlHash : NodeMap (H × Nat) → H

variable {H D S T : Type}

/-- `Signed<T, K>`: a signed value whose signature verifies for its index. -/
structure Signed (K : Keychain H S) (hash : T → H) (index : T → Nat) where
  unchecked : UncheckedSigned T S
  verified : K.verify (hash unchecked.signable) unchecked.signature (index unchecked.signable) = true

/-- The signature verifies for the value's index. -/
def UncheckedSigned.Verifies (K : Keychain H S) (hash : T → H) (index : T → Nat) (u : UncheckedSigned T S) : Prop :=
  K.verify (hash u.signable) u.signature (index u.signable) = true

/-- `UncheckedSigned::check`. -/
def UncheckedSigned.check (K : Keychain H S) (hash : T → H) (index : T → Nat) (u : UncheckedSigned T S) :
    Except (UncheckedSigned T S) (Signed K hash index) :=
  if h : K.verify (hash u.signable) u.signature (index u.signable) = true then .ok ⟨u, h⟩ else .error u

abbrev SignedUnit (K : Keychain H S) (hasher : Hasher H D) := Signed K hasher.unitHash (FullUnit.creator (D := D))

/-- The `Unit` trait: what a unit store reads of a unit. -/
class UnitLike (U : Type) (H : outParam Type) where
  hash : U → H
  coord : U → UnitCoord

instance {K : Keychain H S} {hasher : Hasher H D} : UnitLike (SignedUnit K hasher) H where
  hash u := hasher.unitHash u.unchecked.signable
  coord u := u.unchecked.signable.coord

/-- `units::Validator`. -/
structure UnitValidator (H S : Type) where
  sessionId : Nat
  keychain : Keychain H S
  maxRound : Nat

inductive ValidationError (H D S : Type) where
  | wrongSignature (u : UncheckedSignedUnit H D S)
  | wrongSession (u : FullUnit H D)
  | roundTooHigh (u : FullUnit H D)
  | wrongNumberOfMembers (u : PreUnit H)
  | parentValidationFailed (u : PreUnit H) (e : ControlHashError H)

section Validate

variable [DecidableEq H] (V : UnitValidator H S) (hasher : Hasher H D)

def validateUnitParents (su : SignedUnit V.keychain hasher) :
    Except (ValidationError H D S) (SignedUnit V.keychain hasher) := do
  let preUnit := su.unchecked.signable.preUnit
  ensure (preUnit.nMembers == V.keychain.nodeCount) (.wrongNumberOfMembers preUnit)
  (preUnit.controlHash.validate hasher.createControlHash preUnit.coord).mapError
    (.parentValidationFailed preUnit)
  pure su

/-- `Validator::validate_unit`: the signature, the session, the round bound,
the committee size and the control hash. -/
def validateUnit (uu : UncheckedSignedUnit H D S) :
    Except (ValidationError H D S) (SignedUnit V.keychain hasher) := do
  let su ← (uu.check V.keychain hasher.unitHash FullUnit.creator).mapError .wrongSignature
  let fullUnit := su.unchecked.signable
  ensure (fullUnit.sessionId == V.sessionId) (.wrongSession fullUnit)
  ensure (fullUnit.round ≤ V.maxRound) (.roundTooHigh fullUnit)
  validateUnitParents V hasher su

end Validate

/-- `ForkProof`: two units of one creator in one round. -/
abbrev ForkProof (H D S : Type) := UncheckedSignedUnit H D S × UncheckedSignedUnit H D S

structure Alert (H D S : Type) where
  sender : Nat
  proof : ForkProof H D S
  legitUnits : List (UncheckedSignedUnit H D S)
  deriving DecidableEq

/-- Two different units of one coordinate, each signed by its creator. -/
def IsForkProof (K : Keychain H S) (hasher : Hasher H D) (p : ForkProof H D S) : Prop :=
  p.1 ≠ p.2 ∧ p.1.signable.coord = p.2.signable.coord ∧
    p.1.Verifies K hasher.unitHash FullUnit.creator ∧ p.2.Verifies K hasher.unitHash FullUnit.creator

/-- `Alert::forker`. -/
def Alert.forker (a : Alert H D S) : Nat := a.proof.1.signable.creator

end Setheum.SetBft
