import Setheum.SetBft.Store
import Setheum.Lib.System

/-!
# The unit store over runs: the canonical index and the top row

`UnitStore` also caches, for each creator, the highest round of its canonical
units (`top_row`): raised when a unit becomes canonical above it, recomputed
from the remaining canonical rounds when the canonical unit at it is removed,
and dropped when none remains.

Over every run of inserts and removals from the empty store in which units
with one hash are one unit, the store stays well formed, so a canonical unit
is stored under its hash and has its coordinate, and the cache is the highest
canonical round. `canonical_units` lists a creator's canonical units by
strictly increasing round. Two units that share a hash break the index: the
second replaces the first in `by_hash`, and the first's coordinate then names
a unit of another coordinate. For the signed units the consensus stores, a
`Hasher` that tells full units apart is enough: two units of one hash are then
one full unit, perhaps signed twice, and the index keeps each coordinate's
full unit.
-/

namespace Setheum.SetBft

open UnitLike

theorem List.max?_eq_of_mem_iff {l l' : List Nat} (h : ∀ x, x ∈ l ↔ x ∈ l') : l.max? = l'.max? := by
  cases hl' : l'.max? with
  | none =>
      rw [List.max?_eq_none_iff] at hl' ⊢
      subst hl'
      exact List.eq_nil_iff_forall_not_mem.mpr fun x hx => List.not_mem_nil ((h x).mp hx)
  | some a =>
      obtain ⟨ha, hmax⟩ := List.max?_eq_some_iff.mp hl'
      exact List.max?_eq_some_iff.mpr ⟨(h a).mpr ha, fun b hb => hmax b ((h b).mp hb)⟩

namespace UnitStore

variable {U H : Type} [UnitLike U H] {s : UnitStore U H} {u x : U}

theorem hashesBy_maybeSetCanonical (s : UnitStore U H) (u : U) (creator : Nat) :
    (s.maybeSetCanonical u).hashesBy creator =
      if (s.canonicalUnit (coord u)).isNone ∧ creator = (coord u).creator then
        (s.hashesBy creator).insert (coord u).round (hash u)
      else s.hashesBy creator := by
  unfold maybeSetCanonical
  by_cases hnone : (s.canonicalUnit (coord u)).isNone
  · by_cases hc : creator = (coord u).creator
    · subst hc
      simp [hnone]
    · simp [hnone, hc]
  · simp [hnone]

theorem WellFormed.canonicalUnit_isNone (hwf : s.WellFormed) (c : UnitCoord) :
    (s.canonicalUnit c).isNone ↔ (s.hashesBy c.creator).lookup c.round = none := by
  unfold canonicalUnit
  cases hlookup : (s.hashesBy c.creator).lookup c.round with
  | none => simp
  | some h =>
      obtain ⟨x, hx, -⟩ := hwf.canonical _ _ _ hlookup
      simp [hx]

/-! ## `canonical_units` -/

omit [UnitLike U H] in
theorem mem_canonicalUnits {creator : Nat} :
    u ∈ s.canonicalUnits creator ↔ ∃ round, s.canonicalUnit ⟨round, creator⟩ = some u := by
  unfold canonicalUnits canonicalUnit
  simp only [List.mem_filterMap, List.mem_range]
  constructor
  · rintro ⟨round, -, hround⟩
    exact ⟨round, hround⟩
  · rintro ⟨round, hround⟩
    refine ⟨round, Nat.lt_succ_of_le (List.le_max?_getD_of_mem ?_), hround⟩
    obtain ⟨h, hlookup, -⟩ := Option.bind_eq_some_iff.mp hround
    exact AList.mem_keys.mp (AList.lookup_isSome.mp (by simp [hlookup]))

theorem WellFormed.canonicalUnits_rounds (hwf : s.WellFormed) (creator : Nat) :
    ((s.canonicalUnits creator).map fun u => (coord u).round).Pairwise (· < ·) := by
  unfold canonicalUnits
  rw [List.pairwise_map]
  refine List.Pairwise.filterMap _ ?_ List.pairwise_lt_range
  intro round round' hlt y hy y' hy'
  have hround : ∀ {r : Nat} {z : U}, ((s.hashesBy creator).lookup r).bind s.byHash = some z → (coord z).round = r := by
    intro r z hz
    obtain ⟨h, hlookup, hz⟩ := Option.bind_eq_some_iff.mp hz
    obtain ⟨z', hz', hcoord⟩ := hwf.canonical _ _ _ hlookup
    obtain rfl : z' = z := Option.some.inj (hz'.symm.trans hz)
    rw [hcoord]
  rw [hround hy, hround hy']
  exact hlt

theorem WellFormed.mem_canonicalUnits_rounds (hwf : s.WellFormed) (creator round : Nat) :
    round ∈ (s.canonicalUnits creator).map (fun u => (coord u).round) ↔ round ∈ (s.hashesBy creator).keys := by
  simp only [List.mem_map, mem_canonicalUnits]
  constructor
  · rintro ⟨y, ⟨round', hy⟩, rfl⟩
    obtain ⟨hcoord, -⟩ := hwf.canonicalUnit_eq hy
    obtain ⟨h, hlookup, -⟩ := Option.bind_eq_some_iff.mp hy
    rw [hcoord]
    exact AList.mem_keys.mp (AList.lookup_isSome.mp (by simp [hlookup]))
  · intro hround
    obtain ⟨h, hlookup⟩ := Option.isSome_iff_exists.mp (AList.lookup_isSome.mpr (AList.mem_keys.mpr hround))
    obtain ⟨y, hy, hcoord⟩ := hwf.canonical _ _ _ hlookup
    refine ⟨y, ⟨round, ?_⟩, by rw [hcoord]⟩
    unfold canonicalUnit
    simp [hlookup, hy]

variable [DecidableEq H]

theorem hashesBy_maybeUnsetCanonical (s : UnitStore U H) (u : U) (creator : Nat) :
    (s.maybeUnsetCanonical u).hashesBy creator =
      if (s.hashesBy (coord u).creator).lookup (coord u).round = some (hash u) ∧ creator = (coord u).creator then
        (s.hashesBy creator).erase (coord u).round
      else s.hashesBy creator := by
  unfold maybeUnsetCanonical
  by_cases hcan : (s.hashesBy (coord u).creator).lookup (coord u).round = some (hash u)
  · by_cases hc : creator = (coord u).creator
    · subst hc
      simp [hcan]
    · simp [hcan, hc]
  · simp [hcan]

theorem insert_of_unit_eq_some (hu : s.unit (hash u) = some u) :
    s.insert u = s.maybeSetCanonical u := by
  have hbyHash := maybeSetCanonical_byHash s u
  have hself : Function.update s.byHash (hash u) (some u) = s.byHash := Function.update_eq_self_iff.mpr hu.symm
  unfold insert
  generalize s.maybeSetCanonical u = t at hbyHash ⊢
  obtain ⟨byHash, hashesBy⟩ := t
  dsimp only at hbyHash ⊢
  subst hbyHash
  rw [hself]

/-- When units of one hash have one coordinate, every insert keeps the store
well formed: a canonical entry under the inserted hash then names the inserted
unit, at the coordinate of the unit it replaced. -/
theorem WellFormed.insert_of_hash_coord (hcoord : ∀ v w : U, hash v = hash w → coord v = coord w)
    (hwf : s.WellFormed) : (s.insert u).WellFormed := by
  cases hu : s.unit (hash u) with
  | none => exact hwf.insert hu
  | some x =>
      refine ⟨hwf.hash_eq_insert, fun creator round h hlookup => ?_⟩
      have hl := lookup_maybeSetCanonical s u ⟨round, creator⟩
      simp only [UnitStore.insert] at hlookup ⊢
      rw [hl] at hlookup
      split at hlookup
      · next hnew =>
        obtain rfl := Option.some.inj hlookup
        exact ⟨u, by simp, hnew.2.symm⟩
      · obtain ⟨y, hy, hycoord⟩ := hwf.canonical _ _ _ hlookup
        by_cases hh : h = hash u
        · subst hh
          obtain rfl : y = x := Option.some.inj (hy.symm.trans hu)
          exact ⟨u, by simp, (hcoord u y (hwf.hash_eq _ y hu).symm).trans hycoord⟩
        · exact ⟨y, by rw [maybeSetCanonical_byHash, Function.update_of_ne hh, hy], hycoord⟩

theorem WellFormed.canonicalUnit_insert_hash (hwf : s.WellFormed) {c : UnitCoord}
    (hc : s.canonicalUnit c = some x) : ∃ y, (s.insert u).canonicalUnit c = some y ∧ hash y = hash x := by
  obtain ⟨h, hlookup, hx⟩ := Option.bind_eq_some_iff.mp hc
  have hkept : ((s.maybeSetCanonical u).hashesBy c.creator).lookup c.round = some h := by
    rw [lookup_maybeSetCanonical]
    split
    · next hnew =>
        obtain ⟨hnone, rfl⟩ := hnew
        rw [hc] at hnone
        cases hnone
    · exact hlookup
  show ∃ y, (((s.maybeSetCanonical u).hashesBy c.creator).lookup c.round).bind
      (Function.update (s.maybeSetCanonical u).byHash (hash u) (some u)) = some y ∧ hash y = hash x
  rw [hkept, Option.bind_some, maybeSetCanonical_byHash]
  by_cases hh : h = hash u
  · subst hh
    exact ⟨u, Function.update_self _ _ _, (hwf.hash_eq _ x hx).symm⟩
  · exact ⟨x, by rw [Function.update_of_ne hh, hx], rfl⟩

theorem WellFormed.canonicalUnit_insert_of_eq_some (hinj : Function.Injective (hash : U → H))
    (hwf : s.WellFormed) {c : UnitCoord} (hc : s.canonicalUnit c = some x) :
    (s.insert u).canonicalUnit c = some x := by
  obtain ⟨y, hy, hh⟩ := hwf.canonicalUnit_insert_hash (u := u) hc
  rwa [← hinj hh]

end UnitStore

/-! ## The store with its top row -/

/-- `UnitStore` with its `top_row` cache. -/
structure CachedUnitStore (U H : Type) where
  store : UnitStore U H
  topRow : Nat → Option Nat

namespace CachedUnitStore

variable {U H : Type} [UnitLike U H] [DecidableEq H]

def new : CachedUnitStore U H := ⟨UnitStore.new, fun _ => none⟩

/-- The top row after a unit of coordinate `c` became canonical: its round,
if it is above the creator's top or the creator has none. -/
def raiseTop (topRow : Nat → Option Nat) (c : UnitCoord) : Nat → Option Nat :=
  if ((topRow c.creator).map fun maxRound => decide (c.round > maxRound)).getD true then
    Function.update topRow c.creator (some c.round)
  else topRow

/-- `insert`: `maybe_set_canonical`, with its top-row update, then the unit by
its hash. -/
def insert (s : CachedUnitStore U H) (u : U) : CachedUnitStore U H where
  store := s.store.insert u
  topRow := if (s.store.canonicalUnit (coord u)).isNone then raiseTop s.topRow (coord u) else s.topRow

/-- `remove`: the unit leaves `by_hash`; if it was canonical its coordinate is
erased, and if it was at the top the top is recomputed from the creator's
remaining canonical rounds. -/
def remove (s : CachedUnitStore U H) (h : H) : CachedUnitStore U H where
  store := s.store.remove h
  topRow :=
    match s.store.byHash h with
    | some u =>
        if (s.store.hashesBy (coord u).creator).lookup (coord u).round = some (hash u) ∧
            s.topRow (coord u).creator = some (coord u).round then
          Function.update s.topRow (coord u).creator
            ((s.store.maybeUnsetCanonical u).hashesBy (coord u).creator).keys.max?
        else s.topRow
    | none => s.topRow

/-- `top_round_for`. -/
def topRoundFor (s : CachedUnitStore U H) (creator : Nat) : Option Nat := s.topRow creator

/-- The calls that change a store. -/
inductive Op (U H : Type) where
  | insert (u : U)
  | remove (h : H)

def apply (s : CachedUnitStore U H) : Op U H → CachedUnitStore U H
  | .insert u => s.insert u
  | .remove h => s.remove h

/-- The store from `UnitStore::new`, under any inserts and removals. -/
def system : Transition.System (CachedUnitStore U H) (Op U H) where
  init s := s = new
  step s op := some (s.apply op)

/-- The store is well formed and its top row is each creator's highest
canonical round. -/
structure Consistent (s : CachedUnitStore U H) : Prop where
  wellFormed : s.store.WellFormed
  topRow_eq : ∀ creator, s.topRow creator = (s.store.hashesBy creator).keys.max?

omit [DecidableEq H] in
theorem consistent_new : (new : CachedUnitStore U H).Consistent where
  wellFormed := UnitStore.wellFormed_new
  topRow_eq _ := rfl

variable {s : CachedUnitStore U H}

theorem raiseTop_eq {keys : List Nat} {c : UnitCoord} {topRow : Nat → Option Nat}
    (htop : topRow c.creator = keys.max?) :
    raiseTop topRow c c.creator = (c.round :: keys).max? := by
  rw [List.max?_cons]
  unfold raiseTop
  cases hmax : keys.max? with
  | none =>
      have hm : topRow c.creator = none := htop.trans hmax
      simp [hm]
  | some m =>
      have hm : topRow c.creator = some m := htop.trans hmax
      by_cases hlt : c.round > m
      · simp [hm, hlt, max_eq_left (le_of_lt hlt)]
      · simp [hm, hlt, max_eq_right (Nat.le_of_not_lt hlt)]

theorem Consistent.insert (hc : s.Consistent) (hcoord : ∀ v w : U, hash v = hash w → coord v = coord w)
    (u : U) : (s.insert u).Consistent where
  wellFormed := hc.wellFormed.insert_of_hash_coord hcoord
  topRow_eq creator := by
    simp only [CachedUnitStore.insert, UnitStore.insert, UnitStore.hashesBy_maybeSetCanonical]
    by_cases hnone : (s.store.canonicalUnit (coord u)).isNone
    · rw [if_pos hnone]
      by_cases hcreator : creator = (coord u).creator
      · -- the new round is not a canonical round yet, so it joins the keys
        subst hcreator
        have hfresh : (coord u).round ∉ (s.store.hashesBy (coord u).creator).keys := by
          rw [← AList.mem_keys, ← AList.lookup_isSome, (hc.wellFormed.canonicalUnit_isNone _).mp hnone]
          simp
        rw [if_pos ⟨hnone, rfl⟩, AList.keys_insert, List.erase_of_not_mem hfresh]
        exact raiseTop_eq (hc.topRow_eq _)
      · rw [if_neg fun h => hcreator h.2]
        unfold raiseTop
        split_ifs
        · rw [Function.update_of_ne hcreator]
          exact hc.topRow_eq creator
        · exact hc.topRow_eq creator
    · rw [if_neg hnone, if_neg fun h => hnone h.1]
      exact hc.topRow_eq creator

theorem Consistent.remove (hc : s.Consistent) (h : H) : (s.remove h).Consistent where
  wellFormed := hc.wellFormed.remove h
  topRow_eq creator := by
    unfold CachedUnitStore.remove
    cases hs : s.store.byHash h with
    | none =>
        simp only [UnitStore.remove_of_unit_eq_none (show s.store.unit h = none from hs)]
        exact hc.topRow_eq creator
    | some u =>
        rw [UnitStore.remove_of_unit_eq_some (show s.store.unit h = some u from hs)]
        dsimp only
        by_cases hcan : (s.store.hashesBy (coord u).creator).lookup (coord u).round = some (hash u)
        · by_cases hcreator : creator = (coord u).creator
          · subst hcreator
            have hkeys : (s.store.maybeUnsetCanonical u).hashesBy (coord u).creator =
                (s.store.hashesBy (coord u).creator).erase (coord u).round := by
              rw [UnitStore.hashesBy_maybeUnsetCanonical, if_pos ⟨hcan, rfl⟩]
            rw [hkeys]
            by_cases htop : s.topRow (coord u).creator = some (coord u).round
            · -- the top was removed: recomputed from what remains
              rw [if_pos ⟨hcan, htop⟩, Function.update_self]
            · -- a lower round was removed: the top is still a canonical round, and the highest
              rw [if_neg fun h => htop h.2, hc.topRow_eq, AList.keys_erase]
              have hmem : (coord u).round ∈ (s.store.hashesBy (coord u).creator).keys :=
                AList.mem_keys.mp (AList.lookup_isSome.mp (by simp [hcan]))
              obtain ⟨m, hm⟩ := Option.ne_none_iff_exists'.mp
                (mt List.max?_eq_none_iff.mp (List.ne_nil_of_mem hmem))
              rw [hc.topRow_eq, hm] at htop
              rw [hm]
              obtain ⟨hmkey, hmax⟩ := List.max?_eq_some_iff.mp hm
              have hne : m ≠ (coord u).round := fun h => htop (by rw [h])
              symm
              exact List.max?_eq_some_iff.mpr ⟨(List.mem_erase_of_ne hne).mpr hmkey,
                fun b hb => hmax b (List.mem_of_mem_erase hb)⟩
          · -- another creator: neither its canonical rounds nor its top move
            have hkeys : (s.store.maybeUnsetCanonical u).hashesBy creator = s.store.hashesBy creator := by
              rw [UnitStore.hashesBy_maybeUnsetCanonical, if_neg fun h => hcreator h.2]
            rw [hkeys]
            split_ifs
            · rw [Function.update_of_ne hcreator]
              exact hc.topRow_eq creator
            · exact hc.topRow_eq creator
        · have hkeys : (s.store.maybeUnsetCanonical u).hashesBy creator = s.store.hashesBy creator := by
            rw [UnitStore.hashesBy_maybeUnsetCanonical, if_neg fun h => hcan h.1]
          rw [hkeys, if_neg fun h => hcan h.1]
          exact hc.topRow_eq creator

theorem consistent_invariant (hcoord : ∀ v w : U, hash v = hash w → coord v = coord w) :
    Transition.Invariant (system : Transition.System (CachedUnitStore U H) (Op U H)) Consistent := by
  apply Transition.invariant_of_inductive
  · rintro s rfl
    exact consistent_new
  · rintro s t (u | h) hs hstep
    · cases hstep
      exact hs.insert hcoord u
    · cases hstep
      exact hs.remove h

omit [DecidableEq H] in
theorem Consistent.topRoundFor_eq (hc : s.Consistent) (creator : Nat) :
    s.topRoundFor creator = ((s.store.canonicalUnits creator).map fun u => (coord u).round).max? := by
  rw [topRoundFor, hc.topRow_eq]
  exact List.max?_eq_of_mem_iff fun round => (hc.wellFormed.mem_canonicalUnits_rounds creator round).symm

theorem unit_store_canonical_index (hinj : Function.Injective (hash : U → H)) :
    ∀ s : CachedUnitStore U H, Transition.Reachable system s →
      (∀ c u, s.store.canonicalUnit c = some u → s.store.unit (hash u) = some u ∧ coord u = c) ∧
      (∀ u c x, s.store.canonicalUnit c = some x → (s.insert u).store.canonicalUnit c = some x) ∧
      (∀ h u, s.store.unit h = some u → (∀ c, s.store.canonicalUnit c ≠ some u) →
        ∀ c, (s.remove h).store.canonicalUnit c = s.store.canonicalUnit c) ∧
      (∀ creator, s.topRoundFor creator = ((s.store.canonicalUnits creator).map fun u => (coord u).round).max?) ∧
      (∀ creator, ((s.store.canonicalUnits creator).map fun u => (coord u).round).Pairwise (· < ·)) ∧
      (∀ creator u, u ∈ s.store.canonicalUnits creator ↔ ∃ round, s.store.canonicalUnit ⟨round, creator⟩ = some u) := by
  intro s hs
  have hc := consistent_invariant (fun v w h => congrArg coord (hinj h)) s hs
  have hwf := hc.wellFormed
  exact ⟨fun c u hu => ⟨(hwf.canonicalUnit_eq hu).2, (hwf.canonicalUnit_eq hu).1⟩,
    fun u c x hx => hwf.canonicalUnit_insert_of_eq_some hinj hx,
    fun h u hu hnot c => hwf.canonicalUnit_remove_of_not_canonical hu hnot c,
    hc.topRoundFor_eq, hwf.canonicalUnits_rounds, fun creator u => UnitStore.mem_canonicalUnits⟩

/-- For the signed units the consensus stores, a hasher that tells full units
apart is enough: units of one hash are one full unit, signed perhaps twice.
Over every run a canonical unit is stored under its hash at its coordinate,
an insert keeps each coordinate's canonical full unit, removing a unit that
is canonical nowhere changes none, and the top row is the highest canonical
round. -/
theorem signed_unit_store_index {D S : Type} {K : Keychain H S} {hasher : Hasher H D}
    (hinj : Function.Injective hasher.unitHash) :
    ∀ s : CachedUnitStore (SignedUnit K hasher) H, Transition.Reachable system s →
      (∀ c u, s.store.canonicalUnit c = some u → s.store.unit (hash u) = some u ∧ coord u = c) ∧
      (∀ u c x, s.store.canonicalUnit c = some x → ∃ y, (s.insert u).store.canonicalUnit c = some y ∧
        y.unchecked.signable = x.unchecked.signable) ∧
      (∀ h u, s.store.unit h = some u → (∀ c, s.store.canonicalUnit c ≠ some u) →
        ∀ c, (s.remove h).store.canonicalUnit c = s.store.canonicalUnit c) ∧
      (∀ creator, s.topRoundFor creator = ((s.store.canonicalUnits creator).map fun u => (coord u).round).max?) ∧
      (∀ creator, ((s.store.canonicalUnits creator).map fun u => (coord u).round).Pairwise (· < ·)) := by
  intro s hs
  have hcoord : ∀ v w : SignedUnit K hasher, hash v = hash w → coord v = coord w :=
    fun v w h => congrArg FullUnit.coord (hinj h)
  have hc := consistent_invariant hcoord s hs
  have hwf := hc.wellFormed
  refine ⟨fun c u hu => ⟨(hwf.canonicalUnit_eq hu).2, (hwf.canonicalUnit_eq hu).1⟩, fun u c x hx => ?_,
    fun h u hu hnot c => hwf.canonicalUnit_remove_of_not_canonical hu hnot c, hc.topRoundFor_eq,
    hwf.canonicalUnits_rounds⟩
  obtain ⟨y, hy, hh⟩ := hwf.canonicalUnit_insert_hash (u := u) hx
  exact ⟨y, hy, hinj hh⟩

end CachedUnitStore

namespace Reference

/-- A unit that is its own coordinate and hash. -/
structure CoordUnit where
  coord : UnitCoord
  deriving DecidableEq

instance : UnitLike CoordUnit UnitCoord where
  hash u := u.coord
  coord u := u.coord

theorem coordUnit_hash_injective : Function.Injective (UnitLike.hash : CoordUnit → UnitCoord) := by
  rintro ⟨a⟩ ⟨b⟩ h
  cases h
  rfl

/-- The store after two units of creator 0, at rounds 1 and then 0. -/
def twoUnits : CachedUnitStore CoordUnit UnitCoord := (CachedUnitStore.new.insert ⟨⟨1, 0⟩⟩).insert ⟨⟨0, 0⟩⟩

theorem two_units_by_round :
    ((twoUnits.store.canonicalUnits 0).map fun u => (UnitLike.coord u).round).Pairwise (· < ·) :=
  have hreach : Transition.Reachable CachedUnitStore.system twoUnits :=
    .step (.insert ⟨⟨0, 0⟩⟩) (.step (.insert ⟨⟨1, 0⟩⟩) (.init rfl) rfl) rfl
  (CachedUnitStore.unit_store_canonical_index coordUnit_hash_injective twoUnits hreach).2.2.2.2.1 0

/-- A unit whose hash is a field of its own, so two units may share one. -/
structure HashedUnit where
  coord : UnitCoord
  hash : Nat
  deriving DecidableEq

instance : UnitLike HashedUnit Nat where
  hash u := u.hash
  coord u := u.coord

/-- A hasher that encodes every field of a full unit, so tells full units apart. -/
def encodingHasher : Hasher Nat Nat where
  unitHash u := Encodable.encode (u.preUnit.coord.round, u.preUnit.coord.creator, u.preUnit.controlHash.parents,
    u.preUnit.controlHash.combinedHash, u.data, u.sessionId)
  createControlHash _ := 0

theorem encodingHasher_injective : Function.Injective encodingHasher.unitHash := by
  rintro ⟨⟨⟨r, c⟩, ⟨p, h⟩⟩, d, s⟩ ⟨⟨⟨r', c'⟩, ⟨p', h'⟩⟩, d', s'⟩ heq
  have hfields := Encodable.encode_injective heq
  simp only [Prod.mk.injEq] at hfields
  obtain ⟨rfl, rfl, rfl, rfl, rfl, rfl⟩ := hfields
  rfl

/-- Four nodes, and every signature verifies. -/
def trustingKeychain : Keychain Nat Nat := ⟨4, 0, fun _ _ _ => true⟩

def roundZeroUnit : FullUnit Nat Nat := ⟨⟨⟨0, 0⟩, ⟨NodeMap.withSize 4, 0⟩⟩, some 5, 0⟩

def signedWith (signature : Nat) : SignedUnit trustingKeychain encodingHasher := ⟨⟨roundZeroUnit, signature⟩, rfl⟩

/-- The round-0 unit signed a second time: inserted again, it takes its own
place, and its coordinate keeps the same full unit. -/
theorem resigned_unit_keeps_index :
    ∃ y, ((CachedUnitStore.new.insert (signedWith 0)).insert (signedWith 1)).store.canonicalUnit ⟨0, 0⟩ = some y ∧
      y.unchecked.signable = roundZeroUnit := by
  have hreach : Transition.Reachable CachedUnitStore.system
      (CachedUnitStore.new.insert (signedWith 0) : CachedUnitStore _ Nat) :=
    .step (.insert (signedWith 0)) (.init rfl) rfl
  have hx : (CachedUnitStore.new.insert (signedWith 0)).store.canonicalUnit ⟨0, 0⟩ = some (signedWith 0) := rfl
  exact (CachedUnitStore.signed_unit_store_index encodingHasher_injective _ hreach).2.1 (signedWith 1) ⟨0, 0⟩ _ hx

/-- Two units of one hash: after the second, the first's coordinate names the
second, a unit of another round. -/
theorem shared_hash_breaks_index :
    ((CachedUnitStore.new.insert ⟨⟨0, 0⟩, 7⟩).insert ⟨⟨1, 0⟩, 7⟩ : CachedUnitStore HashedUnit Nat).store.canonicalUnit
      ⟨0, 0⟩ = some ⟨⟨1, 0⟩, 7⟩ := by
  decide

end Reference

end Setheum.SetBft
