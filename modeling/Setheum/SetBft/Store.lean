import Mathlib
import Setheum.SetBft.Units

/-!
# The unit store

`units::UnitStore` keeps units by hash and, for each creator and round, the
hash of the canonical unit: the first one inserted with that coordinate.
Removing the canonical unit of a coordinate leaves the coordinate without
one, even if other units of it stay.

A store is well formed when every unit is kept under its own hash and every
canonical hash names a stored unit of its coordinate; then
`canonical_by_hash` never panics. Inserting keeps this only for a unit whose
hash is not taken yet. The `top_row` cache, read only by status reports, is
left out.
-/

namespace Setheum.SetBft

structure UnitStore (U H : Type) where
  byHash : H → Option U
  hashesBy : Nat → AList (fun _ : Nat => H)

namespace UnitStore

open UnitLike

variable {U H : Type} [UnitLike U H]

def new : UnitStore U H := ⟨fun _ => none, fun _ => ∅⟩

def unit (s : UnitStore U H) (h : H) : Option U := s.byHash h

def canonicalUnit (s : UnitStore U H) (c : UnitCoord) : Option U :=
  ((s.hashesBy c.creator).lookup c.round).bind s.byHash

def maybeSetCanonical (s : UnitStore U H) (u : U) : UnitStore U H :=
  if (s.canonicalUnit (coord u)).isNone then
    { s with
      hashesBy := Function.update s.hashesBy (coord u).creator
        ((s.hashesBy (coord u).creator).insert (coord u).round (hash u)) }
  else s

/-- The canonical units of a creator, by round. -/
def canonicalUnits (s : UnitStore U H) (creator : Nat) : List U :=
  let hashes := s.hashesBy creator
  (List.range (hashes.keys.max?.getD 0 + 1)).filterMap fun round => (hashes.lookup round).bind s.byHash

structure WellFormed (s : UnitStore U H) : Prop where
  hash_eq : ∀ h u, s.byHash h = some u → hash u = h
  canonical : ∀ creator round h, (s.hashesBy creator).lookup round = some h →
    ∃ u, s.byHash h = some u ∧ coord u = ⟨round, creator⟩

variable {s : UnitStore U H} {u : U}

theorem wellFormed_new : (new : UnitStore U H).WellFormed where
  hash_eq _ _ h := nomatch h
  canonical _ _ _ h := by simp [new, AList.lookup_empty] at h

@[simp] theorem maybeSetCanonical_byHash (s : UnitStore U H) (u : U) :
    (s.maybeSetCanonical u).byHash = s.byHash := by
  unfold maybeSetCanonical
  split <;> rfl

theorem lookup_maybeSetCanonical (s : UnitStore U H) (u : U) (c : UnitCoord) :
    ((s.maybeSetCanonical u).hashesBy c.creator).lookup c.round =
      if (s.canonicalUnit (coord u)).isNone ∧ c = coord u then some (hash u)
      else (s.hashesBy c.creator).lookup c.round := by
  unfold maybeSetCanonical
  by_cases hnone : (s.canonicalUnit (coord u)).isNone
  · by_cases hc : c = coord u
    · subst hc
      simp [hnone]
    · simp only [hnone, if_true, true_and, hc, if_false]
      by_cases hcr : c.creator = (coord u).creator
      · have hr : c.round ≠ (coord u).round := fun hr => hc (UnitCoord.ext hr hcr)
        rw [hcr, Function.update_self, AList.lookup_insert_ne hr, ← hcr]
      · rw [Function.update_of_ne hcr]
  · simp [hnone]

namespace WellFormed

theorem canonicalUnit_eq (hwf : s.WellFormed) {c : UnitCoord} (hc : s.canonicalUnit c = some u) :
    coord u = c ∧ s.unit (hash u) = some u := by
  obtain ⟨h, hlookup, hu⟩ := Option.bind_eq_some_iff.mp hc
  obtain ⟨x, hx, hcoord⟩ := hwf.canonical _ _ _ hlookup
  obtain rfl : x = u := Option.some.inj (hx.symm.trans hu)
  exact ⟨hcoord, by rw [unit, hwf.hash_eq h x hx, hx]⟩

theorem lookup_ne_of_unit_eq_none (hwf : s.WellFormed) {h : H} (hh : s.unit h = none) (c : UnitCoord) :
    (s.hashesBy c.creator).lookup c.round ≠ some h := by
  intro hlookup
  obtain ⟨x, hx, -⟩ := hwf.canonical _ _ _ hlookup
  rw [unit, hx] at hh
  cases hh

end WellFormed

variable [DecidableEq H]

def insert (s : UnitStore U H) (u : U) : UnitStore U H :=
  let s := s.maybeSetCanonical u
  { s with byHash := Function.update s.byHash (hash u) (some u) }

def maybeUnsetCanonical (s : UnitStore U H) (u : U) : UnitStore U H :=
  if (s.hashesBy (coord u).creator).lookup (coord u).round = some (hash u) then
    { s with
      hashesBy := Function.update s.hashesBy (coord u).creator
        ((s.hashesBy (coord u).creator).erase (coord u).round) }
  else s

def remove (s : UnitStore U H) (h : H) : UnitStore U H :=
  match s.byHash h with
  | some u => { s.maybeUnsetCanonical u with byHash := Function.update s.byHash h none }
  | none => s


@[simp] theorem maybeUnsetCanonical_byHash (s : UnitStore U H) (u : U) :
    (s.maybeUnsetCanonical u).byHash = s.byHash := by
  unfold maybeUnsetCanonical
  split <;> rfl

theorem unit_insert (s : UnitStore U H) (u : U) (h : H) :
    (s.insert u).unit h = if h = hash u then some u else s.unit h := by
  by_cases hh : h = hash u
  · subst hh
    simp [insert, unit]
  · simp [insert, unit, hh]

theorem remove_of_unit_eq_some {h : H} (hs : s.unit h = some u) :
    s.remove h = ⟨Function.update s.byHash h none, (s.maybeUnsetCanonical u).hashesBy⟩ := by
  unfold remove
  rw [show s.byHash h = some u from hs]

theorem remove_of_unit_eq_none {h : H} (hs : s.unit h = none) : s.remove h = s := by
  unfold remove
  rw [show s.byHash h = none from hs]

theorem unit_remove (s : UnitStore U H) (h h' : H) :
    (s.remove h).unit h' = if h' = h then none else s.unit h' := by
  cases hs : s.unit h with
  | none =>
    rw [remove_of_unit_eq_none hs]
    by_cases hh : h' = h
    · subst hh
      simp [hs]
    · simp [hh]
  | some u =>
    rw [remove_of_unit_eq_some hs]
    by_cases hh : h' = h
    · subst hh
      simp [unit]
    · simp [unit, hh]

theorem lookup_maybeUnsetCanonical (s : UnitStore U H) (u : U) (c : UnitCoord) :
    ((s.maybeUnsetCanonical u).hashesBy c.creator).lookup c.round =
      if c = coord u ∧ (s.hashesBy c.creator).lookup c.round = some (hash u) then none
      else (s.hashesBy c.creator).lookup c.round := by
  unfold maybeUnsetCanonical
  by_cases hcan : (s.hashesBy (coord u).creator).lookup (coord u).round = some (hash u)
  · by_cases hc : c = coord u
    · subst hc
      simp [hcan]
    · simp only [hcan, if_true, hc, false_and, if_false]
      by_cases hcr : c.creator = (coord u).creator
      · have hr : c.round ≠ (coord u).round := fun hr => hc (UnitCoord.ext hr hcr)
        rw [hcr, Function.update_self, AList.lookup_erase_ne hr, ← hcr]
      · rw [Function.update_of_ne hcr]
  · have hnot : ¬ (c = coord u ∧ (s.hashesBy c.creator).lookup c.round = some (hash u)) := by
      rintro ⟨rfl, h⟩
      exact hcan h
    simp [hcan, hnot]

omit [UnitLike U H] in
theorem bind_update_of_ne {o : Option H} {f : H → Option U} {k : H} {v : Option U} (ho : o ≠ some k) :
    o.bind (Function.update f k v) = o.bind f := by
  cases o with
  | none => rfl
  | some h =>
    have hne : h ≠ k := fun heq => ho (heq ▸ rfl)
    simp [Function.update_of_ne hne]

namespace WellFormed

theorem hash_eq_insert (hwf : s.WellFormed) (h : H) (x : U) (hx : (s.insert u).byHash h = some x) :
    hash x = h := by
  by_cases hh : h = hash u
  · subst hh
    simp only [UnitStore.insert, Function.update_self, Option.some.injEq] at hx
    rw [hx]
  · simp only [UnitStore.insert, maybeSetCanonical_byHash, Function.update_of_ne hh] at hx
    exact hwf.hash_eq h x hx

theorem insert (hwf : s.WellFormed) (hfresh : s.unit (hash u) = none) : (s.insert u).WellFormed where
  hash_eq := hwf.hash_eq_insert
  canonical creator round h hlookup := by
    have hl := lookup_maybeSetCanonical s u ⟨round, creator⟩
    simp only [UnitStore.insert] at hlookup ⊢
    rw [hl] at hlookup
    split at hlookup
    · next hnew =>
      obtain rfl := Option.some.inj hlookup
      exact ⟨u, by simp, hnew.2.symm⟩
    · obtain ⟨x, hx, hcoord⟩ := hwf.canonical _ _ _ hlookup
      have hne : h ≠ hash u := by
        rintro rfl
        rw [unit, hx] at hfresh
        cases hfresh
      exact ⟨x, by rw [maybeSetCanonical_byHash, Function.update_of_ne hne, hx], hcoord⟩

theorem remove (hwf : s.WellFormed) (h : H) : (s.remove h).WellFormed := by
  cases hs : s.unit h with
  | none => rwa [remove_of_unit_eq_none hs]
  | some u =>
    have hhu : hash u = h := hwf.hash_eq h u hs
    rw [remove_of_unit_eq_some hs]
    constructor
    · intro h' x hx
      by_cases hh : h' = h
      · subst hh
        simp at hx
      · simp only [Function.update_of_ne hh] at hx
        exact hwf.hash_eq h' x hx
    · intro creator round h' hlookup
      have hl := lookup_maybeUnsetCanonical s u ⟨round, creator⟩
      rw [hl] at hlookup
      split at hlookup
      · cases hlookup
      · next hkept =>
        obtain ⟨x, hx, hcoord⟩ := hwf.canonical _ _ _ hlookup
        -- the removed unit was canonical at its coordinate only, and that entry is gone
        have hne : h' ≠ h := by
          rintro rfl
          obtain rfl : x = u := Option.some.inj (hx.symm.trans hs)
          exact hkept ⟨hcoord.symm, by rw [hlookup, hhu]⟩
        exact ⟨x, by simp only [Function.update_of_ne hne, hx], hcoord⟩

theorem canonicalUnit_insert (hwf : s.WellFormed) (hfresh : s.unit (hash u) = none) (c : UnitCoord) :
    (s.insert u).canonicalUnit c = if c = coord u then (s.canonicalUnit c).or (some u) else s.canonicalUnit c := by
  have hl := lookup_maybeSetCanonical s u c
  have hne := hwf.lookup_ne_of_unit_eq_none hfresh c
  unfold canonicalUnit at hl ⊢
  simp only [UnitStore.insert, maybeSetCanonical_byHash]
  rw [hl]
  split
  · next hnew =>
    obtain ⟨hnone, rfl⟩ := hnew
    simp only [Option.isNone_iff_eq_none] at hnone
    simp [hnone]
  · next hold =>
    rw [bind_update_of_ne hne]
    split
    · next hc =>
      subst hc
      have hsome : (((s.hashesBy (coord u).creator).lookup (coord u).round).bind s.byHash).isSome := by
        by_contra hnone
        exact hold ⟨by simpa [canonicalUnit] using hnone, rfl⟩
      obtain ⟨x, hx⟩ := Option.isSome_iff_exists.mp hsome
      rw [hx]
      rfl
    · rfl

theorem canonicalUnit_remove (hwf : s.WellFormed) (h : H) (c : UnitCoord) :
    (s.remove h).canonicalUnit c =
      if (s.hashesBy c.creator).lookup c.round = some h then none else s.canonicalUnit c := by
  cases hs : s.unit h with
  | none =>
    have hne := hwf.lookup_ne_of_unit_eq_none hs c
    simp [remove_of_unit_eq_none hs, hne]
  | some u =>
    have hhu : hash u = h := hwf.hash_eq h u hs
    rw [remove_of_unit_eq_some hs]
    have hl := lookup_maybeUnsetCanonical s u c
    unfold canonicalUnit
    rw [hl]
    by_cases hcan : (s.hashesBy c.creator).lookup c.round = some h
    · -- a canonical entry holding the removed hash is the removed unit's own
      obtain ⟨x, hx, hcoord⟩ := hwf.canonical _ _ _ hcan
      have hxu : x = u := Option.some.inj (hx.symm.trans hs)
      have hc : c = coord u := by rw [← hxu, hcoord]
      simp [hc, ← hcan, hhu]
    · have hkept : ¬ (c = coord u ∧ (s.hashesBy c.creator).lookup c.round = some (hash u)) :=
        fun hk => hcan (hhu ▸ hk.2)
      simp only [hkept, if_false, hcan]
      exact bind_update_of_ne hcan

theorem isSome_canonicalUnit_insert (hwf : s.WellFormed) (hfresh : s.unit (hash u) = none) (c : UnitCoord) :
    ((s.insert u).canonicalUnit c).isSome = ((s.canonicalUnit c).isSome || decide (c = coord u)) := by
  rw [hwf.canonicalUnit_insert hfresh]
  split <;> simp [*]

theorem canonicalUnit_remove_of_ne (hwf : s.WellFormed) {h : H} (hs : s.unit h = some u) {c : UnitCoord}
    (hc : c ≠ coord u) : (s.remove h).canonicalUnit c = s.canonicalUnit c := by
  rw [hwf.canonicalUnit_remove]
  split
  · next hcan =>
    obtain ⟨x, hx, hcoord⟩ := hwf.canonical _ _ _ hcan
    have hxu : x = u := Option.some.inj (hx.symm.trans hs)
    exact absurd (by rw [← hxu, hcoord]) hc
  · rfl

theorem canonicalUnit_remove_of_not_canonical (hwf : s.WellFormed) {h : H} (hs : s.unit h = some u)
    (hnot : ∀ c, s.canonicalUnit c ≠ some u) (c : UnitCoord) :
    (s.remove h).canonicalUnit c = s.canonicalUnit c := by
  rw [hwf.canonicalUnit_remove]
  split
  · next hcan =>
    obtain ⟨x, hx, -⟩ := hwf.canonical _ _ _ hcan
    obtain rfl : x = u := Option.some.inj (hx.symm.trans hs)
    exact absurd (by unfold canonicalUnit; rw [hcan, Option.bind_some]; exact hx) (hnot c)
  · rfl

end WellFormed

end UnitStore

end Setheum.SetBft
