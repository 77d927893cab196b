import Mathlib
import Setheum.SetBft.Extension
import Setheum.Lib.Result
import Setheum.Lib.System

/-!
# The DAG of reconstructed units

`dag::reconstruction::dag::Dag` holds back each unit until all its parents
have been returned. A unit with parents still missing waits in
`orphaned_units`, registered in `waiting_for` under each missing parent, and
`move_to_dag` releases the waiting units breadth first once their last
parent arrives.

`add_unit` deduplicates only the units already in the DAG. A unit added again
while it waits is registered twice under each missing parent, and when its
last parent arrives the second registration finds no orphan: `move_to_dag`
panics at `expect("we were waiting for parents")`. On every run that adds no
unit while a unit of its hash waits, no call panics, every hash is returned
at most once and every unit after all its parents.
-/

namespace Setheum.SetBft

namespace Reconstruction

open UnitLike UnitWithParents

variable {U H : Type} [DecidableEq H]

/-- `OrphanedUnit`: a unit and the set of its parents not yet in the DAG. -/
structure OrphanedUnit (U H : Type) where
  unit : U
  missingParents : List H

namespace OrphanedUnit

/-- `OrphanedUnit::new`: the unit itself when no parent is missing. -/
def new (unit : U) (missingParents : List H) : Except U (OrphanedUnit U H) :=
  match missingParents.isEmpty with
  | true => .error unit
  | false => .ok ⟨unit, missingParents⟩

/-- `resolve_parent`: the unit once its last missing parent is resolved. -/
def resolveParent (o : OrphanedUnit U H) (parent : H) : Except (OrphanedUnit U H) U :=
  -- `HashSet::remove`
  let missingParents := o.missingParents.filter (· ≠ parent)
  match missingParents.isEmpty with
  | true => .ok o.unit
  | false => .error ⟨o.unit, missingParents⟩

/-- The unit released when `parent` is resolved, if it is. -/
def released (parent : H) (o : OrphanedUnit U H) : Option U :=
  (o.resolveParent parent).toOption

/-- The orphan put back when `parent` is resolved, if the unit is not released. -/
def kept (parent : H) (o : OrphanedUnit U H) : Option (OrphanedUnit U H) :=
  match o.resolveParent parent with
  | .ok _ => none
  | .error o => some o

omit [DecidableEq H] in
theorem new_eq_error {unit u : U} {missingParents : List H} :
    new unit missingParents = .error u ↔ u = unit ∧ missingParents = [] := by
  unfold new
  cases missingParents <;> simp [eq_comm]

omit [DecidableEq H] in
theorem new_eq_ok {unit : U} {missingParents : List H} {o : OrphanedUnit U H} :
    new unit missingParents = .ok o ↔ o = ⟨unit, missingParents⟩ ∧ missingParents ≠ [] := by
  unfold new
  cases missingParents <;> simp [eq_comm]

theorem resolveParent_eq (o : OrphanedUnit U H) (parent : H) :
    o.resolveParent parent =
      if ∀ q ∈ o.missingParents, q = parent then .ok o.unit
      else .error ⟨o.unit, o.missingParents.filter (· ≠ parent)⟩ := by
  unfold resolveParent
  dsimp only
  by_cases hall : ∀ q ∈ o.missingParents, q = parent
  · have h : (o.missingParents.filter (· ≠ parent)).isEmpty = true :=
      List.isEmpty_iff.mpr (List.filter_eq_nil_iff.mpr fun q hq => by simp [hall q hq])
    rw [if_pos hall, h]
  · have h : (o.missingParents.filter (· ≠ parent)).isEmpty = false := by
      obtain ⟨q, hq, hne⟩ : ∃ q ∈ o.missingParents, q ≠ parent := by simpa using hall
      exact Bool.eq_false_iff.mpr fun he => by
        simpa [hne] using List.filter_eq_nil_iff.mp (List.isEmpty_iff.mp he) q hq
    rw [if_neg hall, h]

theorem released_eq_some {parent : H} {o : OrphanedUnit U H} {u : U} :
    released parent o = some u ↔ u = o.unit ∧ ∀ q ∈ o.missingParents, q = parent := by
  unfold released
  rw [resolveParent_eq]
  by_cases h : ∀ q ∈ o.missingParents, q = parent
  · rw [if_pos h]
    simp only [Except.toOption, Option.some.injEq]
    exact ⟨fun hu => ⟨hu.symm, h⟩, fun hu => hu.1.symm⟩
  · rw [if_neg h]
    simp only [Except.toOption, reduceCtorEq, false_iff, not_and]
    exact fun _ => h

theorem kept_eq_some {parent : H} {o o' : OrphanedUnit U H} :
    kept parent o = some o' ↔
      o' = ⟨o.unit, o.missingParents.filter (· ≠ parent)⟩ ∧ ∃ q ∈ o.missingParents, q ≠ parent := by
  unfold kept
  rw [resolveParent_eq]
  by_cases h : ∀ q ∈ o.missingParents, q = parent
  · rw [if_pos h]
    simp only [reduceCtorEq, false_iff, not_and, not_exists]
    exact fun _ q hq hne => hne (h q hq)
  · rw [if_neg h]
    obtain ⟨q, hq, hne⟩ : ∃ q ∈ o.missingParents, q ≠ parent := by simpa using h
    simp only [Option.some.injEq]
    exact ⟨fun he => ⟨he.symm, q, hq, hne⟩, fun he => he.1.symm⟩

theorem kept_of_missing {parent q : H} {o : OrphanedUnit U H} (hq : q ∈ o.missingParents)
    (hne : q ≠ parent) : ∃ o', kept parent o = some o' ∧ q ∈ o'.missingParents :=
  ⟨_, kept_eq_some.mpr ⟨rfl, q, hq, hne⟩, by simp [hq, hne]⟩

theorem kept_of_released {parent : H} {o : OrphanedUnit U H} {u : U}
    (h : released parent o = some u) : kept parent o = none := by
  unfold released at h
  unfold kept
  cases hr : o.resolveParent parent with
  | ok => rfl
  | error => simp [hr, Except.toOption] at h

end OrphanedUnit

open OrphanedUnit

/-- How a call of the model fails to return. -/
inductive Failure
  /-- The panic of `expect("we were waiting for parents")`. -/
  | waitingForParents
  /-- The fuel of `move_to_dag`'s loop ran out; `addUnit_ne_outOfFuel` shows
  that it never does. -/
  | outOfFuel
  deriving DecidableEq, Repr

/-- `Dag`: the orphans by hash, the orphans waiting for each parent, and the
hashes of the units returned. -/
structure Dag (U H : Type) where
  orphanedUnits : AList (fun _ : H => OrphanedUnit U H)
  waitingFor : H → List H
  dagUnits : List H

namespace Dag

/-- `Dag::new`. -/
def new : Dag U H := ⟨∅, fun _ => [], []⟩

/-- The `for` loop of `move_to_dag` over the children that waited for
`unitHash`: each is taken out of `orphaned_units` and either released to the
queue or put back with one parent fewer missing. -/
def resolveChildren (unitHash : H) :
    List H → AList (fun _ : H => OrphanedUnit U H) → List U →
      Except Failure (AList (fun _ : H => OrphanedUnit U H) × List U)
  | [], orphanedUnits, readyUnits => .ok (orphanedUnits, readyUnits)
  | child :: children, orphanedUnits, readyUnits =>
    match orphanedUnits.extract child with
    | (none, _) => .error .waitingForParents
    | (some orphan, orphanedUnits) =>
      match orphan.resolveParent unitHash with
      | .ok unit => resolveChildren unitHash children orphanedUnits (readyUnits ++ [unit])
      | .error orphan => resolveChildren unitHash children (orphanedUnits.insert child orphan) readyUnits

/-- The DAG once `unitHash` is in it and the children that waited for it were
resolved into `orphanedUnits`. -/
def moved (s : Dag U H) (unitHash : H) (orphanedUnits : AList (fun _ : H => OrphanedUnit U H)) :
    Dag U H where
  orphanedUnits
  -- `waiting_for.remove(&unit_hash)`
  waitingFor := Function.update s.waitingFor unitHash []
  dagUnits := s.dagUnits.insert unitHash

section Moved

variable {s : Dag U H} {unitHash : H} {orphanedUnits : AList (fun _ : H => OrphanedUnit U H)}

@[simp] theorem moved_orphanedUnits : (s.moved unitHash orphanedUnits).orphanedUnits = orphanedUnits := rfl

@[simp] theorem moved_waitingFor :
    (s.moved unitHash orphanedUnits).waitingFor = Function.update s.waitingFor unitHash [] := rfl

@[simp] theorem moved_dagUnits : (s.moved unitHash orphanedUnits).dagUnits = s.dagUnits.insert unitHash := rfl

end Moved

/-- The children released when `unitHash` is resolved, in order. -/
def releasedChildren (orphanedUnits : AList (fun _ : H => OrphanedUnit U H)) (unitHash : H)
    (children : List H) : List U :=
  children.filterMap fun c => (orphanedUnits.lookup c).bind (released unitHash)

variable [UnitWithParents U H]

/-- The `while let` loop of `move_to_dag`, with fuel: the queue of ready
units and the units returned so far. -/
def moveToDagLoop : Nat → Dag U H → List U → List U → Except Failure (Dag U H × List U)
  | _, s, [], result => .ok (s, result)
  | 0, _, _ :: _, _ => .error .outOfFuel
  | fuel + 1, s, unit :: readyUnits, result => do
    let unitHash := hash unit
    let (orphanedUnits, readyUnits) ←
      resolveChildren unitHash (s.waitingFor unitHash) s.orphanedUnits readyUnits
    moveToDagLoop fuel (s.moved unitHash orphanedUnits) readyUnits (result ++ [unit])

/-- `move_to_dag`. Each round of the loop returns one unit, and every unit
but the first leaves `orphaned_units`, so the fuel is their number plus one. -/
def moveToDag (s : Dag U H) (unit : U) : Except Failure (Dag U H × List U) :=
  moveToDagLoop (s.orphanedUnits.entries.length + 1) s [unit] []

/-- The `Ok(orphan)` arm of `add_unit`: the orphan registered under each
missing parent and stored under its hash. -/
def addOrphan (s : Dag U H) (orphan : OrphanedUnit U H) : Dag U H :=
  let unitHash := hash orphan.unit
  { orphanedUnits := s.orphanedUnits.insert unitHash orphan
    waitingFor := fun parent =>
      if parent ∈ orphan.missingParents then s.waitingFor parent ++ [unitHash] else s.waitingFor parent
    dagUnits := s.dagUnits }

section AddOrphan

variable {s : Dag U H} {o : OrphanedUnit U H}

@[simp] theorem addOrphan_orphanedUnits :
    (s.addOrphan o).orphanedUnits = s.orphanedUnits.insert (hash o.unit) o := rfl

@[simp] theorem addOrphan_waitingFor (parent : H) :
    (s.addOrphan o).waitingFor parent =
      if parent ∈ o.missingParents then s.waitingFor parent ++ [hash o.unit] else s.waitingFor parent := rfl

@[simp] theorem addOrphan_dagUnits : (s.addOrphan o).dagUnits = s.dagUnits := rfl

end AddOrphan

/-- `add_unit`: the units that now have all their parents in the DAG. -/
def addUnit (s : Dag U H) (unit : U) : Except Failure (Dag U H × List U) :=
  if hash unit ∈ s.dagUnits then .ok (s, [])
  else
    -- collected into a `HashSet`
    let missingParents := ((parents unit).filter (· ∉ s.dagUnits)).dedup
    match OrphanedUnit.new unit missingParents with
    | .ok orphan => .ok (s.addOrphan orphan, [])
    | .error unit => s.moveToDag unit

/-! ### The three arms of `add_unit` -/

theorem addUnit_of_mem {s : Dag U H} {u : U} (h : hash u ∈ s.dagUnits) : s.addUnit u = .ok (s, []) := by
  rw [addUnit, if_pos h]

theorem addUnit_of_parents_dag {s : Dag U H} {u : U} (h : hash u ∉ s.dagUnits)
    (hp : ∀ p ∈ parents u, p ∈ s.dagUnits) : s.addUnit u = s.moveToDag u := by
  have hnil : (parents u).filter (· ∉ s.dagUnits) = [] := by simpa [List.filter_eq_nil_iff] using hp
  rw [addUnit, if_neg h]
  dsimp only
  rw [hnil, List.dedup_nil]
  rfl

theorem addUnit_of_missing {s : Dag U H} {u : U} {p : H} (h : hash u ∉ s.dagUnits)
    (hp : p ∈ parents u) (hpd : p ∉ s.dagUnits) :
    s.addUnit u = .ok (s.addOrphan ⟨u, ((parents u).filter (· ∉ s.dagUnits)).dedup⟩, []) := by
  have hne : ((parents u).filter (· ∉ s.dagUnits)).dedup ≠ [] := by
    rw [Ne, List.dedup_eq_nil, List.filter_eq_nil_iff]
    exact fun hall => hall p hp (by simpa using hpd)
  rw [addUnit, if_neg h]
  dsimp only
  rw [(new_eq_ok.mpr ⟨rfl, hne⟩ : OrphanedUnit.new u _ = _)]

omit [UnitWithParents U H] in
theorem resolveChildren_cons (unitHash child : H) (children : List H)
    (orphanedUnits : AList (fun _ : H => OrphanedUnit U H)) (readyUnits : List U) :
    resolveChildren unitHash (child :: children) orphanedUnits readyUnits =
      match orphanedUnits.lookup child with
      | none => .error .waitingForParents
      | some orphan =>
        match orphan.resolveParent unitHash with
        | .ok unit => resolveChildren unitHash children (orphanedUnits.erase child) (readyUnits ++ [unit])
        | .error orphan =>
          resolveChildren unitHash children ((orphanedUnits.erase child).insert child orphan) readyUnits := by
  rw [resolveChildren, AList.extract_eq_lookup_erase]
  cases orphanedUnits.lookup child <;> rfl

/-! ### The loop over the children -/

omit [UnitWithParents U H] in
theorem resolveChildren_length {unitHash : H} {children : List H}
    {O O' : AList (fun _ : H => OrphanedUnit U H)} {R R' : List U}
    (h : resolveChildren unitHash children O R = .ok (O', R')) :
    O'.entries.length + R'.length = O.entries.length + R.length := by
  induction children generalizing O R with
  | nil =>
    cases h
    rfl
  | cons c children ih =>
    rw [resolveChildren_cons] at h
    cases hc : O.lookup c with
    | none =>
      rw [hc] at h
      cases h
    | some o =>
      have herase := Extension.Units.length_erase_add_one (AList.lookup_isSome.mp (by rw [hc]; rfl))
      rw [hc] at h
      dsimp only at h
      cases hr : o.resolveParent unitHash with
      | ok u =>
        rw [hr] at h
        rw [ih h, List.length_append, List.length_singleton]
        omega
      | error o' =>
        rw [hr] at h
        have hnot : c ∉ O.erase c := fun hm => (AList.mem_erase.mp hm).1 rfl
        rw [ih h, AList.entries_insert_of_notMem hnot, List.length_cons]
        omega

omit [UnitWithParents U H] in
/-- Over distinct children that all wait as orphans the loop does not panic:
it releases, in order, the children whose only missing parent was
`unitHash`, and puts the others back with `unitHash` resolved. -/
theorem resolveChildren_eq (unitHash : H) {children : List H}
    {O : AList (fun _ : H => OrphanedUnit U H)} {R : List U}
    (hnodup : children.Nodup) (hmem : ∀ c ∈ children, c ∈ O) :
    ∃ O', resolveChildren unitHash children O R =
        .ok (O', R ++ children.filterMap fun c => (O.lookup c).bind (released unitHash)) ∧
      ∀ k, O'.lookup k = if k ∈ children then (O.lookup k).bind (kept unitHash) else O.lookup k := by
  induction children generalizing O R with
  | nil => exact ⟨O, by simp [resolveChildren], fun k => by simp⟩
  | cons c children ih =>
    obtain ⟨hc, hnodup⟩ := List.nodup_cons.mp hnodup
    obtain ⟨o, ho⟩ := Option.isSome_iff_exists.mp
      (AList.lookup_isSome.mpr (hmem c List.mem_cons_self))
    have hother : ∀ O₁ : AList (fun _ : H => OrphanedUnit U H), (∀ k, k ≠ c → O₁.lookup k = O.lookup k) →
        (∀ c' ∈ children, c' ∈ O₁) ∧
          children.filterMap (fun c' => (O₁.lookup c').bind (released unitHash)) =
            children.filterMap (fun c' => (O.lookup c').bind (released unitHash)) := by
      intro O₁ hO₁
      have hne : ∀ c' ∈ children, c' ≠ c := fun c' hc' he => hc (he ▸ hc')
      refine ⟨fun c' hc' => ?_, List.filterMap_congr fun c' hc' => by rw [hO₁ c' (hne c' hc')]⟩
      rw [← AList.lookup_isSome, hO₁ c' (hne c' hc'), AList.lookup_isSome]
      exact hmem c' (List.mem_cons_of_mem _ hc')
    have hlookup : ∀ (O₁ O' : AList (fun _ : H => OrphanedUnit U H)), (∀ k, k ≠ c → O₁.lookup k = O.lookup k) →
        (∀ k, O'.lookup k = if k ∈ children then (O₁.lookup k).bind (kept unitHash) else O₁.lookup k) →
        ∀ k, k ≠ c → O'.lookup k = if k ∈ c :: children then (O.lookup k).bind (kept unitHash) else O.lookup k := by
      intro O₁ O' hO₁ hO' k hk
      rw [hO' k, hO₁ k hk]
      simp only [List.mem_cons, hk, false_or]
    rw [resolveChildren_cons, ho]
    dsimp only
    cases hr : o.resolveParent unitHash with
    | ok u =>
      dsimp only
      have hO₁ : ∀ k, k ≠ c → (O.erase c).lookup k = O.lookup k := fun k hk => AList.lookup_erase_ne hk
      obtain ⟨hmem₁, hfilter⟩ := hother _ hO₁
      obtain ⟨O', hO', hO'lookup⟩ := ih (O := O.erase c) (R := R ++ [u]) hnodup hmem₁
      refine ⟨O', ?_, fun k => ?_⟩
      · have hc : (O.lookup c).bind (released unitHash) = some u := by
          rw [ho, Option.bind_some, released, hr]
          rfl
        rw [hO', hfilter, List.filterMap_cons_some (f := fun c => (O.lookup c).bind (released unitHash)) hc,
          List.append_assoc, List.singleton_append]
      · by_cases hk : k = c
        · subst hk
          rw [hO'lookup, if_neg hc, AList.lookup_erase, if_pos List.mem_cons_self, ho, Option.bind_some,
            kept, hr]
        · exact hlookup _ _ hO₁ hO'lookup k hk
    | error o' =>
      dsimp only
      have hO₁ : ∀ k, k ≠ c → ((O.erase c).insert c o').lookup k = O.lookup k := fun k hk => by
        rw [AList.lookup_insert_ne hk, AList.lookup_erase_ne hk]
      obtain ⟨hmem₁, hfilter⟩ := hother _ hO₁
      obtain ⟨O', hO', hO'lookup⟩ := ih (O := (O.erase c).insert c o') (R := R) hnodup hmem₁
      refine ⟨O', ?_, fun k => ?_⟩
      · have hc : (O.lookup c).bind (released unitHash) = none := by
          rw [ho, Option.bind_some, released, hr]
          rfl
        rw [hO', hfilter, List.filterMap_cons_none (f := fun c => (O.lookup c).bind (released unitHash)) hc]
      · by_cases hk : k = c
        · subst hk
          rw [hO'lookup, if_neg hc, AList.lookup_insert, if_pos List.mem_cons_self, ho, Option.bind_some,
            kept, hr]
        · exact hlookup _ _ hO₁ hO'lookup k hk

end Dag

/-! ### Runs without repeated orphans -/

section Safety

variable [UnitWithParents U H]

/-- The order units are to be returned in: each is new and has all its
parents among the hashes before it. -/
def ReadyOrder : List H → List U → Prop
  | _, [] => True
  | done, unit :: rest =>
    hash unit ∉ done ∧ (∀ parent ∈ parents unit, parent ∈ done) ∧ ReadyOrder (hash unit :: done) rest

instance decidableReadyOrder : (done : List H) → (out : List U) → Decidable (ReadyOrder done out)
  | _, [] => isTrue trivial
  | done, unit :: rest =>
    haveI := decidableReadyOrder (hash unit :: done) rest
    inferInstanceAs (Decidable (hash unit ∉ done ∧ (∀ parent ∈ parents unit, parent ∈ done) ∧
      ReadyOrder (hash unit :: done) rest))

namespace ReadyOrder

omit [DecidableEq H] in
theorem append_singleton {done : List H} {out : List U} {u : U} (h : ReadyOrder done out)
    (hnew : hash u ∉ done) (hout : hash u ∉ out.map UnitLike.hash)
    (hparents : ∀ p ∈ parents u, p ∈ done ∨ p ∈ out.map UnitLike.hash) : ReadyOrder done (out ++ [u]) := by
  induction out generalizing done with
  | nil => exact ⟨hnew, fun p hp => (hparents p hp).resolve_right List.not_mem_nil, trivial⟩
  | cons v out ih =>
    obtain ⟨hv, hvp, hrest⟩ := h
    simp only [List.map_cons, List.mem_cons, not_or] at hout hparents
    refine ⟨hv, hvp, ih hrest ?_ hout.2 fun p hp => ?_⟩
    · simp only [List.mem_cons, not_or]
      exact ⟨hout.1, hnew⟩
    · rcases hparents p hp with hd | hv | ho
      · exact .inl (List.mem_cons_of_mem _ hd)
      · exact .inl (hv ▸ List.mem_cons_self)
      · exact .inr ho

omit [DecidableEq H] in
theorem nodup {done : List H} {out : List U} (h : ReadyOrder done out) :
    (out.map UnitLike.hash).Nodup ∧ ∀ u ∈ out, hash u ∉ done := by
  induction out generalizing done with
  | nil => exact ⟨List.nodup_nil, fun _ hu => absurd hu List.not_mem_nil⟩
  | cons v out ih =>
    obtain ⟨hv, -, hrest⟩ := h
    obtain ⟨hnodup, hnew⟩ := ih hrest
    have hnew' : ∀ u ∈ out, hash u ≠ hash v ∧ hash u ∉ done := fun u hu => by
      simpa only [List.mem_cons, not_or] using hnew u hu
    refine ⟨List.nodup_cons.mpr ⟨fun hm => ?_, hnodup⟩, fun u hu => ?_⟩
    · obtain ⟨u, hu, he⟩ := List.mem_map.mp hm
      exact (hnew' u hu).1 he
    · rcases List.mem_cons.mp hu with rfl | hu
      · exact hv
      · exact (hnew' u hu).2

omit [DecidableEq H] in
theorem parents_before {done : List H} {l₁ l₂ : List U} {u : U} (h : ReadyOrder done (l₁ ++ u :: l₂)) :
    ∀ p ∈ parents u, p ∈ done ∨ p ∈ l₁.map UnitLike.hash := by
  induction l₁ generalizing done with
  | nil => exact fun p hp => .inl (h.2.1 p hp)
  | cons v l₁ ih =>
    intro p hp
    rcases ih h.2.2 p hp with hd | ho
    · rcases List.mem_cons.mp hd with rfl | hd
      · exact .inr (List.mem_cons_self)
      · exact .inl hd
    · exact .inr (List.mem_cons_of_mem _ ho)

end ReadyOrder

/-- What the DAG keeps between calls, on the runs that add no unit while a
unit of its hash waits. -/
structure Dag.Wf (s : Dag U H) : Prop where
  orphan_hash : ∀ k o, s.orphanedUnits.lookup k = some o → hash o.unit = k
  orphan_not_dag : ∀ k ∈ s.orphanedUnits, k ∉ s.dagUnits
  parents_dag_or_missing : ∀ k o, s.orphanedUnits.lookup k = some o →
    ∀ p ∈ parents o.unit, p ∈ s.dagUnits ∨ p ∈ o.missingParents
  /-- A unit waits for a parent only as an orphan missing it ... -/
  waiting_orphan : ∀ p k, k ∈ s.waitingFor p →
    ∃ o, s.orphanedUnits.lookup k = some o ∧ p ∈ o.missingParents
  /-- ... and only once. -/
  waiting_nodup : ∀ p, (s.waitingFor p).Nodup

/-- The DAG holds the hashes of the units returned, and those came in
`ReadyOrder`. -/
structure Dag.Returned (s : Dag U H) (out : List U) : Prop where
  mem_dag : ∀ h, h ∈ s.dagUnits ↔ h ∈ out.map UnitLike.hash
  readyOrder : ReadyOrder [] out

/-- The queue of `move_to_dag`: units of distinct hashes with their parents in
the DAG, neither in it nor orphans. -/
structure Dag.ReadyQueue (s : Dag U H) (readyUnits : List U) : Prop where
  parents_dag : ∀ u ∈ readyUnits, ∀ p ∈ parents u, p ∈ s.dagUnits
  not_orphan : ∀ u ∈ readyUnits, hash u ∉ s.orphanedUnits
  not_dag : ∀ u ∈ readyUnits, hash u ∉ s.dagUnits
  nodup : (readyUnits.map UnitLike.hash).Nodup

end Safety

namespace Dag

variable [UnitWithParents U H]

omit [UnitWithParents U H] in
theorem resolveChildren_error {unitHash : H} {children : List H}
    {O : AList (fun _ : H => OrphanedUnit U H)} {R : List U} {e : Failure}
    (h : resolveChildren unitHash children O R = .error e) : e = .waitingForParents := by
  induction children generalizing O R with
  | nil => cases h
  | cons c children ih =>
    rw [resolveChildren_cons] at h
    cases hc : O.lookup c with
    | none =>
      rw [hc] at h
      cases h
      rfl
    | some o =>
      rw [hc] at h
      dsimp only at h
      cases hr : o.resolveParent unitHash with
      | ok u =>
        rw [hr] at h
        exact ih h
      | error o' =>
        rw [hr] at h
        exact ih h

theorem moveToDagLoop_ne_outOfFuel {fuel : Nat} {s : Dag U H} {readyUnits result : List U}
    (hfuel : readyUnits.length + s.orphanedUnits.entries.length ≤ fuel) :
    moveToDagLoop fuel s readyUnits result ≠ .error .outOfFuel := by
  induction fuel generalizing s readyUnits result with
  | zero =>
    cases readyUnits with
    | nil => simp [moveToDagLoop]
    | cons x rest => simp at hfuel
  | succ fuel ih =>
    cases readyUnits with
    | nil => simp [moveToDagLoop]
    | cons x rest =>
      rw [moveToDagLoop]
      cases hres : resolveChildren (hash x) (s.waitingFor (hash x)) s.orphanedUnits rest with
      | error e =>
        rw [resolveChildren_error hres]
        simp only [bind, Except.bind, ne_eq, Except.error.injEq, reduceCtorEq, not_false_eq_true]
      | ok r =>
        have hlen := resolveChildren_length hres
        apply ih
        simp only [moved_orphanedUnits]
        simp only [List.length_cons] at hfuel
        omega

theorem addUnit_ne_outOfFuel (s : Dag U H) (u : U) : s.addUnit u ≠ .error .outOfFuel := by
  unfold addUnit
  split
  · simp
  · dsimp only
    split
    · simp
    · exact moveToDagLoop_ne_outOfFuel (by simp only [List.length_singleton]; omega)

/-! ### One round of `move_to_dag` -/

section Round

variable {s : Dag U H} {x : U} {rest : List U} {O' : AList (fun _ : H => OrphanedUnit U H)}
  (hO' : ∀ k, O'.lookup k = if k ∈ s.waitingFor (hash x)
    then (s.orphanedUnits.lookup k).bind (kept (hash x)) else s.orphanedUnits.lookup k)

include hO' in
theorem lookup_of_resolved {k : H} {o' : OrphanedUnit U H} (h : O'.lookup k = some o') :
    ∃ o, s.orphanedUnits.lookup k = some o ∧ o'.unit = o.unit ∧
      ∀ q ∈ o.missingParents, q ≠ hash x → q ∈ o'.missingParents := by
  rw [hO' k] at h
  split_ifs at h
  · obtain ⟨o, ho, hk⟩ := Option.bind_eq_some_iff.mp h
    obtain ⟨rfl, -⟩ := kept_eq_some.mp hk
    exact ⟨o, ho, rfl, fun q hq hne => by simp [hq, hne]⟩
  · exact ⟨o', h, rfl, fun q hq _ => hq⟩

include hO' in
theorem resolved_of_missing {k q : H} {o : OrphanedUnit U H} (h : s.orphanedUnits.lookup k = some o)
    (hq : q ∈ o.missingParents) (hne : q ≠ hash x) :
    ∃ o', O'.lookup k = some o' ∧ q ∈ o'.missingParents := by
  rw [hO' k]
  split_ifs
  · obtain ⟨o', hk, hq'⟩ := kept_of_missing hq hne
    exact ⟨o', by rw [h, Option.bind_some, hk], hq'⟩
  · exact ⟨o, h, hq⟩

include hO' in
theorem mem_releasedChildren {v : U}
    (hv : v ∈ releasedChildren s.orphanedUnits (hash x) (s.waitingFor (hash x))) :
    ∃ c o, s.orphanedUnits.lookup c = some o ∧ v = o.unit ∧
      (∀ q ∈ o.missingParents, q = hash x) ∧ O'.lookup c = none := by
  obtain ⟨c, hc, hcv⟩ := List.mem_filterMap.mp hv
  obtain ⟨o, ho, hr⟩ := Option.bind_eq_some_iff.mp hcv
  obtain ⟨rfl, hall⟩ := released_eq_some.mp hr
  refine ⟨c, o, ho, rfl, hall, ?_⟩
  rw [hO' c, if_pos hc, ho, Option.bind_some, kept_of_released hr]

omit [UnitWithParents U H] in
theorem mem_of_lookup_eq_some {O : AList (fun _ : H => OrphanedUnit U H)} {k : H} {o : OrphanedUnit U H}
    (h : O.lookup k = some o) : k ∈ O :=
  AList.lookup_isSome.mp (by rw [h]; rfl)

include hO' in
theorem Wf.moved (hwf : s.Wf) (hq : s.ReadyQueue (x :: rest)) : (s.moved (hash x) O').Wf where
  orphan_hash k o' h := by
    obtain ⟨o, ho, hu, -⟩ := lookup_of_resolved hO' h
    rw [hu]
    exact hwf.orphan_hash k o ho
  orphan_not_dag k hk := by
    obtain ⟨o', h⟩ := Option.isSome_iff_exists.mp (AList.lookup_isSome.mpr hk)
    obtain ⟨o, ho, -, -⟩ := lookup_of_resolved hO' h
    have hmem := mem_of_lookup_eq_some ho
    have hx : k ≠ hash x := fun he => hq.not_orphan x List.mem_cons_self (he ▸ hmem)
    simp only [moved_dagUnits, List.mem_insert_iff, not_or]
    exact ⟨hx, hwf.orphan_not_dag k hmem⟩
  parents_dag_or_missing k o' h p hp := by
    obtain ⟨o, ho, hu, hmiss⟩ := lookup_of_resolved hO' h
    rw [hu] at hp
    simp only [moved_dagUnits, List.mem_insert_iff]
    by_cases hpx : p = hash x
    · exact .inl (.inl hpx)
    · rcases hwf.parents_dag_or_missing k o ho p hp with hd | hm
      · exact .inl (.inr hd)
      · exact .inr (hmiss p hm hpx)
  waiting_orphan p k hk := by
    have hpx : p ≠ hash x := by
      rintro rfl
      simp at hk
    rw [moved_waitingFor, Function.update_of_ne hpx] at hk
    obtain ⟨o, ho, hp⟩ := hwf.waiting_orphan p k hk
    exact resolved_of_missing hO' ho hp hpx
  waiting_nodup p := by
    by_cases hpx : p = hash x
    · subst hpx
      simp
    · rw [moved_waitingFor, Function.update_of_ne hpx]
      exact hwf.waiting_nodup p

include hO' in
theorem ReadyQueue.moved (hwf : s.Wf) (hq : s.ReadyQueue (x :: rest)) :
    (s.moved (hash x) O').ReadyQueue
      (rest ++ releasedChildren s.orphanedUnits (hash x) (s.waitingFor (hash x))) where
  parents_dag u hu p hp := by
    simp only [moved_dagUnits, List.mem_insert_iff]
    rcases List.mem_append.mp hu with hu | hu
    · exact .inr (hq.parents_dag u (List.mem_cons_of_mem _ hu) p hp)
    · obtain ⟨c, o, ho, rfl, hall, -⟩ := mem_releasedChildren hO' hu
      rcases hwf.parents_dag_or_missing c o ho p hp with hd | hm
      · exact .inr hd
      · exact .inl (hall p hm)
  not_orphan u hu := by
    rw [moved_orphanedUnits]
    rcases List.mem_append.mp hu with hu | hu
    · intro hm
      obtain ⟨o', h⟩ := Option.isSome_iff_exists.mp (AList.lookup_isSome.mpr hm)
      obtain ⟨o, ho, -⟩ := lookup_of_resolved hO' h
      exact hq.not_orphan u (List.mem_cons_of_mem _ hu) (mem_of_lookup_eq_some ho)
    · obtain ⟨c, o, ho, rfl, -, hnone⟩ := mem_releasedChildren hO' hu
      rw [← AList.lookup_eq_none, hwf.orphan_hash c o ho]
      exact hnone
  not_dag u hu := by
    simp only [moved_dagUnits, List.mem_insert_iff, not_or]
    rcases List.mem_append.mp hu with hu | hu
    · have hnd := List.nodup_cons.mp (by simpa only [List.map_cons] using hq.nodup)
      exact ⟨fun he => hnd.1 (he ▸ List.mem_map_of_mem hu), hq.not_dag u (List.mem_cons_of_mem _ hu)⟩
    · obtain ⟨c, o, ho, rfl, -, -⟩ := mem_releasedChildren hO' hu
      have hmem := mem_of_lookup_eq_some ho
      rw [hwf.orphan_hash c o ho]
      exact ⟨fun he => hq.not_orphan x List.mem_cons_self (he ▸ hmem), hwf.orphan_not_dag c hmem⟩
  nodup := by
    have hkey : ∀ c v, (s.orphanedUnits.lookup c).bind (released (hash x)) = some v → hash v = c :=
      fun c v h => by
        obtain ⟨o, ho, hr⟩ := Option.bind_eq_some_iff.mp h
        rw [(released_eq_some.mp hr).1]
        exact hwf.orphan_hash c o ho
    rw [List.map_append, List.nodup_append]
    refine ⟨(List.nodup_cons.mp (by simpa only [List.map_cons] using hq.nodup)).2, ?_, ?_⟩
    · rw [releasedChildren, List.map_filterMap]
      refine List.Nodup.filterMap (fun a a' b hb hb' => ?_) (hwf.waiting_nodup _)
      obtain ⟨v, hv, rfl⟩ := Option.map_eq_some_iff.mp hb
      obtain ⟨v', hv', hvv⟩ := Option.map_eq_some_iff.mp hb'
      rw [← hkey a v hv, ← hkey a' v' hv', hvv]
    · rintro a ha b hb rfl
      obtain ⟨u, hu, rfl⟩ := List.mem_map.mp ha
      obtain ⟨v, hv, huv⟩ := List.mem_map.mp hb
      obtain ⟨c, o, ho, rfl, -, -⟩ := mem_releasedChildren hO' hv
      rw [hwf.orphan_hash c o ho] at huv
      exact hq.not_orphan u (List.mem_cons_of_mem _ hu) (huv ▸ mem_of_lookup_eq_some ho)

theorem Returned.moved {out : List U} (hret : s.Returned out) (hq : s.ReadyQueue (x :: rest)) :
    (s.moved (hash x) O').Returned (out ++ [x]) where
  mem_dag h := by simp [hret.mem_dag, or_comm]
  readyOrder := hret.readyOrder.append_singleton List.not_mem_nil
    (by rw [← hret.mem_dag]; exact hq.not_dag x List.mem_cons_self)
    (fun p hp => .inr ((hret.mem_dag p).mp (hq.parents_dag x List.mem_cons_self p hp)))

end Round

/-- From a well formed DAG and a well formed queue, `move_to_dag`'s loop does
not panic, and it returns the queue and the units it releases in
`ReadyOrder` after those returned before. -/
theorem moveToDagLoop_spec {fuel : Nat} {s : Dag U H} {readyUnits result out : List U}
    (hwf : s.Wf) (hret : s.Returned (out ++ result)) (hq : s.ReadyQueue readyUnits)
    (hfuel : readyUnits.length + s.orphanedUnits.entries.length ≤ fuel) :
    ∃ s' result', moveToDagLoop fuel s readyUnits result = .ok (s', result') ∧
      s'.Wf ∧ s'.Returned (out ++ result') := by
  induction fuel generalizing s readyUnits result with
  | zero =>
    cases readyUnits with
    | nil => exact ⟨s, result, by rw [moveToDagLoop], hwf, hret⟩
    | cons x rest => simp at hfuel
  | succ fuel ih =>
    cases readyUnits with
    | nil => exact ⟨s, result, by rw [moveToDagLoop], hwf, hret⟩
    | cons x rest =>
      have hmem : ∀ c ∈ s.waitingFor (hash x), c ∈ s.orphanedUnits := fun c hc => by
        obtain ⟨o, ho, -⟩ := hwf.waiting_orphan _ c hc
        exact mem_of_lookup_eq_some ho
      obtain ⟨O', hres, hO'⟩ := resolveChildren_eq (hash x) (R := rest) (hwf.waiting_nodup _) hmem
      change _ = Except.ok (O', rest ++ releasedChildren s.orphanedUnits (hash x) (s.waitingFor (hash x))) at hres
      have hlen := resolveChildren_length hres
      obtain ⟨s', result', hloop, hwf', hret'⟩ := @ih (s.moved (hash x) O')
        (rest ++ releasedChildren s.orphanedUnits (hash x) (s.waitingFor (hash x))) (result ++ [x])
        (Wf.moved hO' hwf hq) (by rw [← List.append_assoc]; exact Returned.moved hret hq)
        (ReadyQueue.moved hO' hwf hq)
        (by simp only [List.length_cons] at hfuel; rw [moved_orphanedUnits]; omega)
      refine ⟨s', result', ?_, hwf', hret'⟩
      rw [moveToDagLoop, hres]
      exact hloop

theorem Wf.addOrphan {s : Dag U H} {u : U} {m : List H} (hwf : s.Wf) (hd : hash u ∉ s.dagUnits)
    (hu : hash u ∉ s.orphanedUnits) (hm : ∀ p ∈ parents u, p ∈ s.dagUnits ∨ p ∈ m) :
    (s.addOrphan ⟨u, m⟩).Wf := by
  have hlookup : ∀ k, k ≠ hash u → ∀ o : OrphanedUnit U H,
      (s.orphanedUnits.insert (hash u) o).lookup k = s.orphanedUnits.lookup k :=
    fun k hk o => AList.lookup_insert_ne hk
  have hne : ∀ k o, s.orphanedUnits.lookup k = some o → k ≠ hash u :=
    fun k o ho he => hu (he ▸ mem_of_lookup_eq_some ho)
  constructor
  · intro k o h
    simp only [addOrphan_orphanedUnits] at h
    by_cases hk : k = hash u
    · subst hk
      rw [AList.lookup_insert, Option.some.injEq] at h
      rw [← h]
    · rw [hlookup k hk] at h
      exact hwf.orphan_hash k o h
  · intro k hk
    rw [addOrphan_orphanedUnits, AList.mem_insert] at hk
    rcases hk with rfl | hk
    · exact hd
    · exact hwf.orphan_not_dag k hk
  · intro k o h p hp
    simp only [addOrphan_orphanedUnits] at h
    by_cases hk : k = hash u
    · subst hk
      rw [AList.lookup_insert, Option.some.injEq] at h
      subst h
      exact hm p hp
    · rw [hlookup k hk] at h
      exact hwf.parents_dag_or_missing k o h p hp
  · intro p k hk
    simp only [addOrphan_waitingFor, addOrphan_orphanedUnits] at hk ⊢
    have hold : k ∈ s.waitingFor p → ∃ o, (s.orphanedUnits.insert (hash u) ⟨u, m⟩).lookup k = some o ∧
        p ∈ o.missingParents := fun hk => by
      obtain ⟨o, ho, hp⟩ := hwf.waiting_orphan p k hk
      exact ⟨o, by rw [hlookup k (hne k o ho)]; exact ho, hp⟩
    split_ifs at hk with hp
    · rcases List.mem_append.mp hk with hk | hk
      · exact hold hk
      · rw [List.mem_singleton.mp hk, AList.lookup_insert]
        exact ⟨_, rfl, hp⟩
    · exact hold hk
  · intro p
    simp only [addOrphan_waitingFor]
    split_ifs
    · refine List.nodup_append.mpr ⟨hwf.waiting_nodup p, List.nodup_singleton _, ?_⟩
      rintro k hk _ hu' rfl
      obtain ⟨o, ho, -⟩ := hwf.waiting_orphan p k hk
      exact hne k o ho (List.mem_singleton.mp hu')
    · exact hwf.waiting_nodup p

theorem addUnit_spec {s : Dag U H} {out : List U} {u : U} (hwf : s.Wf) (hret : s.Returned out)
    (hu : hash u ∉ s.orphanedUnits) :
    ∃ s' new, s.addUnit u = .ok (s', new) ∧ s'.Wf ∧ s'.Returned (out ++ new) := by
  by_cases hd : hash u ∈ s.dagUnits
  · exact ⟨s, [], addUnit_of_mem hd, hwf, by simpa using hret⟩
  by_cases hp : ∀ p ∈ parents u, p ∈ s.dagUnits
  · -- no parent is missing: the unit goes straight to the DAG
    rw [addUnit_of_parents_dag hd hp, moveToDag]
    have hq : s.ReadyQueue [u] :=
      ⟨by simpa using hp, by simpa using hu, by simpa using hd, by simp⟩
    have hret' : s.Returned (out ++ []) := by simpa using hret
    exact moveToDagLoop_spec hwf hret' hq (by simp only [List.length_singleton]; omega)
  · obtain ⟨p, hp, hpd⟩ : ∃ p ∈ parents u, p ∉ s.dagUnits := by simpa using hp
    rw [addUnit_of_missing hd hp hpd]
    have hm : ∀ q ∈ parents u, q ∈ s.dagUnits ∨ q ∈ ((parents u).filter (· ∉ s.dagUnits)).dedup := by
      intro q hq
      by_cases hqd : q ∈ s.dagUnits
      · exact .inl hqd
      · exact .inr (List.mem_dedup.mpr (List.mem_filter.mpr ⟨hq, by simpa using hqd⟩))
    exact ⟨_, [], rfl, hwf.addOrphan hd hu hm, by rw [List.append_nil]; exact ⟨hret.mem_dag, hret.readyOrder⟩⟩

end Dag

/-! ### Runs -/

section Runs

variable [UnitWithParents U H]

open Dag

/-- The DAG with the units it returned so far, as a system whose calls are
`add_unit`; a call that panics has no next state. -/
def system : Transition.System (Dag U H × List U) U where
  init s := s = (Dag.new, [])
  step s unit := (s.1.addUnit unit).toOption.map fun r => (r.1, s.2 ++ r.2)

/-- The call adds a unit while no unit of its hash waits as an orphan. -/
def NotOrphaned (s : Dag U H × List U) (unit : U) : Prop := hash unit ∉ s.1.orphanedUnits

instance (s : Dag U H × List U) (unit : U) : Decidable (NotOrphaned s unit) :=
  inferInstanceAs (Decidable (hash unit ∉ s.1.orphanedUnits))

theorem wf_new : (Dag.new : Dag U H).Wf where
  orphan_hash _ _ h := by simp [Dag.new] at h
  orphan_not_dag _ h := absurd h (AList.notMem_empty _)
  parents_dag_or_missing _ _ h := by simp [Dag.new] at h
  waiting_orphan _ _ h := by simp [Dag.new] at h
  waiting_nodup _ := List.nodup_nil

theorem invariant_guarded :
    Transition.Invariant (system.guard NotOrphaned) fun s : Dag U H × List U => s.1.Wf ∧ s.1.Returned s.2 := by
  apply Transition.invariant_of_inductive
  · intro s hs
    have hs : s = (Dag.new, []) := hs
    subst hs
    exact ⟨wf_new, ⟨fun _ => Iff.rfl, trivial⟩⟩
  · rintro ⟨d, out⟩ t u ⟨hwf, hret⟩ hstep
    obtain ⟨hu, hstep⟩ := Transition.System.guard_step_eq_some.mp hstep
    obtain ⟨d', new, hadd, hwf', hret'⟩ := addUnit_spec hwf hret hu
    simp only [system, hadd, Except.toOption, Option.map_some, Option.some.injEq] at hstep
    subst hstep
    exact ⟨hwf', hret'⟩

/-- On every run that adds no unit while a unit of its hash waits, no call of
`add_unit` panics, no hash is returned twice, and every unit is returned after
all its parents. -/
theorem dag_returns_units_in_order :
    ∀ s : Dag U H × List U, Transition.Reachable (system.guard NotOrphaned) s →
      (∀ u, NotOrphaned s u → ∃ r, s.1.addUnit u = .ok r) ∧ (s.2.map UnitLike.hash).Nodup ∧
        ∀ l₁ u l₂, s.2 = l₁ ++ u :: l₂ → ∀ p ∈ parents u, p ∈ l₁.map UnitLike.hash := by
  intro s hs
  obtain ⟨hwf, hret⟩ := invariant_guarded s hs
  refine ⟨fun u hu => ?_, hret.readyOrder.nodup.1, fun l₁ u l₂ he p hp => ?_⟩
  · obtain ⟨s', new, hadd, -⟩ := addUnit_spec hwf hret hu
    exact ⟨_, hadd⟩
  · rw [he] at hret
    exact (hret.readyOrder.parents_before p hp).resolve_left List.not_mem_nil

end Runs

/-! ### Repeated orphans -/

namespace Dag

variable [UnitWithParents U H]

/-- Adding a unit whose one parent is missing, adding it again, and then
adding that parent panics: the unit waits twice for the parent, the first
registration releases it, and the second finds no orphan. -/
theorem add_unit_twice_while_orphaned_panics (u p : U) (hu : parents u = [hash p])
    (hp : parents p = []) :
    ∃ s₁ s₂ : Dag U H, new.addUnit u = .ok (s₁, []) ∧ s₁.addUnit u = .ok (s₂, []) ∧
      s₂.addUnit p = .error .waitingForParents := by
  have hmissing : ∀ s : Dag U H, s.dagUnits = [] →
      s.addUnit u = .ok (s.addOrphan ⟨u, [hash p]⟩, []) := by
    intro s hs
    rw [addUnit_of_missing (p := hash p) (by simp [hs]) (by simp [hu]) (by simp [hs]), hs, hu]
    rfl
  let s₁ : Dag U H := new.addOrphan ⟨u, [hash p]⟩
  let s₂ : Dag U H := s₁.addOrphan ⟨u, [hash p]⟩
  refine ⟨s₁, s₂, hmissing new rfl, hmissing s₁ rfl, ?_⟩
  -- the parent goes straight to the DAG, and `u` waits for it twice
  have hwaiting : s₂.waitingFor (hash p) = [hash u, hash u] := by simp [s₂, s₁, addOrphan, new]
  have hrelease : (⟨u, [hash p]⟩ : OrphanedUnit U H).resolveParent (hash p) = .ok u := by
    rw [resolveParent_eq, if_pos (by simp)]
  rw [addUnit_of_parents_dag (by simp [s₂, s₁, addOrphan, new]) (by simp [hp]), moveToDag,
    moveToDagLoop, hwaiting, resolveChildren_cons,
    show s₂.orphanedUnits.lookup (hash u) = some ⟨u, [hash p]⟩ from AList.lookup_insert _]
  simp only [hrelease, resolveChildren_cons, AList.lookup_erase]
  rfl

end Dag

namespace Reference

/-- A unit of the tests: its hash and the hashes of its parents. -/
structure TestUnit where
  hash : Nat
  parents : List Nat
  deriving DecidableEq

instance : UnitWithParents TestUnit Nat where
  hash u := u.hash
  coord u := ⟨0, u.hash⟩
  parents u := u.parents

/-- Unit 1, whose parent is unit 0, added twice before unit 0. -/
theorem unit_added_twice_panics :
    parents (⟨1, [0]⟩ : TestUnit) = [UnitLike.hash (⟨0, []⟩ : TestUnit)] ∧ parents (⟨0, []⟩ : TestUnit) = [] ∧
      ∃ s₁ s₂ : Dag TestUnit Nat, Dag.new.addUnit ⟨1, [0]⟩ = .ok (s₁, []) ∧
        s₁.addUnit ⟨1, [0]⟩ = .ok (s₂, []) ∧ s₂.addUnit ⟨0, []⟩ = .error .waitingForParents :=
  ⟨rfl, rfl, Dag.add_unit_twice_while_orphaned_panics _ _ rfl rfl⟩

/-- Unit 1, whose parent is unit 0, and then unit 0: the parent is returned
first, no hash twice, and every further unit can be added. -/
theorem parent_returned_first :
    let s := (system.guard NotOrphaned).run ((Dag.new : Dag TestUnit Nat), []) [⟨1, [0]⟩, ⟨0, []⟩]
    s.2 = [⟨0, []⟩, ⟨1, [0]⟩] ∧ (s.2.map UnitLike.hash).Nodup ∧
      ∀ u, NotOrphaned s u → ∃ r, s.1.addUnit u = .ok r := by
  intro s
  obtain ⟨hadd, hnodup, -⟩ := dag_returns_units_in_order s ((Transition.Reachable.init rfl).run _)
  exact ⟨by decide, hnodup, hadd⟩

end Reference

end Reconstruction

end Setheum.SetBft
