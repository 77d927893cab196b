import Setheum.SetBft.Validation

/-!
# Fork detection never admits a fork

A coordinate is covered when the consensus's store or the processing store
has a canonical unit of it. `validate` accepts a unit only at an uncovered
coordinate, and every call keeps every covered coordinate covered: a unit
leaves the processing store only after entering the consensus's store, which
never forgets one. So `validate` accepts at most one unit per coordinate.

The two stores hold disjoint hashes: a unit enters processing only with a
hash neither holds, and leaves it when it enters the other. So inserting
never overwrites a unit under its hash, and both stores stay well formed.
-/

namespace Setheum.SetBft.Dag

open Result Transition UnitLike

variable {H D S : Type} {V : UnitValidator H S} {hasher : Hasher H D}

def okUnits (results : List (Outcome V hasher)) : List (SignedUnit V.keychain hasher) :=
  results.filterMap Except.toOption

def Outcome.alert? : Outcome V hasher → Option (Alert H D S)
  | .error (.newForker a) => some a
  | _ => none

def alerts (results : List (Outcome V hasher)) : List (Alert H D S) := results.filterMap Outcome.alert?

@[simp] theorem okUnits_append (rs rs' : List (Outcome V hasher)) : okUnits (rs ++ rs') = okUnits rs ++ okUnits rs' :=
  List.filterMap_append

@[simp] theorem alerts_append (rs rs' : List (Outcome V hasher)) : alerts (rs ++ rs') = alerts rs ++ alerts rs' :=
  List.filterMap_append

variable [DecidableEq H]

/-- The consensus's store or the processing store has a canonical unit at `c`. -/
def Covered (s : State V hasher) (c : UnitCoord) : Prop :=
  (s.store.canonicalUnit c).isSome ∨ (s.validator.processingUnits.canonicalUnit c).isSome

structure Inv (s : State V hasher) : Prop where
  processing_wf : s.validator.processingUnits.WellFormed
  store_wf : s.store.WellFormed
  disjoint : ∀ h, (s.validator.processingUnits.unit h).isSome → s.store.unit h = none
  store_canonical : ∀ h u, s.store.unit h = some u → (s.store.canonicalUnit (coord u)).isSome
  ok_covered : ∀ u ∈ okUnits s.results, Covered s (coord u)
  ok_nodup : ((okUnits s.results).map coord).Nodup
  forkers : ∀ n, s.validator.knownForkers n = true ↔ n ∈ (alerts s.results).map Alert.forker
  alerts_nodup : ((alerts s.results).map Alert.forker).Nodup
  alerts_proof : ∀ a ∈ alerts s.results, a.sender = V.keychain.index ∧ IsForkProof V.keychain hasher a.proof

section Validate

variable {v : Validator V hasher} {uu : UncheckedSignedUnit H D S} {store : Store V hasher}
  {su : SignedUnit V.keychain hasher}

theorem preValidate_ok (h : v.preValidate uu store = .ok su) :
    store.unit (hash su) = none ∧ v.processingUnits.unit (hash su) = none := by
  unfold Validator.preValidate at h
  obtain ⟨su', -, hrest⟩ := bind_eq_ok.mp h
  split at hrest
  · exact absurd hrest throw_ne_ok
  · next hfresh =>
    obtain rfl := pure_eq_ok.mp hrest
    simpa [Option.not_isSome_iff_eq_none] using hfresh

theorem preValidate_not_newForker {e : Error V hasher} (h : v.preValidate uu store = .error e) (a : Alert H D S) :
    e ≠ .newForker a := by
  unfold Validator.preValidate at h
  cases hv : validateUnit V hasher uu with
  | error e' =>
    rw [hv] at h
    cases h
    nofun
  | ok su' =>
    rw [hv] at h
    change (if _ then throw (Error.duplicate su') else pure su') = Except.error e at h
    split at h
    · cases h
      nofun
    · cases h

theorem validate_cases (v : Validator V hasher) (uu : UncheckedSignedUnit H D S) (store : Store V hasher) :
    (∃ e, v.validate uu store = (.error e, v) ∧ ∀ a, e ≠ .newForker a) ∨
    (∃ su canonical, v.preValidate uu store = .ok su ∧ v.isForker (coord su).creator = false ∧
      (store.canonicalUnit (coord su)).or (v.processingUnits.canonicalUnit (coord su)) = some canonical ∧
      v.validate uu store =
        (.error (.newForker ⟨V.keychain.index, (canonical.unchecked, su.unchecked),
          (v.markForker (coord su).creator store).2⟩), (v.markForker (coord su).creator store).1)) ∨
    (∃ su, v.preValidate uu store = .ok su ∧ v.isForker (coord su).creator = false ∧
      store.canonicalUnit (coord su) = none ∧ v.processingUnits.canonicalUnit (coord su) = none ∧
      v.validate uu store = (.ok su, { v with processingUnits := v.processingUnits.insert su })) := by
  cases hpre : v.preValidate uu store with
  | error e =>
    left
    exact ⟨e, by simp [Validator.validate, hpre], preValidate_not_newForker hpre⟩
  | ok su =>
    cases hf : v.isForker (coord su).creator with
    | true =>
      left
      exact ⟨.uncommitted su, by simp [Validator.validate, hpre, hf], fun _ => nofun⟩
    | false =>
      right
      cases hc : (store.canonicalUnit (coord su)).or (v.processingUnits.canonicalUnit (coord su)) with
      | some canonical =>
        left
        exact ⟨su, canonical, rfl, hf, hc, by simp [Validator.validate, hpre, hf, hc]⟩
      | none =>
        right
        obtain ⟨hS, hP⟩ := Option.or_eq_none_iff.mp hc
        exact ⟨su, rfl, hf, hS, hP, by simp [Validator.validate, hpre, hf, hS, hP]⟩

theorem validateCommitted_cases {r : Outcome V hasher × Validator V hasher}
    (h : v.validateCommitted uu store = some r) :
    r.2 = v ∨ ∃ su, v.preValidate uu store = .ok su ∧ r.2 = { v with processingUnits := v.processingUnits.insert su } := by
  unfold Validator.validateCommitted at h
  split at h
  · cases h
    exact .inl rfl
  · next su hpre =>
    split at h
    · cases h
      exact .inr ⟨su, hpre, rfl⟩
    · cases h

omit [DecidableEq H] in
theorem alerts_error {e : Error V hasher} (hne : ∀ a, e ≠ .newForker a) : alerts [(.error e : Outcome V hasher)] = [] := by
  cases e with
  | newForker a => exact absurd rfl (hne a)
  | _ => rfl

end Validate

namespace Inv

variable {s : State V hasher}

theorem insertProcessing (hinv : Inv s) {su : SignedUnit V.keychain hasher}
    (hS : s.store.unit (hash su) = none) (hP : s.validator.processingUnits.unit (hash su) = none) :
    Inv { s with validator := { s.validator with processingUnits := s.validator.processingUnits.insert su } } where
  processing_wf := hinv.processing_wf.insert hP
  store_wf := hinv.store_wf
  disjoint h hh := by
    by_cases he : h = hash su
    · rwa [he]
    · rw [UnitStore.unit_insert, if_neg he] at hh
      exact hinv.disjoint h hh
  store_canonical := hinv.store_canonical
  ok_covered u hu := by
    rcases hinv.ok_covered u hu with hc | hc
    · exact .inl hc
    · right
      simp [hinv.processing_wf.isSome_canonicalUnit_insert hP, hc]
  ok_nodup := hinv.ok_nodup
  forkers := hinv.forkers
  alerts_nodup := hinv.alerts_nodup
  alerts_proof := hinv.alerts_proof

omit [DecidableEq H] in
theorem fail (hinv : Inv s) {e : Error V hasher} (hne : ∀ a, e ≠ .newForker a) :
    Inv { s with results := s.results ++ [.error e] } := by
  have hok : okUnits [(.error e : Outcome V hasher)] = [] := rfl
  have hal := alerts_error hne
  exact
    { processing_wf := hinv.processing_wf
      store_wf := hinv.store_wf
      disjoint := hinv.disjoint
      store_canonical := hinv.store_canonical
      ok_covered := fun u hu => hinv.ok_covered u (by simpa [hok] using hu)
      ok_nodup := by simpa [hok] using hinv.ok_nodup
      forkers := by simpa [hal] using hinv.forkers
      alerts_nodup := by simpa [hal] using hinv.alerts_nodup
      alerts_proof := by simpa [hal] using hinv.alerts_proof }

omit [DecidableEq H] in
theorem canonical_found (hinv : Inv s) {su canonical : SignedUnit V.keychain hasher}
    (hc : (s.store.canonicalUnit (coord su)).or (s.validator.processingUnits.canonicalUnit (coord su)) = some canonical) :
    coord canonical = coord su ∧
      (s.store.unit (hash canonical) = some canonical ∨ s.validator.processingUnits.unit (hash canonical) = some canonical) := by
  rcases Option.or_eq_some_iff.mp hc with hS | ⟨-, hP⟩
  · obtain ⟨hcoord, hunit⟩ := hinv.store_wf.canonicalUnit_eq hS
    exact ⟨hcoord, .inl hunit⟩
  · obtain ⟨hcoord, hunit⟩ := hinv.processing_wf.canonicalUnit_eq hP
    exact ⟨hcoord, .inr hunit⟩

theorem newForker (hinv : Inv s) {uu : UncheckedSignedUnit H D S} {su canonical : SignedUnit V.keychain hasher}
    (hpre : s.validator.preValidate uu s.store = .ok su) (hf : s.validator.isForker (coord su).creator = false)
    (hc : (s.store.canonicalUnit (coord su)).or (s.validator.processingUnits.canonicalUnit (coord su)) = some canonical) :
    Inv { s with
      validator := (s.validator.markForker (coord su).creator s.store).1
      results := s.results ++ [.error (.newForker ⟨V.keychain.index, (canonical.unchecked, su.unchecked),
        (s.validator.markForker (coord su).creator s.store).2⟩)] } := by
  obtain ⟨hS, hP⟩ := preValidate_ok hpre
  obtain ⟨hcoord, hheld⟩ := hinv.canonical_found hc
  set a : Alert H D S := ⟨V.keychain.index, (canonical.unchecked, su.unchecked),
    (s.validator.markForker (coord su).creator s.store).2⟩
  have hforker : a.forker = (coord su).creator := by
    change (coord canonical).creator = _
    rw [hcoord]
  have hnew : a.forker ∉ (alerts s.results).map Alert.forker := by
    rw [hforker, ← hinv.forkers]
    simpa [Validator.isForker] using hf
  have hok : okUnits [(.error (.newForker a) : Outcome V hasher)] = [] := rfl
  have hal : alerts [(.error (.newForker a) : Outcome V hasher)] = [a] := rfl
  have hdiff : canonical.unchecked ≠ su.unchecked := by
    intro heq
    have hh : hash canonical = hash su := congrArg (fun u => hasher.unitHash u.signable) heq
    rcases hheld with h | h <;> rw [hh] at h
    · rw [hS] at h
      cases h
    · rw [hP] at h
      cases h
  exact
    { processing_wf := hinv.processing_wf
      store_wf := hinv.store_wf
      disjoint := hinv.disjoint
      store_canonical := hinv.store_canonical
      ok_covered := fun u hu => hinv.ok_covered u (by simpa [hok] using hu)
      ok_nodup := by simpa [hok] using hinv.ok_nodup
      forkers := by
        intro n
        by_cases hn : n = (coord su).creator
        · subst hn
          simp [Validator.markForker, hal, ← hforker]
        · have := hinv.forkers n
          simp only [Validator.markForker, Function.update_of_ne hn] at this ⊢
          simp [hal, this, hforker, hn]
      alerts_nodup := by
        simp only [alerts_append, hal, List.map_append, List.map_cons, List.map_nil]
        exact List.nodup_append.mpr ⟨hinv.alerts_nodup, List.nodup_singleton _,
          fun x hx y hy => by rw [List.mem_singleton.mp hy]; exact fun h => hnew (h ▸ hx)⟩
      alerts_proof := by
        intro b hb
        simp only [alerts_append, hal, List.mem_append, List.mem_singleton] at hb
        rcases hb with hb | rfl
        · exact hinv.alerts_proof b hb
        · exact ⟨rfl, hdiff, congrArg id hcoord, canonical.verified, su.verified⟩ }

theorem accept (hinv : Inv s) {uu : UncheckedSignedUnit H D S} {su : SignedUnit V.keychain hasher}
    (hpre : s.validator.preValidate uu s.store = .ok su)
    (hS : s.store.canonicalUnit (coord su) = none) (hP : s.validator.processingUnits.canonicalUnit (coord su) = none) :
    Inv { s with
      validator := { s.validator with processingUnits := s.validator.processingUnits.insert su }
      results := s.results ++ [.ok su] } := by
  obtain ⟨hfS, hfP⟩ := preValidate_ok hpre
  have hins := hinv.insertProcessing hfS hfP
  have hok : okUnits [(.ok su : Outcome V hasher)] = [su] := rfl
  have hal : alerts [(.ok su : Outcome V hasher)] = [] := rfl
  have hcovered : Covered { s with validator := { s.validator with
      processingUnits := s.validator.processingUnits.insert su } } (coord su) := by
    right
    simp [hinv.processing_wf.isSome_canonicalUnit_insert hfP]
  have hfresh : coord su ∉ (okUnits s.results).map coord := by
    intro hmem
    obtain ⟨u, hu, hcoord⟩ := List.mem_map.mp hmem
    rcases hinv.ok_covered u hu with h | h <;> rw [hcoord] at h
    · rw [hS] at h
      cases h
    · rw [hP] at h
      cases h
  exact
    { processing_wf := hins.processing_wf
      store_wf := hins.store_wf
      disjoint := hins.disjoint
      store_canonical := hins.store_canonical
      ok_covered := by
        intro u hu
        simp only [okUnits_append, hok, List.mem_append, List.mem_singleton] at hu
        rcases hu with hu | rfl
        · exact hins.ok_covered u hu
        · exact hcovered
      ok_nodup := by
        simp only [okUnits_append, hok, List.map_append, List.map_cons, List.map_nil]
        exact List.nodup_append.mpr ⟨hinv.ok_nodup, List.nodup_singleton _,
          fun x hx y hy => by rw [List.mem_singleton.mp hy]; exact fun h => hfresh (h ▸ hx)⟩
      forkers := by simpa [hal] using hinv.forkers
      alerts_nodup := by simpa [hal] using hinv.alerts_nodup
      alerts_proof := by simpa [hal] using hinv.alerts_proof }

theorem finished (hinv : Inv s) (h : H) :
    Inv { s with
      store := match s.validator.processingUnits.unit h with
        | some u => s.store.insert u
        | none => s.store
      validator := s.validator.finishedProcessing h } := by
  cases hu : s.validator.processingUnits.unit h with
  | none =>
    simp only [Validator.finishedProcessing, UnitStore.remove_of_unit_eq_none hu]
    exact hinv
  | some u =>
    have hhu : hash u = h := hinv.processing_wf.hash_eq h u hu
    have hfresh : s.store.unit (hash u) = none := by
      rw [hhu]
      exact hinv.disjoint h (by rw [hu]; rfl)
    have hcov : ∀ c, Covered s c → ((s.store.insert u).canonicalUnit c).isSome ∨
        ((s.validator.processingUnits.remove h).canonicalUnit c).isSome := by
      intro c hc
      by_cases hcu : c = coord u
      · left
        simp [hinv.store_wf.isSome_canonicalUnit_insert hfresh, hcu]
      · rcases hc with hc | hc
        · left
          simp [hinv.store_wf.isSome_canonicalUnit_insert hfresh, hc]
        · right
          rwa [hinv.processing_wf.canonicalUnit_remove_of_ne hu hcu]
    exact
      { processing_wf := hinv.processing_wf.remove h
        store_wf := hinv.store_wf.insert hfresh
        disjoint := by
          intro h' hh'
          simp only [Validator.finishedProcessing, UnitStore.unit_remove] at hh'
          split at hh'
          · cases hh'
          · next hne =>
            simp only [UnitStore.unit_insert, hhu, if_neg hne]
            exact hinv.disjoint h' hh'
        store_canonical := by
          intro h' x hx
          rw [UnitStore.unit_insert] at hx
          split at hx
          · cases hx
            simp [hinv.store_wf.isSome_canonicalUnit_insert hfresh]
          · exact (hcov _ (.inl (hinv.store_canonical h' x hx))).elim id fun h => by
              simp [hinv.store_wf.isSome_canonicalUnit_insert hfresh, hinv.store_canonical h' x hx]
        ok_covered := fun u' hu' => hcov _ (hinv.ok_covered u' hu')
        ok_nodup := hinv.ok_nodup
        forkers := hinv.forkers
        alerts_nodup := hinv.alerts_nodup
        alerts_proof := hinv.alerts_proof }

theorem init {s : State V hasher} (h : (system V hasher).init s) : Inv s := by
  obtain ⟨hv, hs, hr⟩ := h
  have hP : s.validator.processingUnits = UnitStore.new := by rw [hv]; rfl
  exact
    { processing_wf := hP ▸ UnitStore.wellFormed_new
      store_wf := hs ▸ UnitStore.wellFormed_new
      disjoint := fun h hh => by rw [hP] at hh; cases hh
      store_canonical := fun h u hu => by rw [hs] at hu; cases hu
      ok_covered := by simp [hr, okUnits]
      ok_nodup := by simp [hr, okUnits]
      forkers := fun n => by simp [hr, alerts, hv, Validator.new]
      alerts_nodup := by simp [hr, alerts]
      alerts_proof := by simp [hr, alerts] }

theorem step {s s' : State V hasher} {call : Call H D S} (hinv : Inv s) (hstep : step V hasher s call = some s') :
    Inv s' := by
  cases call with
  | validate uu =>
    simp only [Dag.step, Option.some.injEq] at hstep
    subst hstep
    rcases validate_cases s.validator uu s.store with
      ⟨e, he, hne⟩ | ⟨su, canonical, hpre, hf, hc, he⟩ | ⟨su, hpre, -, hS, hP, he⟩
    · rw [he]
      exact hinv.fail hne
    · rw [he]
      exact hinv.newForker hpre hf hc
    · rw [he]
      exact hinv.accept hpre hS hP
  | validateCommitted uu =>
    obtain ⟨r, hr, rfl⟩ := Option.map_eq_some_iff.mp hstep
    rcases validateCommitted_cases hr with hv | ⟨su, hpre, hv⟩
    · rw [hv]
      exact hinv
    · rw [hv]
      obtain ⟨hS, hP⟩ := preValidate_ok hpre
      exact hinv.insertProcessing hS hP
  | finishedProcessing h =>
    simp only [Dag.step, Option.some.injEq] at hstep
    subst hstep
    exact hinv.finished h

end Inv

theorem inv_invariant : Invariant (system V hasher) Inv :=
  invariant_of_inductive _ (fun _ h => Inv.init h) fun _ _ _ hinv hstep => hinv.step hstep

/-- Over every run in which the consensus stores a unit before it finishes
processing: `validate` accepts units of pairwise different coordinates, the
known forkers are exactly those of the `NewForker` alerts, no forker is
alerted twice, and every alert is ours and proves a fork. -/
theorem validate_admits_no_fork :
    ∀ s, Reachable (system V hasher) s →
      ((okUnits s.results).map coord).Nodup ∧
      (∀ n, s.validator.knownForkers n = true ↔ n ∈ (alerts s.results).map Alert.forker) ∧
      ((alerts s.results).map Alert.forker).Nodup ∧
      ∀ a ∈ alerts s.results, a.sender = V.keychain.index ∧ IsForkProof V.keychain hasher a.proof := by
  intro s hs
  have hinv := inv_invariant s hs
  exact ⟨hinv.ok_nodup, hinv.forkers, hinv.alerts_nodup, hinv.alerts_proof⟩

section Reference

/-- Four nodes; a signature is valid when it is the hash plus the signer's
index. -/
def referenceKeychain : Keychain Nat Nat := ⟨4, 0, fun h sig i => sig == h + i⟩

def referenceHasher : Hasher Nat Nat :=
  ⟨fun u => 1000 * u.round + 100 * u.creator + u.data.getD 0, fun _ => 0⟩

def referenceValidator : UnitValidator Nat Nat := ⟨0, referenceKeychain, 10⟩

/-- A round-0 unit of `creator` carrying `data`, signed by its creator. -/
def initialUnit (creator data : Nat) : UncheckedSignedUnit Nat Nat Nat :=
  let u : FullUnit Nat Nat := ⟨⟨⟨0, creator⟩, ⟨NodeMap.withSize 4, 0⟩⟩, some data, 0⟩
  ⟨u, referenceHasher.unitHash u + creator⟩

def genesis : State referenceValidator referenceHasher := ⟨.new, UnitStore.new, []⟩

theorem genesis_init : (system referenceValidator referenceHasher).init genesis := ⟨rfl, rfl, rfl⟩

/-- Node 1's unit is accepted and stored; its second unit of round 0 makes it
a forker, and its third is refused as uncommitted; node 2's unit is
accepted. -/
theorem validate_admits_no_fork_reference :
    let s := (system referenceValidator referenceHasher).run genesis
      [.validate (initialUnit 1 1), .finishedProcessing 101, .validate (initialUnit 1 2),
        .validate (initialUnit 1 3), .validate (initialUnit 2 4)]
    (okUnits s.results).map coord = [⟨0, 1⟩, ⟨0, 2⟩] ∧ (alerts s.results).map Alert.forker = [1] ∧
      ((okUnits s.results).map coord).Nodup ∧
      (∀ n, s.validator.knownForkers n = true ↔ n ∈ (alerts s.results).map Alert.forker) ∧
      ((alerts s.results).map Alert.forker).Nodup ∧
      ∀ a ∈ alerts s.results, a.sender = 0 ∧ IsForkProof referenceKeychain referenceHasher a.proof := by
  intro s
  have hreach : Reachable (system referenceValidator referenceHasher) s :=
    (Reachable.init genesis_init).run _
  refine ⟨by decide, by decide, validate_admits_no_fork s hreach⟩

end Reference

end Setheum.SetBft.Dag
