import Setheum.SetBft.Units

/-!
# Unit creation

`creation::Creator` keeps one `UnitsCollector` per round. The collector for
round `r + 1`, at index `r`, keeps for each creator the hash and round of its
highest unit below `r + 1`, and counts the creators whose candidate is of round
`r`: the direct parents. A unit added to the creator goes to every collector
from its round up; a collector for a new round starts from a copy of the last
one with its count at zero. `create_unit` takes the parents of round `r` from
the collector for round `r + 1` once enough of them and the node's own unit are
there.

Over every sequence of added units of creators below `n`, every collector's
count is the number of its candidates of the round below, so the control hash
of every unit the creator makes passes `ControlHash::validate`.
-/

namespace Setheum.SetBft.Creation

open Result UnitLike

variable {H : Type}

inductive ConstraintError where
  | notEnoughParents
  | missingOwnParent
  deriving DecidableEq

structure UnitsCollector (H : Type) where
  candidates : NodeMap (H × Nat)
  forRound : Nat
  directParents : Nat

namespace UnitsCollector

def newInitial (nMembers : Nat) : UnitsCollector H := ⟨NodeMap.withSize nMembers, 1, 0⟩

def fromPrevious (previous : UnitsCollector H) : UnitsCollector H :=
  ⟨previous.candidates, previous.forRound + 1, 0⟩

variable {U : Type} [UnitLike U H]

/-- `UnitsCollector::add_unit`: a unit below the collector's round replaces
its creator's candidate if that is of a lower round. -/
def addUnit (c : UnitsCollector H) (unit : U) : UnitsCollector H :=
  let nodeId := (coord unit).creator
  let hash := hash unit
  let round := (coord unit).round
  if round ≥ c.forRound then c
  else
    let toInsert := match c.candidates.get nodeId with
      | none => some (hash, round)
      | some (_, r) => if r < round then some (hash, round) else none
    match toInsert with
    | some data =>
        { c with
          candidates := c.candidates.insert nodeId data
          directParents := if round = c.forRound - 1 then c.directParents + 1 else c.directParents }
    | none => c

def prospectiveParents (c : UnitsCollector H) (nodeId : Nat) : Except ConstraintError (NodeMap (H × Nat)) :=
  if c.directParents < consensusThreshold c.candidates.size then .error .notEnoughParents
  else
    match c.candidates.get nodeId with
    | some (_, r) => if r = c.forRound - 1 then .ok c.candidates else .error .missingOwnParent
    | none => .error .missingOwnParent

/-- A collector over `n` nodes: every candidate is below the collector's
round, and the count of direct parents is the number of candidates of the
round just below. -/
structure WellFormed (n : Nat) (c : UnitsCollector H) : Prop where
  size : c.candidates.size = n
  below : ∀ i e, c.candidates.get i = some e → e.2 < c.forRound
  count : c.directParents = c.candidates.countP fun e => e.any (·.2 == c.forRound - 1)

theorem wellFormed_newInitial (n : Nat) : (newInitial n : UnitsCollector H).WellFormed n where
  size := List.length_replicate
  below i e h := by simp [newInitial] at h
  count := (List.countP_eq_zero.mpr fun e he => by rw [(List.mem_replicate.mp he).2]; simp).symm

theorem WellFormed.fromPrevious {n : Nat} {c : UnitsCollector H} (hc : c.WellFormed n) :
    c.fromPrevious.WellFormed n where
  size := hc.size
  below i e h := Nat.lt_succ_of_lt (hc.below i e h)
  count := by
    show 0 = List.countP _ c.candidates
    symm
    rw [List.countP_eq_zero]
    intro e he
    cases e with
    | none => simp
    | some e =>
        obtain ⟨i, hi⟩ := NodeMap.mem_iff_get.mp he
        have hlt := hc.below i e hi
        simp only [Option.any_some, beq_iff_eq, show c.fromPrevious.forRound = c.forRound + 1 from rfl]
        omega

/-- What `add_unit` does: nothing, when the unit is not below the collector's
round or its creator's candidate is as high; otherwise it makes the unit the
candidate and counts it if it is of the round below. -/
theorem addUnit_cases (c : UnitsCollector H) (u : U) :
    (c.addUnit u = c ∧
      (c.forRound ≤ (coord u).round ∨
        ∃ e, c.candidates.get (coord u).creator = some e ∧ (coord u).round ≤ e.2)) ∨
    ((coord u).round < c.forRound ∧
      (∀ e, c.candidates.get (coord u).creator = some e → e.2 < (coord u).round) ∧
      c.addUnit u =
        { c with
          candidates := c.candidates.insert (coord u).creator (hash u, (coord u).round)
          directParents := if (coord u).round = c.forRound - 1 then c.directParents + 1 else c.directParents }) := by
  unfold addUnit
  by_cases hge : (coord u).round ≥ c.forRound
  · exact Or.inl ⟨if_pos hge, Or.inl hge⟩
  · rw [if_neg hge]
    cases hg : c.candidates.get (coord u).creator with
    | none => exact Or.inr ⟨by omega, (fun e he => by cases he), rfl⟩
    | some e =>
        obtain ⟨h, r⟩ := e
        by_cases hr : r < (coord u).round
        · refine Or.inr ⟨by omega, ?_, by simp only [if_pos hr]⟩
          rintro e ⟨⟩
          exact hr
        · exact Or.inl ⟨by simp only [if_neg hr], Or.inr ⟨(h, r), rfl, by omega⟩⟩

variable {n : Nat} {c : UnitsCollector H} {u : U}

theorem WellFormed.addUnit (hc : c.WellFormed n) (hu : (coord u).creator < n) :
    (c.addUnit u).WellFormed n := by
  rcases addUnit_cases c u with ⟨heq, -⟩ | ⟨hlt, hold, heq⟩
  · rw [heq]
    exact hc
  rw [heq]
  have hi : (coord u).creator < c.candidates.size := hc.size ▸ hu
  refine ⟨by simp [hc.size], ?_, ?_⟩
  · intro i e he
    by_cases hci : (coord u).creator = i
    · subst hci
      rw [NodeMap.get_insert_self _ hi, Option.some.injEq] at he
      rw [← he]
      exact hlt
    · rw [NodeMap.get_insert_ne _ hci] at he
      exact hc.below i e he
  · -- the replaced candidate was below the unit's round, so never of the round below
    have hprev : (c.candidates[(coord u).creator]).any (·.2 == c.forRound - 1) = false := by
      cases hce : c.candidates[(coord u).creator] with
      | none => rfl
      | some e =>
          have hget : c.candidates.get (coord u).creator = some e := by
            simp [NodeMap.get, List.getElem?_eq_getElem hi, hce]
          have := hold e hget
          simp only [Option.any_some, beq_eq_false_iff_ne, ne_eq]
          omega
    simp only [NodeMap.insert]
    rw [List.countP_set hi, hprev, hc.count]
    split_ifs with hround <;> simp_all

theorem exists_get_addUnit {i : Nat} {e : H × Nat} (hu : (coord u).creator < c.candidates.size)
    (he : c.candidates.get i = some e) :
    ∃ e', (c.addUnit u).candidates.get i = some e' ∧ e.2 ≤ e'.2 := by
  rcases addUnit_cases c u with ⟨heq, -⟩ | ⟨-, hold, heq⟩
  · exact ⟨e, by rw [heq, he], Nat.le_refl _⟩
  rw [heq]
  by_cases hci : (coord u).creator = i
  · subst hci
    exact ⟨_, NodeMap.get_insert_self _ hu, Nat.le_of_lt (hold e he)⟩
  · exact ⟨e, by rw [NodeMap.get_insert_ne _ hci, he], Nat.le_refl _⟩

theorem exists_get_addUnit_self (hu : (coord u).creator < c.candidates.size)
    (hlt : (coord u).round < c.forRound) :
    ∃ e, (c.addUnit u).candidates.get (coord u).creator = some e ∧ (coord u).round ≤ e.2 := by
  rcases addUnit_cases c u with ⟨heq, hge | hcand⟩ | ⟨-, -, heq⟩
  · omega
  · rw [heq]
    exact hcand
  · rw [heq]
    exact ⟨_, NodeMap.get_insert_self _ hu, Nat.le_refl _⟩

theorem prospectiveParents_eq_ok {nodeId : Nat} {p : NodeMap (H × Nat)}
    (h : c.prospectiveParents nodeId = .ok p) :
    p = c.candidates ∧ consensusThreshold c.candidates.size ≤ c.directParents ∧
      ∃ hash, c.candidates.get nodeId = some (hash, c.forRound - 1) := by
  unfold prospectiveParents at h
  split_ifs at h with hlt
  cases hg : c.candidates.get nodeId with
  | none => rw [hg] at h; cases h
  | some e =>
      obtain ⟨hash, r⟩ := e
      rw [hg] at h
      simp only at h
      split_ifs at h with hr
      cases h
      exact ⟨rfl, by omega, hash, by rw [hr]⟩

@[simp] theorem forRound_addUnit (c : UnitsCollector H) (u : U) : (c.addUnit u).forRound = c.forRound := by
  rcases addUnit_cases c u with ⟨heq, -⟩ | ⟨-, -, heq⟩ <;> rw [heq]

theorem validate_new_of_prospectiveParents [DecidableEq H] (hc : c.WellFormed n) {round nodeId : Nat}
    (hf : c.forRound = round + 1) {parents : NodeMap (H × Nat)} (h : c.prospectiveParents nodeId = .ok parents)
    (createControlHash : NodeMap (H × Nat) → H) :
    (ControlHash.new createControlHash parents).validate createControlHash ⟨round + 1, nodeId⟩ = .ok () ∧
      (ControlHash.new createControlHash parents).nMembers = n := by
  obtain ⟨rfl, hthreshold, hash, hown⟩ := prospectiveParents_eq_ok h
  have hparents := ControlHash.parents_new createControlHash c.candidates
  have hsize : (ControlHash.new createControlHash c.candidates).nMembers = n := by
    rw [ControlHash.nMembers, hparents, NodeMap.size, List.length_map]
    exact hc.size
  refine ⟨?_, hsize⟩
  have hget : (ControlHash.new createControlHash c.candidates).parents.get nodeId = some round := by
    rw [hparents, NodeMap.get_map, hown, hf]
    rfl
  have hcount : consensusThreshold (ControlHash.new createControlHash c.candidates).nMembers ≤
      ((ControlHash.new createControlHash c.candidates).parentCoords.filter (·.round == round)).length := by
    rw [ControlHash.length_filter_parentCoords, hparents, List.countP_map, hsize]
    have hfun : ((fun e : Option Nat => e.any (· == round)) ∘ Option.map Prod.snd) =
        fun e : Option (H × Nat) => e.any (·.2 == c.forRound - 1) := by
      funext e
      cases e <;> simp [hf]
    rw [hfun, ← hc.count, ← hc.size]
    exact hthreshold
  have hany : ∀ x ∈ (ControlHash.new createControlHash c.candidates).parentCoords, x.round ≤ round := by
    intro x hx
    rw [ControlHash.mem_parentCoords, hparents, NodeMap.get_map] at hx
    obtain ⟨e, he, hxe⟩ := Option.map_eq_some_iff.mp hx
    have := hc.below _ e he
    omega
  show ControlHash.validateNonInitialRound _ ⟨round + 1, nodeId⟩ = .ok ()
  unfold ControlHash.validateNonInitialRound
  simp only [hget]
  simp only [ensure, Nat.add_sub_cancel, beq_self_eq_true, if_true, hcount, decide_true, pure_bind]
  simp only [gt_iff_lt, Bool.not_eq_eq_eq_not, Bool.not_true]
  have hany' : ((ControlHash.new createControlHash c.candidates).parentCoords.any
      fun x => decide (round < x.round)) = false :=
    List.any_eq_false.mpr fun x hx => by simpa using hany x hx
  rw [if_pos hany']
  rfl

end UnitsCollector

structure Creator (H : Type) where
  roundCollectors : List (UnitsCollector H)
  nodeId : Nat
  nMembers : Nat

namespace Creator

def new (nodeId nMembers : Nat) : Creator H := ⟨[.newInitial nMembers], nodeId, nMembers⟩

def currentRound (c : Creator H) : Nat := c.roundCollectors.length - 1

/-- The `while` loop of `get_or_initialize_collector_for_round`, run `k`
times: each round pushes a copy of the last collector. -/
def pushCollectors : Nat → List (UnitsCollector H) → List (UnitsCollector H)
  | 0, cs => cs
  | k + 1, cs =>
      match cs.getLast? with
      | some last => pushCollectors k (cs ++ [.fromPrevious last])
      -- `expect`: there is always a collector
      | none => cs

def getOrInitializeCollectorForRound (c : Creator H) (round : Nat) : Creator H :=
  { c with roundCollectors := pushCollectors (round - c.currentRound) c.roundCollectors }

/-- `create_unit`. -/
def createUnit (createControlHash : NodeMap (H × Nat) → H) (c : Creator H) (round : Nat) :
    Except ConstraintError (PreUnit H) := do
  let controlHash ← match round with
    | 0 => pure (ControlHash.new createControlHash (NodeMap.withSize c.nMembers))
    | prevRound + 1 => do
        let collector ← okOr c.roundCollectors[prevRound]? .notEnoughParents
        let parents ← collector.prospectiveParents c.nodeId
        pure (ControlHash.new createControlHash parents)
  pure ⟨⟨round, c.nodeId⟩, controlHash⟩

variable {U : Type} [UnitLike U H]

/-- `Creator::add_unit`: the unit goes to the collectors from its round up to
the current round, the first of them created if need be. -/
def addUnit (c : Creator H) (unit : U) : Creator H :=
  let startRound := (coord unit).round
  let endRound := max startRound c.currentRound
  (List.range' startRound (endRound + 1 - startRound)).foldl
    (fun c round =>
      let c := c.getOrInitializeCollectorForRound round
      { c with roundCollectors := c.roundCollectors.modify round fun col => col.addUnit unit })
    c

/-! ### Growing the collectors -/

theorem pushCollectors_induction (Q : Nat → UnitsCollector H → Prop) :
    ∀ (k : Nat) (cs : List (UnitsCollector H)), (∀ i col, cs[i]? = some col → Q i col) →
      (∀ i col, cs.length ≤ i + 1 → Q i col → Q (i + 1) col.fromPrevious) →
      ∀ i col, (pushCollectors k cs)[i]? = some col → Q i col
  | 0, _, hcs, _ => hcs
  | k + 1, cs, hcs, hstep => by
      unfold pushCollectors
      cases hlast : cs.getLast? with
      | none => exact hcs
      | some last =>
          have hlen : 0 < cs.length := List.length_pos_iff.mpr fun h => by simp [h] at hlast
          apply pushCollectors_induction Q k
          · intro i col hi
            rw [List.getElem?_append] at hi
            split_ifs at hi with hlt
            · exact hcs i col hi
            · -- the copy sits right after the last collector
              have hi' : i = cs.length := by
                have := (List.getElem?_eq_some_iff.mp hi).1
                simp only [List.length_singleton] at this
                omega
              subst hi'
              rw [Nat.sub_self, List.getElem?_cons_zero, Option.some.injEq] at hi
              subst hi
              have hq := hcs (cs.length - 1) last (by rw [← List.getLast?_eq_getElem?]; exact hlast)
              have := hstep (cs.length - 1) last (by omega) hq
              rwa [Nat.sub_add_cancel hlen] at this
          · intro i col hi hq
            exact hstep i col (by simp at hi; omega) hq

theorem length_pushCollectors : ∀ (k : Nat) {cs : List (UnitsCollector H)}, cs ≠ [] →
    (pushCollectors k cs).length = cs.length + k
  | 0, _, _ => rfl
  | k + 1, cs, hcs => by
      obtain ⟨last, hlast⟩ := Option.isSome_iff_exists.mp (List.getLast?_isSome.mpr hcs)
      rw [pushCollectors, hlast, length_pushCollectors k (by simp), List.length_append,
        List.length_singleton]
      omega

theorem length_getOrInitializeCollectorForRound {c : Creator H} (hc : c.roundCollectors ≠ []) (round : Nat) :
    (c.getOrInitializeCollectorForRound round).roundCollectors.length =
      max c.roundCollectors.length (round + 1) := by
  have hlen : 0 < c.roundCollectors.length := List.length_pos_iff.mpr hc
  rw [getOrInitializeCollectorForRound, length_pushCollectors _ hc, currentRound]
  omega

theorem getOrInitializeCollectorForRound_of_le {c : Creator H} {round : Nat} (h : round ≤ c.currentRound) :
    c.getOrInitializeCollectorForRound round = c := by
  rw [getOrInitializeCollectorForRound, Nat.sub_eq_zero_of_le h]
  rfl

theorem foldl_modify_range' (f : UnitsCollector H → UnitsCollector H) :
    ∀ (m start : Nat) (cs : List (UnitsCollector H)),
      (List.range' start m).foldl (fun cs round => cs.modify round f) cs =
        cs.mapIdx fun i col => if start ≤ i ∧ i < start + m then f col else col
  | 0, start, cs => by
      rw [List.range'_zero, List.foldl_nil]
      apply List.ext_getElem?
      intro i
      rw [List.getElem?_mapIdx]
      cases cs[i]? with
      | none => rfl
      | some col =>
          simp only [Option.map_some, Option.some.injEq]
          rw [if_neg (by omega)]
  | m + 1, start, cs => by
      rw [List.range'_succ, List.foldl_cons, foldl_modify_range' f m (start + 1)]
      apply List.ext_getElem?
      intro i
      rw [List.getElem?_mapIdx, List.getElem?_mapIdx, List.getElem?_modify]
      cases cs[i]? with
      | none => rfl
      | some col =>
          simp only [Option.map_some, Option.map_eq_map]
          by_cases hi : start = i
          · subst hi
            simp only [if_true, Option.some.injEq]
            rw [if_neg (by omega), if_pos ⟨Nat.le_refl _, by omega⟩]
          · simp only [if_neg hi]
            congr 1
            by_cases h1 : start + 1 ≤ i ∧ i < start + 1 + m
            · rw [if_pos h1, if_pos ⟨by omega, by omega⟩]
            · rw [if_neg h1, if_neg (by omega)]

variable {U : Type} [UnitLike U H]

theorem foldl_addUnit_of_le (u : U) : ∀ (rounds : List Nat) (e : Creator H),
    (∀ r ∈ rounds, r ≤ e.currentRound) →
      rounds.foldl (fun c round =>
          let c := c.getOrInitializeCollectorForRound round
          { c with roundCollectors := c.roundCollectors.modify round fun col => col.addUnit u }) e =
        { e with
          roundCollectors := rounds.foldl (fun cs round => cs.modify round fun col => col.addUnit u)
            e.roundCollectors }
  | [], _, _ => rfl
  | r :: rs, e, h => by
      rw [List.foldl_cons, List.foldl_cons]
      simp only [getOrInitializeCollectorForRound_of_le (h r List.mem_cons_self)]
      exact foldl_addUnit_of_le u rs _ fun r' hr' => by
        simpa [currentRound] using h r' (List.mem_cons_of_mem _ hr')

theorem addUnit_eq {c : Creator H} (hc : c.roundCollectors ≠ []) (u : U) :
    c.addUnit u =
      { c.getOrInitializeCollectorForRound (coord u).round with
        roundCollectors := (c.getOrInitializeCollectorForRound (coord u).round).roundCollectors.mapIdx
          fun i col => if (coord u).round ≤ i then col.addUnit u else col } := by
  have hlen := length_getOrInitializeCollectorForRound hc (coord u).round
  have hpos := List.length_pos_iff.mpr hc
  unfold addUnit
  dsimp only
  obtain ⟨m, hm⟩ : ∃ m, max (coord u).round c.currentRound + 1 - (coord u).round = m + 1 :=
    ⟨max (coord u).round c.currentRound - (coord u).round, by omega⟩
  rw [hm, List.range'_succ, List.foldl_cons]
  rw [foldl_addUnit_of_le u _ _ fun r hr => by
    simp only [List.mem_range'_1] at hr
    simp only [currentRound, List.length_modify, hlen]
    simp only [currentRound] at hm
    omega]
  have hfold := foldl_modify_range' (fun col => col.addUnit u) (m + 1) (coord u).round
    (c.getOrInitializeCollectorForRound (coord u).round).roundCollectors
  rw [List.range'_succ, List.foldl_cons] at hfold
  rw [hfold]
  congr 1
  apply List.ext_getElem?
  intro i
  rw [List.getElem?_mapIdx, List.getElem?_mapIdx]
  cases h : (c.getOrInitializeCollectorForRound (coord u).round).roundCollectors[i]? with
  | none => rfl
  | some col =>
      have hi := (List.getElem?_eq_some_iff.mp h).1
      simp only [Option.map_some, Option.some.injEq]
      simp only [currentRound] at hm
      by_cases hr : (coord u).round ≤ i
      · rw [if_pos ⟨hr, by omega⟩, if_pos hr]
      · rw [if_neg (by omega), if_neg hr]

/-! ### The creator's invariants -/

/-- A creator over `n` nodes: the collector at index `i` is for round `i + 1`
and well formed. -/
structure WellFormed (n : Nat) (c : Creator H) : Prop where
  nMembers : c.nMembers = n
  nonempty : c.roundCollectors ≠ []
  collectors : ∀ i col, c.roundCollectors[i]? = some col → col.forRound = i + 1 ∧ col.WellFormed n

/-- The creator has seen a unit of coordinate `x`: the collector of its round
exists, and every collector from it on has a candidate of the unit's creator
of at least its round. -/
def HasSeen (c : Creator H) (x : UnitCoord) : Prop :=
  x.round < c.roundCollectors.length ∧
    ∀ i col, c.roundCollectors[i]? = some col → x.round ≤ i →
      ∃ e, col.candidates.get x.creator = some e ∧ x.round ≤ e.2

variable {n : Nat} {c : Creator H}

theorem wellFormed_new (nodeId n : Nat) : (new nodeId n : Creator H).WellFormed n where
  nMembers := rfl
  nonempty := List.cons_ne_nil _ _
  collectors i col h := by
    cases i with
    | zero =>
        cases h
        exact ⟨rfl, UnitsCollector.wellFormed_newInitial n⟩
    | succ i => cases h

theorem WellFormed.getOrInitializeCollectorForRound (hc : c.WellFormed n) (round : Nat) :
    (c.getOrInitializeCollectorForRound round).WellFormed n where
  nMembers := hc.nMembers
  nonempty := by
    rw [← List.length_pos_iff, length_getOrInitializeCollectorForRound hc.nonempty]
    omega
  collectors := pushCollectors_induction (fun i col => col.forRound = i + 1 ∧ col.WellFormed n) _ _
    hc.collectors fun _ _ _ ⟨hf, hw⟩ => ⟨by rw [UnitsCollector.fromPrevious, hf], hw.fromPrevious⟩

theorem HasSeen.getOrInitializeCollectorForRound {x : UnitCoord} (hx : c.HasSeen x) (hc : c.WellFormed n)
    (round : Nat) : (c.getOrInitializeCollectorForRound round).HasSeen x := by
  refine ⟨?_, ?_⟩
  · rw [length_getOrInitializeCollectorForRound hc.nonempty]
    exact Nat.lt_of_lt_of_le hx.1 (Nat.le_max_left _ _)
  · -- a copy pushed after the last collector has its candidates
    intro i col hi hxi
    refine pushCollectors_induction
      (fun i col => x.round ≤ i → ∃ e, col.candidates.get x.creator = some e ∧ x.round ≤ e.2) _ _
      (fun i col h => hx.2 i col h) (fun j col hj hq hxj => hq (by have := hx.1; omega)) i col hi hxi

variable {U : Type} [UnitLike U H] {u : U}

theorem WellFormed.addUnit (hc : c.WellFormed n) (hu : (coord u).creator < n) : (c.addUnit u).WellFormed n := by
  have hd := hc.getOrInitializeCollectorForRound (coord u).round
  rw [addUnit_eq hc.nonempty]
  refine ⟨hd.nMembers, ?_, ?_⟩
  · rw [← List.length_pos_iff, List.length_mapIdx, List.length_pos_iff]
    exact hd.nonempty
  · intro i col h
    rw [List.getElem?_mapIdx] at h
    obtain ⟨col₀, h0, rfl⟩ := Option.map_eq_some_iff.mp h
    obtain ⟨hf, hw⟩ := hd.collectors i col₀ h0
    split_ifs
    · exact ⟨by rw [UnitsCollector.forRound_addUnit, hf], hw.addUnit hu⟩
    · exact ⟨hf, hw⟩

theorem HasSeen.addUnit {x : UnitCoord} (hx : c.HasSeen x) (hc : c.WellFormed n) (hu : (coord u).creator < n) :
    (c.addUnit u).HasSeen x := by
  have hd := hc.getOrInitializeCollectorForRound (coord u).round
  have hxd := hx.getOrInitializeCollectorForRound hc (coord u).round
  rw [addUnit_eq hc.nonempty]
  refine ⟨by rw [List.length_mapIdx]; exact hxd.1, ?_⟩
  intro i col h hxi
  rw [List.getElem?_mapIdx] at h
  obtain ⟨col₀, h0, rfl⟩ := Option.map_eq_some_iff.mp h
  obtain ⟨e, he, hxe⟩ := hxd.2 i col₀ h0 hxi
  split_ifs
  · -- adding a unit only raises a candidate
    have hsize : (coord u).creator < col₀.candidates.size := ((hd.collectors i col₀ h0).2.size) ▸ hu
    obtain ⟨e', he', hle⟩ := UnitsCollector.exists_get_addUnit hsize he
    exact ⟨e', he', Nat.le_trans hxe hle⟩
  · exact ⟨e, he, hxe⟩

theorem hasSeen_addUnit (hc : c.WellFormed n) (hu : (coord u).creator < n) : (c.addUnit u).HasSeen (coord u) := by
  have hd := hc.getOrInitializeCollectorForRound (coord u).round
  rw [addUnit_eq hc.nonempty]
  refine ⟨?_, ?_⟩
  · rw [List.length_mapIdx, length_getOrInitializeCollectorForRound hc.nonempty]
    omega
  · intro i col h hi
    rw [List.getElem?_mapIdx] at h
    obtain ⟨col₀, h0, rfl⟩ := Option.map_eq_some_iff.mp h
    obtain ⟨hf, hw⟩ := hd.collectors i col₀ h0
    rw [if_pos hi]
    exact UnitsCollector.exists_get_addUnit_self (hw.size ▸ hu) (by omega)

theorem foldl_addUnit_invariant (us : List U) (hus : ∀ u ∈ us, (coord u).creator < n) :
    ∀ c : Creator H, c.WellFormed n →
      (us.foldl addUnit c).WellFormed n ∧
        ∀ x, (c.HasSeen x ∨ ∃ u ∈ us, coord u = x) → (us.foldl addUnit c).HasSeen x := by
  induction us with
  | nil => exact fun c hc => ⟨hc, fun x hx => hx.resolve_right (by simp)⟩
  | cons u us ih =>
      intro c hc
      have hu := hus u List.mem_cons_self
      obtain ⟨hwf, hseen⟩ := ih (fun v hv => hus v (List.mem_cons_of_mem _ hv)) (c.addUnit u) (hc.addUnit hu)
      refine ⟨hwf, fun x hx => hseen x ?_⟩
      rcases hx with hx | ⟨v, hv, rfl⟩
      · exact Or.inl (hx.addUnit hc hu)
      · rcases List.mem_cons.mp hv with rfl | hv
        · exact Or.inl (hasSeen_addUnit hc hu)
        · exact Or.inr ⟨v, hv, rfl⟩

theorem nodeId_foldl_addUnit (us : List U) : ∀ c : Creator H, (us.foldl addUnit c).nodeId = c.nodeId := by
  induction us with
  | nil => exact fun _ => rfl
  | cons u us ih =>
      intro c
      rw [List.foldl_cons, ih]
      unfold addUnit
      dsimp only
      generalize List.range' _ _ = rounds
      induction rounds generalizing c with
      | nil => rfl
      | cons r rs ihr => exact ihr _

/-! ### Created units -/

section Create

variable [DecidableEq H] (createControlHash : NodeMap (H × Nat) → H)

omit [UnitLike U H] in
theorem createUnit_eq_ok (hc : c.WellFormed n) {round : Nat} {pu : PreUnit H}
    (h : c.createUnit createControlHash round = .ok pu) :
    pu.coord = ⟨round, c.nodeId⟩ ∧ pu.controlHash.validate createControlHash pu.coord = .ok () ∧
      pu.controlHash.nMembers = n := by
  cases round with
  | zero =>
      obtain rfl := (Except.ok.inj h).symm
      have hparents := ControlHash.parents_new createControlHash (NodeMap.withSize c.nMembers : NodeMap (H × Nat))
      have hsize : (ControlHash.new createControlHash (NodeMap.withSize c.nMembers : NodeMap (H × Nat))).nMembers =
          c.nMembers := by
        rw [ControlHash.nMembers, hparents, NodeMap.size, List.length_map, NodeMap.withSize, List.length_replicate]
      have hnone : (ControlHash.new createControlHash (NodeMap.withSize c.nMembers : NodeMap (H × Nat))).parentCoords =
          [] := by
        rw [List.eq_nil_iff_forall_not_mem]
        intro x hx
        rw [ControlHash.mem_parentCoords, hparents, NodeMap.get_map, NodeMap.get_withSize] at hx
        cases hx
      refine ⟨rfl, ?_, hsize.trans hc.nMembers⟩
      show ControlHash.validateInitialRound createControlHash _ = .ok ()
      unfold ControlHash.validateInitialRound
      rw [hnone, hsize]
      have hcomb : (ControlHash.new createControlHash (NodeMap.withSize c.nMembers : NodeMap (H × Nat))).combinedHash =
          createControlHash (NodeMap.withSize c.nMembers) := rfl
      simp only [ensure, List.length_nil, hcomb, beq_self_eq_true, if_true]
      rfl
  | succ round =>
      obtain ⟨col, hcol, h⟩ := bind_eq_ok.mp h
      obtain ⟨parents, hparents, h⟩ := bind_eq_ok.mp h
      obtain rfl := (Except.ok.inj h).symm
      obtain ⟨hf, hw⟩ := hc.collectors round col (okOr_eq_ok.mp hcol)
      exact ⟨rfl, UnitsCollector.validate_new_of_prospectiveParents hw hf hparents createControlHash⟩

omit [UnitLike U H] [DecidableEq H] in
theorem createUnit_isOk (hc : c.WellFormed n) {round : Nat} (hown : c.HasSeen ⟨round, c.nodeId⟩)
    {creators : List Nat} (hnodup : creators.Nodup) (hlen : consensusThreshold n ≤ creators.length)
    (hseen : ∀ i ∈ creators, c.HasSeen ⟨round, i⟩) :
    ∃ pu, c.createUnit createControlHash (round + 1) = .ok pu := by
  obtain ⟨col, hcol⟩ : ∃ col, c.roundCollectors[round]? = some col := ⟨_, List.getElem?_eq_getElem hown.1⟩
  obtain ⟨hf, hw⟩ := hc.collectors round col hcol
  have hcand : ∀ i, c.HasSeen ⟨round, i⟩ → ∃ hash, col.candidates.get i = some (hash, round) := by
    intro i hi
    obtain ⟨⟨hash, r⟩, he, hle⟩ := hi.2 round col hcol (Nat.le_refl _)
    have := hw.below i _ he
    exact ⟨hash, by rw [he, show r = round by simp at hle this; omega]⟩
  have hcount : consensusThreshold col.candidates.size ≤ col.directParents := by
    rw [hw.size, hw.count, hf, Nat.add_sub_cancel]
    refine Nat.le_trans hlen (NodeMap.length_le_countP hnodup fun i hi => ?_)
    obtain ⟨hash, he⟩ := hcand i (hseen i hi)
    exact ⟨(hash, round), he, by simp⟩
  obtain ⟨hash, hownc⟩ := hcand c.nodeId hown
  have hpp : col.prospectiveParents c.nodeId = .ok col.candidates := by
    unfold UnitsCollector.prospectiveParents
    rw [if_neg (Nat.not_lt.mpr hcount), hownc, hf, Nat.add_sub_cancel]
    simp
  exact ⟨⟨⟨round + 1, c.nodeId⟩, ControlHash.new createControlHash col.candidates⟩,
    by simp only [createUnit, hcol, okOr, pure_bind, hpp, ok_bind]; rfl⟩

end Create

/-- Over any run of `add_unit` calls with units of the `n` nodes, in any order
and with forks, the creator only makes units whose control hash passes
`validate` at the unit's coordinate and has `n` members; and it makes the
unit of round `round + 1` once it has seen its own unit of `round` and units
of `round` of `consensus_threshold` distinct nodes. -/
theorem createUnit_validated [DecidableEq H] (createControlHash : NodeMap (H × Nat) → H) {n : Nat} (nodeId : Nat)
    (us : List U) (hus : ∀ u ∈ us, (coord u).creator < n) :
    (∀ round pu, (us.foldl addUnit (new nodeId n)).createUnit createControlHash round = .ok pu →
      pu.coord = ⟨round, nodeId⟩ ∧ pu.controlHash.validate createControlHash ⟨round, nodeId⟩ = .ok () ∧
        pu.controlHash.nMembers = n) ∧
    ∀ round (creators : List Nat), (∃ u ∈ us, coord u = ⟨round, nodeId⟩) → creators.Nodup →
      consensusThreshold n ≤ creators.length → (∀ i ∈ creators, ∃ u ∈ us, coord u = ⟨round, i⟩) →
      ∃ pu, (us.foldl addUnit (new nodeId n)).createUnit createControlHash (round + 1) = .ok pu := by
  obtain ⟨hwf, hseen⟩ := foldl_addUnit_invariant us hus (new nodeId n) (wellFormed_new nodeId n)
  have hnode := nodeId_foldl_addUnit us (new nodeId n : Creator H)
  refine ⟨fun round pu h => ?_, fun round creators hown hnodup hlen hcreators => ?_⟩
  · obtain ⟨hcoord, hvalid, hsize⟩ := createUnit_eq_ok createControlHash hwf h
    rw [hnode] at hcoord
    exact ⟨hcoord, hcoord ▸ hvalid, hsize⟩
  · refine createUnit_isOk createControlHash hwf ?_ hnodup hlen fun i hi => hseen _ (Or.inr (hcreators i hi))
    rw [hnode]
    exact hseen _ (Or.inr hown)

namespace Reference

/-- A unit of the tests: its coordinate and which of a fork's variants it is. -/
structure TestUnit where
  coord : UnitCoord
  variant : Nat
  deriving DecidableEq

instance : UnitLike TestUnit Nat where
  hash u := 16 * u.variant + 4 * u.coord.round + u.coord.creator
  coord u := u.coord

/-- A control hash of the tests: the sum of the parents' hashes. -/
def hashParents (parents : NodeMap (Nat × Nat)) : Nat := ((parents.filterMap id).map Prod.fst).sum

/-- Four nodes. A unit of round 1 arrives before the round-0 units it would
build on, and creator 2 forks in round 0. -/
def units : List TestUnit :=
  [⟨⟨1, 3⟩, 0⟩, ⟨⟨0, 2⟩, 0⟩, ⟨⟨0, 2⟩, 1⟩, ⟨⟨0, 1⟩, 0⟩, ⟨⟨0, 0⟩, 0⟩]

end Reference

theorem createUnit_validated_reference :
    (∀ u ∈ Reference.units, (coord u).creator < 4) ∧
      ∃ pu, (Reference.units.foldl addUnit (new 0 4)).createUnit Reference.hashParents 1 = .ok pu ∧
        pu.controlHash.validate Reference.hashParents ⟨1, 0⟩ = .ok () := by
  have hus : ∀ u ∈ Reference.units, (coord u).creator < 4 := by decide
  have h := createUnit_validated Reference.hashParents 0 Reference.units hus
  obtain ⟨pu, hpu⟩ := h.2 0 [0, 1, 2] ⟨⟨⟨0, 0⟩, 0⟩, by decide, rfl⟩ (by decide) (by decide) (by decide)
  exact ⟨hus, pu, hpu, (h.1 1 pu hpu).2.1⟩

end Creator

end Setheum.SetBft.Creation
