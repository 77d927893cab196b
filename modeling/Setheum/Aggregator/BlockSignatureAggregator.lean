import Mathlib
import Setheum.Lib.System

/-!
# The block signature aggregator

`BlockSignatureAggregator` of the aggregator crate. Hashes whose aggregation
started wait in a queue; multisignatures arrive from the reliable multicast in
any order, for any hash, started or not, and may be replaced; `try_pop_hash`
releases the front of the queue once its multisignature is there.
`IO::start_aggregation` is `on_start` with the duplicate ignored, and
`IO::wait_for_next_signature` hands each multisigned hash of the multicast to
`on_multisigned_hash`: the multicast is the environment, which may deliver
any multisignature at any time, so every interleaving of the three calls is a
history of the aggregator. `last_change` only serves the status report.
-/

namespace Setheum.Aggregator

inductive AggregatorError where
  | noHashFound
  | duplicateHash
  deriving DecidableEq, Repr

/-- The aggregator: `HashMap`s and `HashSet`s as functions and finite sets,
the `VecDeque` as a list whose head is its front. -/
structure BlockSignatureAggregator (H PMS : Type) where
  signatures : H → Option PMS
  hashQueue : List H
  startedHashes : Finset H

variable {H PMS : Type} [DecidableEq H]

namespace BlockSignatureAggregator

def new : BlockSignatureAggregator H PMS := ⟨fun _ => none, [], ∅⟩

def onStart (s : BlockSignatureAggregator H PMS) (hash : H) :
    Except AggregatorError Unit × BlockSignatureAggregator H PMS :=
  if hash ∈ s.startedHashes then (.error .duplicateHash, s)
  else (.ok (), { s with startedHashes := insert hash s.startedHashes, hashQueue := s.hashQueue ++ [hash] })

def onMultisignedHash (s : BlockSignatureAggregator H PMS) (hash : H) (signature : PMS) :
    BlockSignatureAggregator H PMS :=
  { s with signatures := Function.update s.signatures hash (some signature) }

def tryPopHash (s : BlockSignatureAggregator H PMS) :
    Except AggregatorError (H × PMS) × BlockSignatureAggregator H PMS :=
  match s.hashQueue with
  | [] => (.error .noHashFound, s)
  | hash :: rest =>
      match s.signatures hash with
      | some multisignature =>
          (.ok (hash, multisignature),
            { s with signatures := Function.update s.signatures hash none, hashQueue := rest })
      -- the popped hash is pushed back to the front
      | none => (.error .noHashFound, { s with hashQueue := hash :: rest })

variable (s : BlockSignatureAggregator H PMS)

theorem onStart_of_mem {hash : H} (h : hash ∈ s.startedHashes) : s.onStart hash = (.error .duplicateHash, s) :=
  if_pos h

theorem onStart_eq_error_iff (hash : H) : (s.onStart hash).1 = .error .duplicateHash ↔ hash ∈ s.startedHashes := by
  unfold onStart
  split_ifs with h <;> simp [h]

theorem tryPopHash_eq_ok {hash : H} {signature : PMS} (h : s.tryPopHash.1 = .ok (hash, signature)) :
    ∃ rest, s.hashQueue = hash :: rest ∧ s.signatures hash = some signature := by
  unfold tryPopHash at h
  split at h
  · cases h
  split at h
  · cases h
    exact ⟨_, by assumption, by assumption⟩
  · cases h

theorem tryPopHash_eq_error_iff :
    (∃ e, s.tryPopHash.1 = .error e) ↔
      s.hashQueue = [] ∨ ∃ hash rest, s.hashQueue = hash :: rest ∧ s.signatures hash = none := by
  unfold tryPopHash
  split
  · simp_all
  next hash rest hq =>
  split <;> simp_all

theorem tryPopHash_of_error {e : AggregatorError} (h : s.tryPopHash.1 = .error e) : s.tryPopHash.2 = s := by
  unfold tryPopHash at h ⊢
  split at h
  · rfl
  next hash rest hq =>
  split at h
  · cases h
  · -- the hash pushed back to the front
    dsimp only
    rw [← hq]

end BlockSignatureAggregator

/-- The calls made on the aggregator. -/
inductive Event (H PMS : Type) where
  | onStart (hash : H)
  | onMultisignedHash (hash : H) (signature : PMS)
  | tryPopHash

/-- What each call answers. -/
inductive Output (H PMS : Type) where
  | started (result : Except AggregatorError Unit)
  | recorded
  | popped (result : Except AggregatorError (H × PMS))

open BlockSignatureAggregator in
/-- The aggregator from `new`, answering every call. -/
def machine : Transition.Machine (BlockSignatureAggregator H PMS) (Event H PMS) (Output H PMS) where
  init := new
  step s
    | .onStart hash => (.started (s.onStart hash).1, (s.onStart hash).2)
    | .onMultisignedHash hash signature => (.recorded, s.onMultisignedHash hash signature)
    | .tryPopHash => (.popped s.tryPopHash.1, s.tryPopHash.2)

/-! ## What the aggregator is for

The order the hashes were started in, the multisignature last recorded for
each hash, and the releases, read off the history of calls alone. -/

/-- A hash joins the start order at its first `on_start`. -/
def extendOrder (order : List H) : Event H PMS → List H
  | .onStart hash => if hash ∈ order then order else order ++ [hash]
  | _ => order

/-- The distinct started hashes, in the order of their first `on_start`. -/
def startOrder (events : List (Event H PMS)) : List H := events.foldl extendOrder []

def record (recorded : H → Option PMS) : Event H PMS → H → Option PMS
  | .onMultisignedHash hash signature => Function.update recorded hash (some signature)
  | _ => recorded

/-- The multisignature last recorded for each hash. -/
def lastRecorded (events : List (Event H PMS)) : H → Option PMS := events.foldl record fun _ => none

/-- The hashes and multisignatures released by the successful pops. -/
def released (outputs : List (Output H PMS)) : List (H × PMS) :=
  outputs.filterMap fun
    | .popped (.ok r) => some r
    | _ => none

@[simp] theorem startOrder_append_singleton (events : List (Event H PMS)) (e : Event H PMS) :
    startOrder (events ++ [e]) = extendOrder (startOrder events) e := by
  simp [startOrder]

@[simp] theorem lastRecorded_append_singleton (events : List (Event H PMS)) (e : Event H PMS) :
    lastRecorded (events ++ [e]) = record (lastRecorded events) e := by
  simp [lastRecorded]

omit [DecidableEq H] in
@[simp] theorem released_append_singleton (outputs : List (Output H PMS)) (o : Output H PMS) :
    released (outputs ++ [o]) = released outputs ++ released [o] := by
  simp [released]

omit [DecidableEq H] in
@[simp] theorem released_popped_ok (r : H × PMS) : released [(.popped (.ok r) : Output H PMS)] = [r] := rfl

omit [DecidableEq H] in
@[simp] theorem released_singleton_of_ne {o : Output H PMS} (h : ∀ r, o ≠ .popped (.ok r)) :
    released [o] = [] := by
  rcases o with _ | _ | (_ | r)
  all_goals first | rfl | exact absurd rfl (h r)

/-! ## The invariant -/

/-- What every history leaves: the set of started hashes is the start order,
whose hashes were released in order up to the queue, which holds the rest;
and each stored multisignature is the last one recorded for its hash. -/
structure Inv (events : List (Event H PMS)) (outputs : List (Output H PMS))
    (s : BlockSignatureAggregator H PMS) : Prop where
  started : ∀ hash, hash ∈ s.startedHashes ↔ hash ∈ startOrder events
  queue : (released outputs).map Prod.fst ++ s.hashQueue = startOrder events
  nodup : (startOrder events).Nodup
  signatures : ∀ hash signature, s.signatures hash = some signature →
    lastRecorded events hash = some signature

section Step

variable {events : List (Event H PMS)} {outputs : List (Output H PMS)} {s : BlockSignatureAggregator H PMS}

theorem Inv.congr {events' : List (Event H PMS)} {outputs' : List (Output H PMS)} (hinv : Inv events outputs s)
    (horder : startOrder events' = startOrder events) (hrecorded : lastRecorded events' = lastRecorded events)
    (hreleased : released outputs' = released outputs) : Inv events' outputs' s where
  started := by simpa only [horder] using hinv.started
  queue := by rw [horder, hreleased]; exact hinv.queue
  nodup := by rw [horder]; exact hinv.nodup
  signatures := by simpa only [hrecorded] using hinv.signatures

theorem Inv.onStart (hinv : Inv events outputs s) (hash : H) :
    Inv (events ++ [.onStart hash]) (outputs ++ [(machine.step s (.onStart hash)).1])
      (machine.step s (.onStart hash)).2 := by
  simp only [machine, BlockSignatureAggregator.onStart]
  by_cases hmem : hash ∈ s.startedHashes
  · -- a second start answers `DuplicateHash` and changes nothing
    have horder : hash ∈ startOrder events := (hinv.started hash).mp hmem
    simp only [if_pos hmem]
    exact hinv.congr (by simp [extendOrder, horder]) (by simp [record]) (by simp)
  have horder : hash ∉ startOrder events := fun h => hmem ((hinv.started hash).mpr h)
  simp only [if_neg hmem]
  refine ⟨fun h => ?_, ?_, ?_, by simpa [record] using hinv.signatures⟩
  · simp [extendOrder, horder, hinv.started, or_comm]
  · rw [startOrder_append_singleton, extendOrder, if_neg horder, ← hinv.queue]
    simp
  · rw [startOrder_append_singleton, extendOrder, if_neg horder, List.nodup_append]
    refine ⟨hinv.nodup, List.nodup_singleton hash, ?_⟩
    simp only [List.mem_singleton]
    rintro a ha b rfl rfl
    exact horder ha

theorem Inv.onMultisignedHash (hinv : Inv events outputs s) (hash : H) (signature : PMS) :
    Inv (events ++ [.onMultisignedHash hash signature])
      (outputs ++ [(machine.step s (.onMultisignedHash hash signature)).1])
      (machine.step s (.onMultisignedHash hash signature)).2 := by
  have horder : startOrder (events ++ [.onMultisignedHash hash signature]) = startOrder events := by
    simp [extendOrder]
  refine ⟨?_, ?_, ?_, fun hash' signature' h => ?_⟩
  · simpa [machine, BlockSignatureAggregator.onMultisignedHash, horder] using hinv.started
  · simpa [machine, BlockSignatureAggregator.onMultisignedHash, horder] using hinv.queue
  · simpa [horder] using hinv.nodup
  · simp only [machine, BlockSignatureAggregator.onMultisignedHash, Function.update_apply] at h
    simp only [lastRecorded_append_singleton, record, Function.update_apply]
    split_ifs at h ⊢
    · exact h
    · exact hinv.signatures hash' signature' h

theorem Inv.tryPopHash (hinv : Inv events outputs s) :
    Inv (events ++ [.tryPopHash]) (outputs ++ [(machine.step s .tryPopHash).1])
      (machine.step s .tryPopHash).2 := by
  have horder : startOrder (events ++ [.tryPopHash]) = startOrder events := by simp [extendOrder]
  have hrecorded : lastRecorded (events ++ [.tryPopHash]) = lastRecorded events := by simp [record]
  have hkeep : Inv (events ++ [.tryPopHash]) (outputs ++ [.popped (.error .noHashFound)]) s :=
    hinv.congr horder hrecorded (by simp)
  simp only [machine, BlockSignatureAggregator.tryPopHash]
  split
  · exact hkeep
  next hash rest hq =>
  split
  · -- the front is released: it moves from the queue to the released hashes
    next signature hsig =>
    refine ⟨?_, ?_, ?_, fun hash' signature' h => ?_⟩
    · simpa [horder] using hinv.started
    · simp [horder, ← hinv.queue, hq]
    · simpa [horder] using hinv.nodup
    · simp only [Function.update_apply] at h
      split_ifs at h
      rw [hrecorded]
      exact hinv.signatures hash' signature' h
  · -- the hash pushed back leaves the aggregator as it was
    have hs : { s with hashQueue := hash :: rest } = s := by rw [← hq]
    simpa only [hs] using hkeep

theorem Inv.step (hinv : Inv events outputs s) (e : Event H PMS) :
    Inv (events ++ [e]) (outputs ++ [(machine.step s e).1]) (machine.step s e).2 := by
  cases e with
  | onStart hash => exact hinv.onStart hash
  | onMultisignedHash hash signature => exact hinv.onMultisignedHash hash signature
  | tryPopHash => exact hinv.tryPopHash

end Step

theorem inv_run (events : List (Event H PMS)) :
    Inv events (machine.run events).1 (machine.run events).2 := by
  apply machine.run_induction Inv
  · refine ⟨?_, ?_, ?_, ?_⟩ <;> simp [startOrder, lastRecorded, released, machine,
      BlockSignatureAggregator.new]
  · intro events outputs s e hinv
    exact hinv.step e

/-- Over every interleaving of the calls: the released hashes are a prefix of
the distinct started hashes in the order of their first start, so none is
released twice; a repeated `on_start` answers `DuplicateHash` and changes
nothing; a pop releases a started hash not released before, with the
multisignature last recorded for it; and a pop fails, leaving the aggregator
as it was, exactly when the queue is empty or its front has no
multisignature. -/
theorem blockSignatureAggregator_releases_in_start_order (events : List (Event H PMS)) :
    let s := (machine.run events).2
    let hashes := (released (machine.run events).1).map Prod.fst
    (hashes <+: startOrder events ∧ hashes.Nodup) ∧
    (∀ hash, (machine.step s (.onStart hash)).1 = .started (.error .duplicateHash) ↔
      hash ∈ startOrder events) ∧
    (∀ hash, hash ∈ startOrder events → (machine.step s (.onStart hash)).2 = s) ∧
    (∀ hash signature, (machine.step s .tryPopHash).1 = .popped (.ok (hash, signature)) →
      lastRecorded events hash = some signature ∧ hash ∈ startOrder events ∧ hash ∉ hashes) ∧
    ((∃ e, (machine.step s .tryPopHash).1 = .popped (.error e)) ↔
      s.hashQueue = [] ∨ ∃ hash rest, s.hashQueue = hash :: rest ∧ s.signatures hash = none) ∧
    (∀ e, (machine.step s .tryPopHash).1 = .popped (.error e) → (machine.step s .tryPopHash).2 = s) := by
  intro s hashes
  have hinv := inv_run events
  have hpre : hashes <+: startOrder events := ⟨s.hashQueue, hinv.queue⟩
  have hnodup : hashes.Nodup := hinv.nodup.sublist hpre.sublist
  refine ⟨⟨hpre, hnodup⟩, fun hash => ?_, fun hash hmem => ?_, fun hash signature hpop => ?_, ?_, ?_⟩
  · simp only [machine, Output.started.injEq]
    rw [BlockSignatureAggregator.onStart_eq_error_iff, hinv.started]
  · simp only [machine]
    rw [BlockSignatureAggregator.onStart_of_mem s ((hinv.started hash).mpr hmem)]
  · simp only [machine, Output.popped.injEq] at hpop
    obtain ⟨rest, hq, hsig⟩ := BlockSignatureAggregator.tryPopHash_eq_ok s hpop
    have horder : startOrder events = hashes ++ hash :: rest := by rw [← hinv.queue, hq]
    refine ⟨hinv.signatures hash signature hsig, by simp [horder], fun hmem => ?_⟩
    have hnd := hinv.nodup
    rw [horder, List.nodup_append] at hnd
    exact hnd.2.2 hash hmem hash List.mem_cons_self rfl
  · simp only [machine, Output.popped.injEq]
    exact BlockSignatureAggregator.tryPopHash_eq_error_iff s
  · intro e he
    simp only [machine, Output.popped.injEq] at he ⊢
    exact BlockSignatureAggregator.tryPopHash_of_error s he

end Setheum.Aggregator
