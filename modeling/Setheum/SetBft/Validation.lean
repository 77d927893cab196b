import Setheum.SetBft.Store
import Setheum.Lib.System

/-!
# Fork detection

`dag::validation::Validator` checks a unit, rejects duplicates of units held
by the consensus's store or still processing, and catches forks: a unit of a
coordinate that already has a canonical unit in either store makes its
creator a forker, and the two units are the proof of a `NewForker` alert.

The consensus passes its store to every call, and inserts a unit there before
the validator forgets it (`Consensus::on_unit_backup_saved`). Over every run
of that kind: `validate` accepts at most one unit per coordinate, marks each
forker once, and every proof it returns is two different units of one
coordinate, each signed by its creator.
-/

namespace Setheum.SetBft.Dag

open Result Transition UnitLike

variable {H D S : Type} [DecidableEq H]

section Validator

variable (V : UnitValidator H S) (hasher : Hasher H D)

inductive Error where
  | invalid (e : ValidationError H D S)
  | duplicate (u : SignedUnit V.keychain hasher)
  | uncommitted (u : SignedUnit V.keychain hasher)
  | newForker (alert : Alert H D S)

structure Validator where
  processingUnits : UnitStore (SignedUnit V.keychain hasher) H
  knownForkers : Nat → Bool

abbrev Store := UnitStore (SignedUnit V.keychain hasher) H

abbrev Outcome := Except (Error V hasher) (SignedUnit V.keychain hasher)

namespace Validator

variable {V hasher}

def new : Validator V hasher := ⟨UnitStore.new, fun _ => false⟩

def isForker (v : Validator V hasher) (node : Nat) : Bool := v.knownForkers node

/-- `mark_forker`, with the units committed to: the forker's canonical units
in the store, then those still processing. Its assertion that the node is
not a forker yet holds wherever `validate` calls it. -/
def markForker (v : Validator V hasher) (forker : Nat) (store : Store V hasher) :
    Validator V hasher × List (UncheckedSignedUnit H D S) :=
  ({ v with knownForkers := Function.update v.knownForkers forker true },
    (store.canonicalUnits forker ++ v.processingUnits.canonicalUnits forker).map (·.unchecked))

def preValidate (v : Validator V hasher) (uu : UncheckedSignedUnit H D S) (store : Store V hasher) :
    Outcome V hasher := do
  let su ← (validateUnit V hasher uu).mapError .invalid
  if (store.unit (hash su)).isSome || (v.processingUnits.unit (hash su)).isSome then throw (.duplicate su)
  else pure su

def validate (v : Validator V hasher) (uu : UncheckedSignedUnit H D S) (store : Store V hasher) :
    Outcome V hasher × Validator V hasher :=
  match v.preValidate uu store with
  | .error e => (.error e, v)
  | .ok su =>
    if v.isForker (coord su).creator then (.error (.uncommitted su), v)
    else
      match (store.canonicalUnit (coord su)).or (v.processingUnits.canonicalUnit (coord su)) with
      | some canonical =>
        let marked := v.markForker (coord su).creator store
        (.error (.newForker ⟨V.keychain.index, (canonical.unchecked, su.unchecked), marked.2⟩), marked.1)
      | none => (.ok su, { v with processingUnits := v.processingUnits.insert su })

/-- `validate_committed`; `none` where its assertion that the creator is a
known forker fails. -/
def validateCommitted (v : Validator V hasher) (uu : UncheckedSignedUnit H D S) (store : Store V hasher) :
    Option (Outcome V hasher × Validator V hasher) :=
  match v.preValidate uu store with
  | .error e => some (.error e, v)
  | .ok su =>
    if v.isForker (coord su).creator then some (.ok su, { v with processingUnits := v.processingUnits.insert su })
    else none

def finishedProcessing (v : Validator V hasher) (h : H) : Validator V hasher :=
  { v with processingUnits := v.processingUnits.remove h }

end Validator

/-- The validator as the consensus drives it: the consensus's unit store and
the outcomes of `validate` so far. -/
structure State where
  validator : Validator V hasher
  store : Store V hasher
  results : List (Outcome V hasher)

inductive Call (H D S : Type) where
  | validate (uu : UncheckedSignedUnit H D S)
  | validateCommitted (uu : UncheckedSignedUnit H D S)
  /-- `finished_processing`, once the consensus has inserted the unit into
  its store. -/
  | finishedProcessing (h : H)

def step (s : State V hasher) : Call H D S → Option (State V hasher)
  | .validate uu =>
    let r := s.validator.validate uu s.store
    some { s with validator := r.2, results := s.results ++ [r.1] }
  | .validateCommitted uu => (s.validator.validateCommitted uu s.store).map fun r => { s with validator := r.2 }
  | .finishedProcessing h =>
    some
      { s with
        store := match s.validator.processingUnits.unit h with
          | some u => s.store.insert u
          | none => s.store
        validator := s.validator.finishedProcessing h }

def system : System (State V hasher) (Call H D S) where
  init s := s.validator = .new ∧ s.store = UnitStore.new ∧ s.results = []
  step := step V hasher

end Validator

end Setheum.SetBft.Dag
