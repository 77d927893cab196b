import Setheum.Lib.Result
import Setheum.Lib.System
import Setheum.Lib.OrderStatistic

/-!
# The oracle

`module_oracle` keeps the raw value each operator last fed for each key, and
the combined value. An operator is a member of `Members`, or root, whose feeds
are recorded under `RootOperatorAccountId`. Each feed stores the raw value and
recombines the key: `read_raw_values` lists the members' raw values, in the
members' order, then the root operator's, and `DefaultCombineData` keeps the
unexpired ones and takes the one at the middle of their order by value, or
keeps the previous value when too few are left. `HasDispatched` lets an
operator feed once per block.

`select_nth_unstable_by` is modelled by a stable sort: among raw values equal
to the middle one it may return another, with the same value and possibly
another timestamp. The membership pallet is part of the state: its sorted
members, without repetition, and its change of members, which clears the raw
values of the outgoing ones.
-/

namespace Setheum.Oracle

open Result Transition

/-- `TimestampedValue`. -/
structure TimestampedValue (Value : Type) where
  value : Value
  timestamp : Nat
  deriving DecidableEq, Repr

inductive Error where
  | noPermission
  | alreadyFeeded
  deriving DecidableEq, Repr

inductive DispatchError where
  | module (e : Error)
  /-- More values than `MaxFeedValues`: the call does not decode. -/
  | undecodable
  deriving DecidableEq, Repr

/-- The origins `feed_values` accepts. -/
inductive Origin (AccountId : Type) where
  | signed (who : AccountId)
  | root
  deriving DecidableEq, Repr

/-- `Config` of the pallet; `DefaultCombineData` with its `MinimumCount` and
`ExpiresIn`. -/
structure Config (AccountId : Type) where
  rootOperatorAccountId : AccountId
  minimumCount : Nat
  expiresIn : Nat
  maxHasDispatchedSize : Nat
  maxFeedValues : Nat

/-- The storage, the members of the membership pallet, and `Time::now`. -/
structure State (AccountId Key Value : Type) where
  rawValues : AccountId → Key → Option (TimestampedValue Value)
  values : Key → Option (TimestampedValue Value)
  hasDispatched : List AccountId
  members : List AccountId
  members_nodup : members.Nodup
  now : Nat

variable {AccountId Key Value : Type} [DecidableEq Key]

namespace State

def setValue (s : State AccountId Key Value) (key : Key) (v : Option (TimestampedValue Value)) :
    State AccountId Key Value :=
  { s with values := Function.update s.values key v }

@[simp] theorem setValue_rawValues (s : State AccountId Key Value) (key v) :
    (s.setValue key v).rawValues = s.rawValues := rfl
@[simp] theorem setValue_values (s : State AccountId Key Value) (key v) :
    (s.setValue key v).values = Function.update s.values key v := rfl
@[simp] theorem setValue_hasDispatched (s : State AccountId Key Value) (key v) :
    (s.setValue key v).hasDispatched = s.hasDispatched := rfl
@[simp] theorem setValue_members (s : State AccountId Key Value) (key v) :
    (s.setValue key v).members = s.members := rfl
@[simp] theorem setValue_now (s : State AccountId Key Value) (key v) : (s.setValue key v).now = s.now := rfl

variable [DecidableEq AccountId]

def setRawValue (s : State AccountId Key Value) (who : AccountId) (key : Key)
    (v : Option (TimestampedValue Value)) : State AccountId Key Value :=
  { s with rawValues := fun w k => if w = who ∧ k = key then v else s.rawValues w k }

variable (s : State AccountId Key Value)

@[simp] theorem setRawValue_rawValues (who key v w k) :
    (s.setRawValue who key v).rawValues w k = if w = who ∧ k = key then v else s.rawValues w k := rfl
@[simp] theorem setRawValue_values (who key v) : (s.setRawValue who key v).values = s.values := rfl
@[simp] theorem setRawValue_hasDispatched (who key v) :
    (s.setRawValue who key v).hasDispatched = s.hasDispatched := rfl
@[simp] theorem setRawValue_members (who key v) : (s.setRawValue who key v).members = s.members := rfl
@[simp] theorem setRawValue_now (who key v) : (s.setRawValue who key v).now = s.now := rfl

end State

variable [DecidableEq AccountId] [LinearOrder Value] (T : Config AccountId)

/-- `DefaultCombineData::combine_data`: the raw values that have not expired;
the previous value when fewer than `MinimumCount` (or none) are left, else
the one at position `count / 2` by value. -/
def combineData (values : List (TimestampedValue Value)) (prevValue : Option (TimestampedValue Value))
    (now : Nat) : Option (TimestampedValue Value) :=
  let values := values.filter fun x => decide (now < min (x.timestamp + T.expiresIn) (2 ^ 64 - 1))
  let count := values.length
  if count < T.minimumCount ∨ count = 0 then prevValue
  else (OrderStatistic.sortBy TimestampedValue.value values)[count / 2]?

/-- `read_raw_values`: the sorted members, then the root operator. -/
def readRawValues (key : Key) (s : State AccountId Key Value) : List (TimestampedValue Value) :=
  (s.members ++ [T.rootOperatorAccountId]).filterMap fun x => s.rawValues x key

/-- `combined`. -/
def combined (key : Key) (s : State AccountId Key Value) : Option (TimestampedValue Value) :=
  combineData T (readRawValues T key s) (s.values key) s.now

/-- `ensure_account`: a signed feeder must be a member; root feeds as the
root operator. -/
def ensureAccount (s : State AccountId Key Value) : Origin AccountId → Except DispatchError AccountId
  | .signed who => do
      ensure (decide (who ∈ s.members)) (.module .noPermission)
      pure who
  | .root => pure T.rootOperatorAccountId

/-- `OrderedSet::insert` on the bounded `HasDispatched`: `false` when the
account is there already or the set is full. -/
def insertDispatched (set : List AccountId) (who : AccountId) : Bool × List AccountId :=
  if who ∈ set then (false, set)
  else if T.maxHasDispatchedSize ≤ set.length then (false, set)
  else (true, who :: set)

/-- One value of `do_feed_values`: the raw value is stored, and the combined
value with it if there is one. -/
def feedValue (who : AccountId) (s : State AccountId Key Value) (kv : Key × Value) :
    State AccountId Key Value :=
  let s := s.setRawValue who kv.1 (some ⟨kv.2, s.now⟩)
  match combined T kv.1 s with
  | some c => s.setValue kv.1 (some c)
  | none => s

/-- `do_feed_values`. -/
def doFeedValues (who : AccountId) (values : List (Key × Value)) (s : State AccountId Key Value) :
    State AccountId Key Value :=
  values.foldl (feedValue T who) s

/-- `feed_values`, by a signed member or root. -/
def feedValues (origin : Origin AccountId) (values : List (Key × Value))
    (s : State AccountId Key Value) : Except DispatchError (State AccountId Key Value) := do
  let who ← ensureAccount T s origin
  let (inserted, set) := insertDispatched T s.hasDispatched who
  ensure inserted (.module .alreadyFeeded)
  pure (doFeedValues T who values { s with hasDispatched := set })

/-- `change_members_sorted`, after the membership pallet stored the new
members: the raw values of the outgoing members are cleared. -/
def changeMembers (new : List AccountId) (hnew : new.Nodup) (s : State AccountId Key Value) :
    State AccountId Key Value :=
  let outgoing := s.members.filter fun x => x ∉ new
  { s with
    rawValues := fun w k => if w ∈ outgoing then none else s.rawValues w k
    members := new
    members_nodup := hnew }

/-- The pallet's call, `on_finalize`, the membership pallet's change of
members, and time passing. -/
inductive Call (AccountId Key Value : Type) where
  | feedValues (origin : Origin AccountId) (values : List (Key × Value))
  | onFinalize
  | changeMembers (new : List AccountId) (hnew : new.Nodup)
  | tick (d : Nat)

def dispatch (s : State AccountId Key Value) :
    Call AccountId Key Value → Except DispatchError (State AccountId Key Value)
  | .feedValues origin values =>
      -- a `BoundedVec` of at most `MaxFeedValues` entries
      if T.maxFeedValues < values.length then throw .undecodable
      else feedValues T origin values s
  | .onFinalize => pure { s with hasDispatched := [] }
  | .changeMembers new hnew => pure (changeMembers new hnew s)
  | .tick d => pure { s with now := s.now + d }

/-- The pallet from empty storage, with any members at any time. -/
def system : Transition.System (State AccountId Key Value) (Call AccountId Key Value) where
  init s := (∀ w k, s.rawValues w k = none) ∧ (∀ k, s.values k = none) ∧ s.hasDispatched = []
  step s call := (dispatch T s call).toOption

end Setheum.Oracle
