import Mathlib
import Setheum.Lib.Simulation

/-!
# `StorageVec`, a vector in contract storage

`StorageVec` of `crates/storage/src/lazy/vec.rs` over the cells of contract
storage it owns: the length cell (a `Lazy<u32>`, absent until first written)
and one cell per index (a `Mapping<u32, V>`). The cached length always equals
the stored one and is not modelled. Values have an encoded size, and an entry
fits the static buffer when the key of an index, 4 bytes, and the value do. A
panic (a failed assertion or `unwrap`) is `none`: the contract traps and its
storage writes are dropped.

The abstract model is a list of optional values, the vector the claim speaks
of. Every call refines it over any run from empty storage (`run_refines`), with
one exception: `try_push` writes the new length before it checks the value, so
a `try_push` that reports `BufferTooSmall` still leaves the vector one empty
slot longer (`tryPush_error_grows`).
-/

namespace Setheum.Storage

/-- `ink_env::Error::BufferTooSmall` and `ReturnErrorCode::KeyNotFound`. -/
inductive Error where
  | bufferTooSmall
  | keyNotFound
  deriving DecidableEq, Repr

/-- The storage a `StorageVec` owns: the `len` cell and the element cells. -/
structure StorageVec (V : Type) where
  storedLen : Option Nat
  elements : Nat → Option V

/-- What a call returns. -/
inductive Output (V : Type) where
  | done
  | value (value : Option V)
  | tryValue (value : Option (Except Error V))
  | previousSize (size : Option Nat)
  | tried (result : Except Error Unit)
  | triedSet (result : Except Error (Option Nat))

inductive Call (V : Type) where
  | push (value : V)
  | tryPush (value : V)
  | pop
  | tryPop
  | peek
  | tryPeek
  | get (index : Nat)
  | tryGet (index : Nat)
  | set (index : Nat) (value : V)
  | trySet (index : Nat) (value : V)
  | clear
  | clearAt (index : Nat)

/-- The encoded size of a `u32` index. -/
def keySize : Nat := 4

namespace StorageVec

variable {V : Type} (encodedSize : V → Nat) (bufferSize : Nat)

/-- An entry of this value fits the static buffer. -/
def Fits (value : V) : Prop := keySize + encodedSize value ≤ bufferSize

instance : DecidablePred (Fits encodedSize bufferSize) := fun _ => inferInstanceAs (Decidable (_ ≤ _))

def new : StorageVec V := ⟨none, fun _ => none⟩

variable (self : StorageVec V)

/-! ## The mapping's cells -/

/-- `Mapping::insert`: the size of the value it replaces. -/
def insert (key : Nat) (value : V) : Option Nat × StorageVec V :=
  ((self.elements key).map encodedSize, { self with elements := Function.update self.elements key (some value) })

def tryInsert (key : Nat) (value : V) : Except Error (Option Nat × StorageVec V) :=
  if keySize > bufferSize then .error .bufferTooSmall
  else if keySize + encodedSize value > bufferSize then .error .bufferTooSmall
  else .ok (self.insert encodedSize key value)

def remove (key : Nat) : StorageVec V := { self with elements := Function.update self.elements key none }

def take (key : Nat) : Option V × StorageVec V := (self.elements key, self.remove key)

/-- `Mapping::try_get`, and `try_take` when `take` is set. -/
def tryRead (take : Bool) (key : Nat) : Option (Except Error V) × StorageVec V :=
  if keySize > bufferSize then (some (.error .bufferTooSmall), self)
  else
    match self.elements key with
    | none => (none, self)
    | some value =>
        if keySize + encodedSize value > bufferSize then (some (.error .bufferTooSmall), self)
        else (some (.ok value), if take then self.remove key else self)

/-! ## The vector -/

def len : Nat := self.storedLen.getD 0

def setLen (newLen : Nat) : StorageVec V := { self with storedLen := some newLen }

def isEmpty : Bool := self.len = 0

def push (value : V) : Option (StorageVec V) :=
  let slot := self.len
  if slot + 1 < 2 ^ 32 then
    let (previous, self) := (self.setLen (slot + 1)).insert encodedSize slot value
    if previous.isNone then some self else none
  else none

def tryPush (value : V) : Option (Except Error Unit × StorageVec V) :=
  let slot := self.len
  if slot + 1 < 2 ^ 32 then
    let self := self.setLen (slot + 1)
    match self.tryInsert encodedSize bufferSize slot value with
    | .error error => some (.error error, self)
    | .ok (previous, self) => if previous.isNone then some (.ok (), self) else none
  else none

def pop : Option V × StorageVec V :=
  if self.isEmpty then (none, self)
  else
    let slot := self.len - 1
    (self.setLen slot).take slot

def tryPop : Option (Except Error V) × StorageVec V :=
  if self.isEmpty then (none, self)
  else
    let slot := self.len - 1
    (self.setLen slot).tryRead encodedSize bufferSize true slot

def peek : Option V := if self.isEmpty then none else self.elements (self.len - 1)

def tryPeek : Option (Except Error V) :=
  if self.isEmpty then none else (self.tryRead encodedSize bufferSize false (self.len - 1)).1

def get (index : Nat) : Option V := self.elements index

def tryGet (index : Nat) : Option (Except Error V) := (self.tryRead encodedSize bufferSize false index).1

def set (index : Nat) (value : V) : Option (Option Nat × StorageVec V) :=
  if index < self.len then some (self.insert encodedSize index value) else none

def trySet (index : Nat) (value : V) : Except Error (Option Nat × StorageVec V) :=
  if index ≥ self.len then .error .keyNotFound else self.tryInsert encodedSize bufferSize index value

def clear : StorageVec V :=
  ((List.range self.len).foldl (fun self i => self.remove i) self).setLen 0

def clearAt (index : Nat) : Option (StorageVec V) :=
  if index < self.len then some (self.remove index) else none

/-- A call, with what it returns and the storage it leaves, or `none` on a panic. -/
def step : Call V → Option (Output V × StorageVec V)
  | .push value => (self.push encodedSize value).map fun self => (.done, self)
  | .tryPush value => (self.tryPush encodedSize bufferSize value).map fun (result, self) => (.tried result, self)
  | .pop => let (value, self) := self.pop; some (.value value, self)
  | .tryPop => let (value, self) := self.tryPop encodedSize bufferSize; some (.tryValue value, self)
  | .peek => some (.value self.peek, self)
  | .tryPeek => some (.tryValue (self.tryPeek encodedSize bufferSize), self)
  | .get index => some (.value (self.get index), self)
  | .tryGet index => some (.tryValue (self.tryGet encodedSize bufferSize index), self)
  | .set index value => (self.set encodedSize index value).map fun (size, self) => (.previousSize size, self)
  | .trySet index value =>
      match self.trySet encodedSize bufferSize index value with
      | .error error => some (.triedSet (.error error), self)
      | .ok (size, self) => some (.triedSet (.ok size), self)
  | .clear => some (.done, self.clear)
  | .clearAt index => (self.clearAt index).map fun self => (.done, self)

/-- A sequence of calls, with what each returns, or `none` on the first panic. -/
def run (calls : List (Call V)) : Option (List (Output V) × StorageVec V) :=
  Simulation.run (step encodedSize bufferSize) self calls

end StorageVec

/-! ## The vector it stands for -/

namespace VecModel

variable {V : Type} (encodedSize : V → Nat) (bufferSize : Nat)

/-- The vector the claim speaks of, a list of optional values: a call that
reports an error leaves it as it was. -/
def step (vector : List (Option V)) : Call V → Option (Output V × List (Option V))
  | .push value => if vector.length + 1 < 2 ^ 32 then some (.done, vector ++ [some value]) else none
  | .tryPush value =>
      if vector.length + 1 < 2 ^ 32 then
        if StorageVec.Fits encodedSize bufferSize value then some (.tried (.ok ()), vector ++ [some value])
        else some (.tried (.error .bufferTooSmall), vector)
      else none
  | .pop => some (.value vector.getLast?.join, vector.dropLast)
  | .tryPop => some (.tryValue (vector.getLast?.join.map .ok), vector.dropLast)
  | .peek => some (.value vector.getLast?.join, vector)
  | .tryPeek => some (.tryValue (vector.getLast?.join.map .ok), vector)
  | .get index => some (.value vector[index]?.join, vector)
  | .tryGet index => some (.tryValue (vector[index]?.join.map .ok), vector)
  | .set index value =>
      if index < vector.length then
        some (.previousSize (vector[index]?.join.map encodedSize), vector.set index (some value))
      else none
  | .trySet index value =>
      if index < vector.length then
        if StorageVec.Fits encodedSize bufferSize value then
          some (.triedSet (.ok (vector[index]?.join.map encodedSize)), vector.set index (some value))
        else some (.triedSet (.error .bufferTooSmall), vector)
      else some (.triedSet (.error .keyNotFound), vector)
  | .clear => some (.done, [])
  | .clearAt index => if index < vector.length then some (.done, vector.set index none) else none

def run (vector : List (Option V)) (calls : List (Call V)) : Option (List (Output V) × List (Option V)) :=
  Simulation.run (step encodedSize bufferSize) vector calls

end VecModel

namespace StorageVec

variable {V : Type} {encodedSize : V → Nat} {bufferSize : Nat}

/-- The vector the storage stands for: the cells below the stored length. -/
def toModel (self : StorageVec V) : List (Option V) := (List.range self.len).map self.elements

/-- No cell at or above the length is written, every written value fits the
buffer, and the length is a `u32`. -/
structure Inv (encodedSize : V → Nat) (bufferSize : Nat) (vec : StorageVec V) : Prop where
  above_len : ∀ i, vec.len ≤ i → vec.elements i = none
  fits : ∀ i value, vec.elements i = some value → Fits encodedSize bufferSize value
  len_lt : vec.len < 2 ^ 32

/-- The calls whose values fit the buffer, except the `try_` calls that may
report that they do not. -/
def Admissible (encodedSize : V → Nat) (bufferSize : Nat) : Call V → Prop
  | .push value => Fits encodedSize bufferSize value
  | .tryPush value => Fits encodedSize bufferSize value
  | .set _ value => Fits encodedSize bufferSize value
  | _ => True

/-! ### The cells and the list -/

section Cells

variable (self : StorageVec V)

@[simp] theorem len_setLen (n : Nat) : (self.setLen n).len = n := rfl

@[simp] theorem elements_setLen (n : Nat) : (self.setLen n).elements = self.elements := rfl

@[simp] theorem len_insert (key : Nat) (value : V) : (self.insert encodedSize key value).2.len = self.len := rfl

@[simp] theorem elements_insert (key : Nat) (value : V) :
    (self.insert encodedSize key value).2.elements = Function.update self.elements key (some value) := rfl

@[simp] theorem len_remove (key : Nat) : (self.remove key).len = self.len := rfl

@[simp] theorem elements_remove (key : Nat) :
    (self.remove key).elements = Function.update self.elements key none := rfl

@[simp] theorem length_toModel : self.toModel.length = self.len := by simp [toModel]

theorem getElem?_toModel (i : Nat) :
    self.toModel[i]? = if i < self.len then some (self.elements i) else none := by
  by_cases hi : i < self.len <;> simp [toModel, hi]

@[simp] theorem getElem_toModel (i : Nat) (hi : i < self.toModel.length) : self.toModel[i] = self.elements i := by
  simp [toModel]

variable {self} {other : StorageVec V} {x : Option V}

theorem toModel_update {i : Nat} (hi : i < self.len) (hlen : other.len = self.len)
    (helements : other.elements = Function.update self.elements i x) :
    other.toModel = self.toModel.set i x := by
  refine List.ext_getElem? fun j => ?_
  rw [getElem?_toModel, List.getElem?_set, getElem?_toModel, hlen, helements, length_toModel]
  by_cases hj : j = i
  · subst hj
    simp [hi]
  · simp [Function.update_of_ne hj, Ne.symm hj]

theorem toModel_grow (hlen : other.len = self.len + 1)
    (helements : other.elements = Function.update self.elements self.len x) :
    other.toModel = self.toModel ++ [x] := by
  simp only [toModel, hlen, helements, List.range_succ, List.map_append, List.map_cons, List.map_nil,
    Function.update_self]
  congr 1
  exact List.map_congr_left fun i hi => Function.update_of_ne (Nat.ne_of_lt (List.mem_range.mp hi)) _ _

theorem toModel_push (x : Option V) :
    (⟨some (self.len + 1), Function.update self.elements self.len x⟩ : StorageVec V).toModel = self.toModel ++ [x] :=
  toModel_grow rfl rfl

theorem toModel_shrink (hpos : self.len ≠ 0) (hlen : other.len = self.len - 1)
    (helements : other.elements = Function.update self.elements (self.len - 1) none) :
    other.toModel = self.toModel.dropLast := by
  obtain ⟨n, hn⟩ := Nat.exists_eq_succ_of_ne_zero hpos
  simp only [toModel, hlen, helements, hn, Nat.succ_sub_one, List.range_succ, List.map_append,
    List.map_cons, List.map_nil, List.dropLast_concat]
  exact List.map_congr_left fun i hi => Function.update_of_ne (Nat.ne_of_lt (List.mem_range.mp hi)) _ _

theorem toModel_pop (hpos : self.len ≠ 0) :
    ((self.setLen (self.len - 1)).remove (self.len - 1)).toModel = self.toModel.dropLast :=
  toModel_shrink hpos rfl rfl

theorem Inv.getElem?_join (hinv : self.Inv encodedSize bufferSize) (i : Nat) :
    self.toModel[i]?.join = self.elements i := by
  rw [getElem?_toModel]
  split
  · rfl
  · exact (hinv.above_len i (by omega)).symm

theorem Inv.getLast?_join (hinv : self.Inv encodedSize bufferSize) :
    self.toModel.getLast?.join = if self.len = 0 then none else self.elements (self.len - 1) := by
  rw [List.getLast?_eq_getElem?, length_toModel]
  split
  · rename_i hzero
    simp [hzero]
  · exact hinv.getElem?_join _

end Cells


/-! ### The invariant across writes -/

section Writes

variable {self : StorageVec V} (hinv : self.Inv encodedSize bufferSize)
include hinv

theorem Inv.insert_below {i : Nat} {value : V} (hi : i < self.len) (hvalue : Fits encodedSize bufferSize value) :
    (self.insert encodedSize i value).2.Inv encodedSize bufferSize := by
  refine ⟨fun j hj => ?_, fun j v hj => ?_, hinv.len_lt⟩
  · rw [len_insert] at hj
    rw [elements_insert, Function.update_of_ne (by omega)]
    exact hinv.above_len j hj
  · rw [elements_insert] at hj
    by_cases hji : j = i
    · subst hji
      rw [Function.update_self, Option.some.injEq] at hj
      exact hj ▸ hvalue
    · rw [Function.update_of_ne hji] at hj
      exact hinv.fits j v hj

theorem Inv.grow (hroom : self.len + 1 < 2 ^ 32) (x : Option V)
    (hx : ∀ value, x = some value → Fits encodedSize bufferSize value) :
    (⟨some (self.len + 1), Function.update self.elements self.len x⟩ : StorageVec V).Inv encodedSize bufferSize := by
  refine ⟨fun j hj => ?_, fun j v hj => ?_, hroom⟩
  · change self.len + 1 ≤ j at hj
    simp only [Function.update_of_ne (show j ≠ self.len by omega)]
    exact hinv.above_len j (by omega)
  · by_cases hj' : j = self.len
    · subst hj'
      simp only [Function.update_self] at hj
      exact hx v hj
    · simp only [Function.update_of_ne hj'] at hj
      exact hinv.fits j v hj

theorem Inv.shrink :
    ((self.setLen (self.len - 1)).remove (self.len - 1)).Inv encodedSize bufferSize := by
  refine ⟨fun j hj => ?_, fun j v hj => ?_, by simp only [len_remove, len_setLen]; have := hinv.len_lt; omega⟩
  · simp only [len_remove, len_setLen] at hj
    simp only [elements_remove, elements_setLen]
    by_cases hj' : j = self.len - 1
    · subst hj'
      exact Function.update_self ..
    · rw [Function.update_of_ne hj']
      exact hinv.above_len j (by omega)
  · simp only [elements_remove, elements_setLen] at hj
    by_cases hj' : j = self.len - 1
    · subst hj'
      simp at hj
    · rw [Function.update_of_ne hj'] at hj
      exact hinv.fits j v hj

theorem Inv.remove {i : Nat} : (self.remove i).Inv encodedSize bufferSize := by
  refine ⟨fun j hj => ?_, fun j v hj => ?_, hinv.len_lt⟩
  · rw [len_remove] at hj
    by_cases hji : j = i
    · subst hji
      exact Function.update_self ..
    · rw [elements_remove, Function.update_of_ne hji]
      exact hinv.above_len j hj
  · rw [elements_remove] at hj
    by_cases hji : j = i
    · subst hji
      simp at hj
    · rw [Function.update_of_ne hji] at hj
      exact hinv.fits j v hj

end Writes

theorem elements_foldl_remove (self : StorageVec V) (n : Nat) :
    ((List.range n).foldl (fun self i => self.remove i) self).elements =
      fun j => if j < n then none else self.elements j := by
  induction n with
  | zero => simp
  | succ n ih =>
      rw [List.range_succ, List.foldl_append, List.foldl_cons, List.foldl_nil, elements_remove, ih]
      funext j
      by_cases hj : j = n
      · subst hj
        simp
      · rw [Function.update_of_ne hj]
        by_cases hjn : j < n
        · simp [hjn, show j < n + 1 by omega]
        · simp [hjn, show ¬j < n + 1 by omega]

/-! ### Each call refines the vector -/

/-- A call does to the storage what it does to the vector it stands for, and
keeps the invariant. -/
def Refines (encodedSize : V → Nat) (bufferSize : Nat) (self : StorageVec V) (call : Call V) : Prop :=
  Simulation.StepRefines (step encodedSize bufferSize) (VecModel.step encodedSize bufferSize) toModel
    (Inv encodedSize bufferSize) self call

section Calls

variable {self : StorageVec V} (hinv : self.Inv encodedSize bufferSize)
include hinv

theorem refines_of_read {call : Call V} (output : Output V)
    (hstep : self.step encodedSize bufferSize call = some (output, self))
    (hmodel : VecModel.step encodedSize bufferSize self.toModel call = some (output, self.toModel)) :
    Refines encodedSize bufferSize self call := by
  refine ⟨by rw [hstep, hmodel]; rfl, fun o other h => ?_⟩
  rw [hstep, Option.some.injEq, Prod.mk.injEq] at h
  exact h.2 ▸ hinv

theorem refines_push {value : V} (hvalue : Fits encodedSize bufferSize value) :
    Refines encodedSize bufferSize self (.push value) := by
  have hfree : self.elements self.len = none := hinv.above_len _ (Nat.le_refl _)
  -- the bound as `simp` leaves it, with the power evaluated
  by_cases hroom : self.len + 1 < 4294967296
  · have hstep : self.step encodedSize bufferSize (.push value) =
        some (.done, ⟨some (self.len + 1), Function.update self.elements self.len (some value)⟩) := by
      simp [step, push, hroom, insert, setLen, hfree]
    refine ⟨?_, fun o other h => ?_⟩
    · simp only [hstep, Option.map_some]
      rw [toModel_push]
      simp [VecModel.step, hroom]
    · rw [hstep, Option.some.injEq, Prod.mk.injEq] at h
      rw [← h.2]
      exact hinv.grow hroom _ fun v hv => (Option.some.inj hv) ▸ hvalue
  · refine ⟨by simp [step, push, hroom, VecModel.step], fun o other h => ?_⟩
    simp [step, push, hroom] at h

theorem refines_tryPush (hkey : keySize ≤ bufferSize) {value : V} (hvalue : Fits encodedSize bufferSize value) :
    Refines encodedSize bufferSize self (.tryPush value) := by
  have hfree : self.elements self.len = none := hinv.above_len _ (Nat.le_refl _)
  have hfits : ¬keySize + encodedSize value > bufferSize := Nat.not_lt.mpr hvalue
  -- the bound as `simp` leaves it, with the power evaluated
  by_cases hroom : self.len + 1 < 4294967296
  · have hstep : self.step encodedSize bufferSize (.tryPush value) =
        some (.tried (.ok ()), ⟨some (self.len + 1), Function.update self.elements self.len (some value)⟩) := by
      simp [step, tryPush, hroom, tryInsert, Nat.not_lt.mpr hkey, hfits, insert, setLen, hfree]
    refine ⟨?_, fun o other h => ?_⟩
    · simp only [hstep, Option.map_some]
      rw [toModel_push]
      simp [VecModel.step, hroom, hvalue]
    · rw [hstep, Option.some.injEq, Prod.mk.injEq] at h
      rw [← h.2]
      exact hinv.grow hroom _ fun v hv => (Option.some.inj hv) ▸ hvalue
  · refine ⟨by simp [step, tryPush, hroom, VecModel.step], fun o other h => ?_⟩
    simp [step, tryPush, hroom] at h

theorem refines_pop : Refines encodedSize bufferSize self .pop := by
  by_cases hzero : self.len = 0
  · have hempty : self.toModel = [] := List.eq_nil_of_length_eq_zero (by simp [hzero])
    exact refines_of_read hinv (.value none) (by simp [step, pop, isEmpty, hzero])
      (by simp [VecModel.step, hempty])
  · have hstep : self.step encodedSize bufferSize .pop =
        some (.value (self.elements (self.len - 1)), (self.setLen (self.len - 1)).remove (self.len - 1)) := by
      simp [step, pop, isEmpty, hzero, take]
    refine ⟨?_, fun o other h => ?_⟩
    · simp only [hstep, Option.map_some]
      rw [toModel_pop hzero]
      simp [VecModel.step, hinv.getLast?_join, hzero]
    · rw [hstep, Option.some.injEq, Prod.mk.injEq] at h
      exact h.2 ▸ hinv.shrink

theorem refines_tryPop (hkey : keySize ≤ bufferSize) : Refines encodedSize bufferSize self .tryPop := by
  by_cases hzero : self.len = 0
  · have hempty : self.toModel = [] := List.eq_nil_of_length_eq_zero (by simp [hzero])
    exact refines_of_read hinv (.tryValue none) (by simp [step, tryPop, isEmpty, hzero])
      (by simp [VecModel.step, hempty])
  · -- the last cell is read and emptied, or found empty already
    have hshrink := toModel_pop hzero
    cases hlast : self.elements (self.len - 1) with
    | none =>
        have hsame : (self.setLen (self.len - 1)).remove (self.len - 1) = self.setLen (self.len - 1) := by
          simp only [remove, elements_setLen, ← hlast, Function.update_eq_self]
          rfl
        have hstep : self.step encodedSize bufferSize .tryPop = some (.tryValue none, self.setLen (self.len - 1)) := by
          simp [step, tryPop, isEmpty, hzero, tryRead, Nat.not_lt.mpr hkey, hlast]
        refine ⟨?_, fun o other h => ?_⟩
        · simp only [hstep, Option.map_some]
          rw [← hsame, hshrink]
          simp [VecModel.step, hinv.getLast?_join, hzero, hlast]
        · rw [hstep, Option.some.injEq, Prod.mk.injEq] at h
          rw [← h.2, ← hsame]
          exact hinv.shrink
    | some value =>
        have hfits : ¬keySize + encodedSize value > bufferSize :=
          Nat.not_lt.mpr (hinv.fits _ _ hlast)
        have hstep : self.step encodedSize bufferSize .tryPop =
            some (.tryValue (some (.ok value)), (self.setLen (self.len - 1)).remove (self.len - 1)) := by
          simp [step, tryPop, isEmpty, hzero, tryRead, Nat.not_lt.mpr hkey, hlast, hfits]
        refine ⟨?_, fun o other h => ?_⟩
        · simp only [hstep, Option.map_some]
          rw [hshrink]
          simp [VecModel.step, hinv.getLast?_join, hzero, hlast]
        · rw [hstep, Option.some.injEq, Prod.mk.injEq] at h
          exact h.2 ▸ hinv.shrink

theorem tryRead_read (hkey : keySize ≤ bufferSize) (index : Nat) :
    (self.tryRead encodedSize bufferSize false index) = ((self.elements index).map .ok, self) := by
  unfold tryRead
  rw [if_neg (Nat.not_lt.mpr hkey)]
  cases hcell : self.elements index with
  | none => rfl
  | some value => simp [Nat.not_lt.mpr (hinv.fits _ _ hcell)]

theorem refines_peek : Refines encodedSize bufferSize self .peek :=
  refines_of_read hinv (.value self.peek) (by simp [step]) (by simp [VecModel.step, hinv.getLast?_join, peek, isEmpty])

theorem refines_tryPeek (hkey : keySize ≤ bufferSize) : Refines encodedSize bufferSize self .tryPeek := by
  refine refines_of_read hinv (.tryValue (self.tryPeek encodedSize bufferSize)) (by simp [step]) ?_
  by_cases hzero : self.len = 0
  · simp [VecModel.step, hinv.getLast?_join, tryPeek, isEmpty, hzero]
  · simp [VecModel.step, hinv.getLast?_join, tryPeek, isEmpty, hzero, tryRead_read hinv hkey]

theorem refines_get (index : Nat) : Refines encodedSize bufferSize self (.get index) :=
  refines_of_read hinv (.value (self.get index)) (by simp [step]) (by simp [VecModel.step, hinv.getElem?_join, get])

theorem refines_tryGet (hkey : keySize ≤ bufferSize) (index : Nat) : Refines encodedSize bufferSize self (.tryGet index) :=
  refines_of_read hinv (.tryValue (self.tryGet encodedSize bufferSize index)) (by simp [step])
    (by simp [VecModel.step, hinv.getElem?_join, tryGet, tryRead_read hinv hkey])

theorem refines_set {index : Nat} {value : V} (hvalue : Fits encodedSize bufferSize value) :
    Refines encodedSize bufferSize self (.set index value) := by
  by_cases hindex : index < self.len
  · have hstep : self.step encodedSize bufferSize (.set index value) =
        some (.previousSize ((self.elements index).map encodedSize), (self.insert encodedSize index value).2) := by
      simp [step, set, hindex, insert]
    refine ⟨?_, fun o other h => ?_⟩
    · simp only [hstep, Option.map_some]
      rw [toModel_update hindex (len_insert _ _ _) (elements_insert _ _ _)]
      simp [VecModel.step, hindex]
    · rw [hstep, Option.some.injEq, Prod.mk.injEq] at h
      exact h.2 ▸ hinv.insert_below hindex hvalue
  · refine ⟨by simp [step, set, hindex, VecModel.step], fun o other h => ?_⟩
    simp [step, set, hindex] at h

theorem refines_trySet (hkey : keySize ≤ bufferSize) (index : Nat) (value : V) : Refines encodedSize bufferSize self (.trySet index value) := by
  by_cases hindex : index < self.len
  · by_cases hvalue : Fits encodedSize bufferSize value
    · have hstep : self.step encodedSize bufferSize (.trySet index value) =
          some (.triedSet (.ok ((self.elements index).map encodedSize)), (self.insert encodedSize index value).2) := by
        simp [step, trySet, Nat.not_le.mpr hindex, tryInsert, Nat.not_lt.mpr hkey, Nat.not_lt.mpr hvalue, insert]
      refine ⟨?_, fun o other h => ?_⟩
      · simp only [hstep, Option.map_some]
        rw [toModel_update hindex (len_insert _ _ _) (elements_insert _ _ _)]
        simp [VecModel.step, hindex, hvalue]
      · rw [hstep, Option.some.injEq, Prod.mk.injEq] at h
        exact h.2 ▸ hinv.insert_below hindex hvalue
    · have hbig : keySize + encodedSize value > bufferSize := Nat.lt_of_not_le hvalue
      exact refines_of_read hinv (.triedSet (.error .bufferTooSmall))
        (by simp [step, trySet, Nat.not_le.mpr hindex, tryInsert, Nat.not_lt.mpr hkey, hbig])
        (by simp [VecModel.step, hindex, hvalue])
  · exact refines_of_read hinv (.triedSet (.error .keyNotFound)) (by simp [step, trySet, Nat.le_of_not_lt hindex])
      (by simp [VecModel.step, hindex])

theorem refines_clear : Refines encodedSize bufferSize self .clear := by
  have hempty : self.clear.toModel = [] := by simp [toModel, clear]
  refine ⟨by simp [step, hempty, VecModel.step], fun o other h => ?_⟩
  simp only [step, Option.some.injEq, Prod.mk.injEq] at h
  rw [← h.2]
  refine ⟨fun j _ => ?_, fun j v hj => ?_, by simp [clear]⟩
  · simp only [clear, elements_setLen, elements_foldl_remove]
    split
    · rfl
    · exact hinv.above_len j (by omega)
  · simp only [clear, elements_setLen, elements_foldl_remove] at hj
    split at hj
    · cases hj
    · exact hinv.fits j v hj

theorem refines_clearAt (index : Nat) : Refines encodedSize bufferSize self (.clearAt index) := by
  by_cases hindex : index < self.len
  · have hstep : self.step encodedSize bufferSize (.clearAt index) = some (.done, self.remove index) := by
      simp [step, clearAt, hindex]
    refine ⟨?_, fun o other h => ?_⟩
    · simp only [hstep, Option.map_some]
      rw [toModel_update hindex (len_remove _ _) (elements_remove _ _)]
      simp [VecModel.step, hindex]
    · rw [hstep, Option.some.injEq, Prod.mk.injEq] at h
      exact h.2 ▸ hinv.remove
  · refine ⟨by simp [step, clearAt, hindex, VecModel.step], fun o other h => ?_⟩
    simp [step, clearAt, hindex] at h

theorem step_refines (hkey : keySize ≤ bufferSize) {call : Call V} (hcall : Admissible encodedSize bufferSize call) :
    Refines encodedSize bufferSize self call := by
  cases call with
  | push value => exact refines_push hinv hcall
  | tryPush value => exact refines_tryPush hinv hkey hcall
  | pop => exact refines_pop hinv
  | tryPop => exact refines_tryPop hinv hkey
  | peek => exact refines_peek hinv
  | tryPeek => exact refines_tryPeek hinv hkey
  | get index => exact refines_get hinv index
  | tryGet index => exact refines_tryGet hinv hkey index
  | set index value => exact refines_set hinv hcall
  | trySet index value => exact refines_trySet hinv hkey index value
  | clear => exact refines_clear hinv
  | clearAt index => exact refines_clearAt hinv index

end Calls

/-! ### Runs from empty storage -/

theorem new_inv : (new : StorageVec V).Inv encodedSize bufferSize := by
  refine ⟨fun _ _ => rfl, fun _ _ h => ?_, Nat.two_pow_pos 32⟩
  cases h

@[simp] theorem toModel_new : (new : StorageVec V).toModel = [] := rfl

/-- From empty storage, every sequence of admissible calls answers as the same
calls on the empty vector do, and leaves storage in the invariant: no cell at
or above the length is written, so no later push finds its cell taken. -/
theorem run_refines_model (hkey : keySize ≤ bufferSize) (calls : List (Call V))
    (hcalls : ∀ call ∈ calls, Admissible encodedSize bufferSize call) :
    ((new : StorageVec V).run encodedSize bufferSize calls).map (fun result => (result.1, result.2.toModel)) =
        VecModel.run encodedSize bufferSize [] calls ∧
      ∀ outputs other, (new : StorageVec V).run encodedSize bufferSize calls = some (outputs, other) →
        other.Inv encodedSize bufferSize := by
  have hstep : ∀ self call, self.Inv encodedSize bufferSize → Admissible encodedSize bufferSize call →
      Refines encodedSize bufferSize self call := fun _ _ hinv hcall => step_refines hinv hkey hcall
  exact ⟨Simulation.run_refines _ _ _ hstep calls new new_inv hcalls,
    fun _ _ hrun => Simulation.run_invariant _ _ _ hstep calls new new_inv hcalls hrun⟩

/-- Two pushes, a pop and a write on an empty vector of numbers, each encoded
in as many bytes as its value, with a 16-byte buffer: the storage answers as
the vector `[some 7]` does. -/
theorem run_refines_model_pushes :
    ((new : StorageVec Nat).run id 16 [.push 3, .push 5, .pop, .set 0 7]).map
        (fun result => (result.1, result.2.toModel)) =
      VecModel.run id 16 [] [.push 3, .push 5, .pop, .set 0 7] ∧
    VecModel.run id 16 [] [.push 3, .push 5, .pop, .set 0 7] =
      some ([.done, .done, .value (some 5), .previousSize (some 3)], [some 7]) :=
  ⟨(@run_refines_model Nat id 16 (by decide) _ (by simp [Admissible, Fits, keySize])).1, rfl⟩

/-! ### `try_push` of a value that does not fit -/

/-- `try_push` writes the new length before `try_insert` checks the value: a
value too big for the buffer is reported as `BufferTooSmall`, as the vector
reports it, but the storage is left one empty slot longer while the vector is
left as it was. The invariant still holds, so later pushes do not panic. -/
theorem tryPush_error_grows {self : StorageVec V} (hinv : self.Inv encodedSize bufferSize) {value : V}
    (hvalue : ¬Fits encodedSize bufferSize value) (hroom : self.len + 1 < 2 ^ 32) :
    ∃ other, self.step encodedSize bufferSize (.tryPush value) = some (.tried (.error .bufferTooSmall), other) ∧
      other.toModel = self.toModel ++ [none] ∧ other.Inv encodedSize bufferSize ∧
      VecModel.step encodedSize bufferSize self.toModel (.tryPush value) =
        some (.tried (.error .bufferTooSmall), self.toModel) := by
  have hfree : self.elements self.len = none := hinv.above_len _ (Nat.le_refl _)
  have hgrown : self.setLen (self.len + 1) = ⟨some (self.len + 1), Function.update self.elements self.len none⟩ := by
    rw [← hfree, Function.update_eq_self]
    rfl
  have hbig : keySize + encodedSize value > bufferSize := Nat.lt_of_not_le hvalue
  have hroom' : self.len + 1 < 4294967296 := hroom
  refine ⟨self.setLen (self.len + 1), ?_, ?_, ?_, ?_⟩
  · by_cases hkey : keySize > bufferSize
    · simp [step, tryPush, hroom', tryInsert, hkey]
    · simp [step, tryPush, hroom', tryInsert, hkey, hbig]
  · rw [hgrown, toModel_push]
  · rw [hgrown]
    exact hinv.grow hroom none fun _ h => by cases h
  · simp [VecModel.step, hroom', hvalue]

/-- An empty vector of numbers, each encoded in as many bytes as its value, with
a 16-byte buffer: pushing 100 reports an error and still grows the vector. -/
theorem tryPush_error_grows_empty :
    ∃ other, (new : StorageVec Nat).step id 16 (.tryPush 100) = some (.tried (.error .bufferTooSmall), other) ∧
      other.toModel = [none] ∧ other.Inv id 16 ∧
      VecModel.step id 16 [] (.tryPush 100) = some (.tried (.error .bufferTooSmall), []) :=
  tryPush_error_grows new_inv (by decide) (by decide)

end StorageVec

end Setheum.Storage
