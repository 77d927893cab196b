import Mathlib

/-!
# Bounded vectors

A list whose length stays within a bound fixed by its type, as FRAME's
`BoundedVec`. An update that would take it past the bound (`try_mutate`)
fails and leaves it as it was; one that only drops or shrinks elements
cannot fail. `retain` keeps the elements that pass a test, in order;
`try_insert` puts one in at an index unless the vector is full.
-/

/-- A list of at most `bound` elements. -/
def BoundedVec (α : Type*) (bound : Nat) := { l : List α // l.length ≤ bound }

namespace BoundedVec

variable {α : Type*} {bound : Nat}

instance [DecidableEq α] : DecidableEq (BoundedVec α bound) :=
  inferInstanceAs (DecidableEq { l : List α // l.length ≤ bound })

/-- The empty vector, `Default::default()`. -/
def empty : BoundedVec α bound := ⟨[], Nat.zero_le _⟩

/-- `try_mutate`: the elements `f` makes of these, unless there are more than the bound. -/
def tryMutate (v : BoundedVec α bound) (f : List α → List α) : Option (BoundedVec α bound) :=
  if h : (f v.1).length ≤ bound then some ⟨f v.1, h⟩ else none

/-- `retain`: the elements that pass `p`, in order. -/
def retain (v : BoundedVec α bound) (p : α → Bool) : BoundedVec α bound :=
  ⟨v.1.filter p, Nat.le_trans (List.length_filter_le p v.1) v.2⟩

/-- Writing the element at index `i`, as `v[i] = f(v[i])`. -/
def modify (v : BoundedVec α bound) (i : Nat) (f : α → α) : BoundedVec α bound :=
  ⟨v.1.modify i f, by rw [List.length_modify]; exact v.2⟩

/-- `try_insert`: the element at index `i`, unless the vector is full. -/
def tryInsert (v : BoundedVec α bound) (i : Nat) (a : α) : Option (BoundedVec α bound) :=
  if h : v.1.length < bound then
    some ⟨v.1.insertIdx i a, Nat.le_trans List.length_insertIdx_le_succ h⟩
  else none

/-- `remove`: the element at index `i` taken out. -/
def remove (v : BoundedVec α bound) (i : Nat) : BoundedVec α bound :=
  ⟨v.1.eraseIdx i, Nat.le_trans (List.length_eraseIdx_le _ _) v.2⟩

@[simp] theorem val_empty : (empty : BoundedVec α bound).1 = [] := rfl

@[simp] theorem val_modify (v : BoundedVec α bound) (i : Nat) (f : α → α) :
    (v.modify i f).1 = v.1.modify i f := rfl

@[simp] theorem val_remove (v : BoundedVec α bound) (i : Nat) : (v.remove i).1 = v.1.eraseIdx i := rfl

theorem tryInsert_eq_some {v w : BoundedVec α bound} {i : Nat} {a : α} :
    v.tryInsert i a = some w ↔ v.1.length < bound ∧ w.1 = v.1.insertIdx i a := by
  unfold tryInsert
  constructor
  · intro h
    split at h
    · cases h
      exact ⟨‹_›, rfl⟩
    · cases h
  · rintro ⟨hlen, hw⟩
    rw [dif_pos hlen]
    exact congrArg some (Subtype.ext hw.symm)

theorem tryInsert_eq_none {v : BoundedVec α bound} {i : Nat} {a : α} :
    v.tryInsert i a = none ↔ bound ≤ v.1.length := by
  unfold tryInsert
  split_ifs with h <;> simp only [true_iff, false_iff, Nat.not_le, h]
  omega

@[simp] theorem val_retain (v : BoundedVec α bound) (p : α → Bool) : (v.retain p).1 = v.1.filter p := rfl

theorem tryMutate_eq_some {v w : BoundedVec α bound} {f : List α → List α} :
    v.tryMutate f = some w ↔ w.1 = f v.1 := by
  unfold tryMutate
  constructor
  · intro h
    split at h
    · cases h
      rfl
    · cases h
  · intro h
    rw [dif_pos (h ▸ w.2)]
    exact congrArg some (Subtype.ext h.symm)

theorem tryMutate_isSome_of_length_le {v : BoundedVec α bound} {f : List α → List α}
    (h : (f v.1).length ≤ v.1.length) : (v.tryMutate f).isSome := by
  unfold tryMutate
  rw [dif_pos (Nat.le_trans h v.2)]
  rfl

@[simp] theorem val_tryMutate_get {v : BoundedVec α bound} {f : List α → List α} (h : (v.tryMutate f).isSome) :
    ((v.tryMutate f).get h).1 = f v.1 :=
  tryMutate_eq_some.mp (Option.some_get h).symm

end BoundedVec
