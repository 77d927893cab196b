import Mathlib

/-!
# Lists sorted by a key

A list strictly increasing by a key, searched as Rust's `binary_search_by_key`
searches a sorted slice: `Ok` with the index of the element that has the key,
or `Err` with the index where one would be inserted. The search is written as
the scan that returns that index on a strictly sorted list, where the index is
unique. A search splits the list at its index; writing an element in place
without changing its key, inserting at the index of a failed search and
removing an element keep the list sorted.
-/

namespace SortedList

variable {α κ : Type*} [LinearOrder κ]

/-- `binary_search_by_key(b, f)` on a list sorted by `f`. -/
def binarySearchByKey (b : κ) (f : α → κ) : List α → Except Nat Nat
  | [] => .error 0
  | a :: l =>
      if f a < b then
        match binarySearchByKey b f l with
        | .ok i => .ok (i + 1)
        | .error i => .error (i + 1)
      else if f a = b then .ok 0
      else .error 0

/-- Strictly increasing by `f`. -/
def Sorted (f : α → κ) (l : List α) : Prop := l.Pairwise fun a c => f a < f c

variable {f : α → κ}

theorem binarySearchByKey_eq_ok {b : κ} {l : List α} {i : Nat} (h : binarySearchByKey b f l = .ok i) :
    ∃ pre a post, l = pre ++ a :: post ∧ pre.length = i ∧ f a = b ∧ ∀ x ∈ pre, f x < b := by
  induction l generalizing i with
  | nil => cases h
  | cons a l ih =>
      unfold binarySearchByKey at h
      split_ifs at h with hlt heq
      · split at h
        · cases h
          obtain ⟨pre, a', post, rfl, rfl, hkey, hpre⟩ := ih ‹_›
          refine ⟨a :: pre, a', post, rfl, rfl, hkey, ?_⟩
          simpa [hlt] using hpre
        · cases h
      · cases h
        exact ⟨[], a, l, rfl, rfl, heq, by simp⟩

theorem binarySearchByKey_eq_error {b : κ} {l : List α} {i : Nat} (h : binarySearchByKey b f l = .error i) :
    ∃ pre post, l = pre ++ post ∧ pre.length = i ∧ (∀ x ∈ pre, f x < b) ∧ ∀ x ∈ post.head?, b < f x := by
  induction l generalizing i with
  | nil =>
      cases h
      exact ⟨[], [], rfl, rfl, by simp, by simp⟩
  | cons a l ih =>
      unfold binarySearchByKey at h
      split_ifs at h with hlt heq
      · split at h
        · cases h
        · cases h
          obtain ⟨pre, post, rfl, rfl, hpre, hpost⟩ := ih ‹_›
          refine ⟨a :: pre, post, rfl, rfl, ?_, hpost⟩
          simpa [hlt] using hpre
      · cases h
        exact ⟨[], a :: l, rfl, rfl, by simp, by simpa using lt_of_le_of_ne (not_lt.1 hlt) (Ne.symm heq)⟩

theorem binarySearchByKey_isError {b : κ} {l : List α} (h : ∀ x ∈ l, f x ≠ b) :
    ∃ i, binarySearchByKey b f l = .error i := by
  induction l with
  | nil => exact ⟨0, rfl⟩
  | cons a l ih =>
      obtain ⟨i, hi⟩ := ih fun x hx => h x (List.mem_cons_of_mem a hx)
      unfold binarySearchByKey
      split_ifs with hlt heq
      · exact ⟨i + 1, by rw [hi]⟩
      · exact absurd heq (h a List.mem_cons_self)
      · exact ⟨0, rfl⟩

theorem binarySearchByKey_append_cons {pre post : List α} {a : α} (hs : Sorted f (pre ++ a :: post)) :
    binarySearchByKey (f a) f (pre ++ a :: post) = .ok pre.length := by
  induction pre with
  | nil => simp [binarySearchByKey]
  | cons x pre ih =>
      have hx : f x < f a := List.rel_of_pairwise_cons hs (by simp)
      have hrest := ih (List.Pairwise.of_cons hs)
      simp only [List.cons_append, binarySearchByKey, hx, if_true, hrest, List.length_cons]

theorem modify_append_length (pre post : List α) (a : α) (g : α → α) :
    (pre ++ a :: post).modify pre.length g = pre ++ g a :: post := by
  induction pre with
  | nil => simp
  | cons x pre ih => simp [ih]

theorem insertIdx_append_length (pre post : List α) (a : α) :
    (pre ++ post).insertIdx pre.length a = pre ++ a :: post := by
  induction pre with
  | nil => simp [List.insertIdx_zero]
  | cons x pre ih => simp [List.insertIdx_succ_cons, ih]

theorem eraseIdx_append_length (pre post : List α) (a : α) :
    (pre ++ a :: post).eraseIdx pre.length = pre ++ post := by
  rw [List.eraseIdx_append_of_length_le le_rfl, Nat.sub_self, List.eraseIdx_cons_zero]

theorem Sorted.modify {pre post : List α} {a a' : α} (hs : Sorted f (pre ++ a :: post)) (hkey : f a' = f a) :
    Sorted f (pre ++ a' :: post) := by
  unfold Sorted at hs ⊢
  have hmap : (pre ++ a' :: post).map f = (pre ++ a :: post).map f := by simp [hkey]
  rw [← List.pairwise_map, hmap, List.pairwise_map]
  exact hs

theorem Sorted.insert {pre post : List α} {a : α} (hs : Sorted f (pre ++ post))
    (hpre : ∀ x ∈ pre, f x < f a) (hpost : ∀ x ∈ post.head?, f a < f x) : Sorted f (pre ++ a :: post) := by
  unfold Sorted at hs ⊢
  rw [List.pairwise_append] at hs ⊢
  obtain ⟨hpre', hpost', hcross⟩ := hs
  have hall : ∀ x ∈ post, f a < f x := by
    cases post with
    | nil => simp
    | cons y post =>
        have hy : f a < f y := hpost y (by simp)
        intro x hx
        rcases List.mem_cons.1 hx with rfl | hx
        · exact hy
        · exact hy.trans (List.rel_of_pairwise_cons hpost' hx)
  refine ⟨hpre', List.pairwise_cons.2 ⟨hall, hpost'⟩, fun x hx y hy => ?_⟩
  rcases List.mem_cons.1 hy with rfl | hy
  · exact hpre x hx
  · exact hcross x hx y hy

theorem Sorted.ne_of_mem {pre post : List α} {a x : α} (hs : Sorted f (pre ++ a :: post))
    (hx : x ∈ pre ++ post) : f x ≠ f a := by
  unfold Sorted at hs
  rw [List.pairwise_append, List.pairwise_cons] at hs
  rcases List.mem_append.1 hx with hx | hx
  · exact ne_of_lt (hs.2.2 x hx a List.mem_cons_self)
  · exact ne_of_gt (hs.2.1.1 x hx)

theorem Sorted.erase {pre post : List α} {a : α} (hs : Sorted f (pre ++ a :: post)) : Sorted f (pre ++ post) :=
  List.Pairwise.sublist ((List.Sublist.refl pre).append (List.sublist_cons_self a post)) hs

end SortedList
