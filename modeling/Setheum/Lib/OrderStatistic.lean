import Mathlib

/-!
# Order statistics

The `m`-th smallest element of a list by a key is read off the list sorted by
that key. Two counts bracket it: at least `m + 1` elements have a key at most
its key, and at least `length - m` have a key at least its key. So the
element at position `length / 2` lies between two good elements as soon as
fewer than half of the elements are bad, however the bad ones are placed.
-/

namespace OrderStatistic

variable {α β : Type*} [LinearOrder β] (f : α → β)

/-- The list sorted by the key `f`, by a stable insertion sort (structural,
so that it evaluates in the kernel). -/
def sortBy (l : List α) : List α := l.insertionSort fun a b => f a ≤ f b

theorem sortBy_perm (l : List α) : (sortBy f l).Perm l := List.perm_insertionSort _ _

theorem length_sortBy (l : List α) : (sortBy f l).length = l.length := List.length_insertionSort _ _

theorem pairwise_sortBy (l : List α) : (sortBy f l).Pairwise fun a b => f a ≤ f b := by
  -- comparing by a key is total and transitive, though not antisymmetric
  have : Std.Total fun a b : α => f a ≤ f b := ⟨fun a b => le_total (f a) (f b)⟩
  have : IsTrans α fun a b => f a ≤ f b := ⟨fun _ _ _ => le_trans⟩
  exact List.pairwise_insertionSort _ l

theorem map_sortBy {γ : Type*} (g : γ → α) (l : List γ) :
    (sortBy (f ∘ g) l).map g = sortBy f (l.map g) :=
  List.map_insertionSort _ _ g l fun _ _ _ _ => Iff.rfl

variable {f}

theorem succ_le_countP_le {l : List α} {m : Nat} {x : α} (hx : (sortBy f l)[m]? = some x) :
    m + 1 ≤ l.countP fun y => decide (f y ≤ f x) := by
  obtain ⟨hm, rfl⟩ := List.getElem?_eq_some_iff.1 hx
  have hsorted := List.pairwise_iff_getElem.1 (pairwise_sortBy f l)
  have hhead : ((sortBy f l).take (m + 1)).countP
      (fun y => decide (f y ≤ f (sortBy f l)[m])) = m + 1 := by
    rw [List.countP_eq_length.2, List.length_take]
    · omega
    intro y hy
    obtain ⟨j, hj, rfl⟩ := List.mem_take_iff_getElem.1 hy
    rw [decide_eq_true_eq]
    rcases Nat.lt_or_eq_of_le (show j ≤ m by omega) with hlt | rfl
    · exact hsorted _ _ _ hm hlt
    · exact le_rfl
  calc m + 1 = _ := hhead.symm
    _ ≤ (sortBy f l).countP _ := (List.take_sublist _ _).countP_le
    _ = l.countP _ := (sortBy_perm f l).countP_eq _

theorem length_sub_le_countP_ge {l : List α} {m : Nat} {x : α} (hx : (sortBy f l)[m]? = some x) :
    l.length - m ≤ l.countP fun y => decide (f x ≤ f y) := by
  obtain ⟨hm, rfl⟩ := List.getElem?_eq_some_iff.1 hx
  have hsorted := List.pairwise_iff_getElem.1 (pairwise_sortBy f l)
  have hsuffix : ((sortBy f l).drop m).countP
      (fun y => decide (f (sortBy f l)[m] ≤ f y)) = l.length - m := by
    rw [List.countP_eq_length.2, List.length_drop, length_sortBy]
    intro y hy
    obtain ⟨j, hj, rfl⟩ := List.mem_drop_iff_getElem.1 hy
    rw [decide_eq_true_eq]
    rcases Nat.eq_zero_or_pos j with rfl | hpos
    · exact le_rfl
    · exact hsorted _ _ hm _ (by omega)
  calc l.length - m = _ := hsuffix.symm
    _ ≤ (sortBy f l).countP _ := (List.drop_sublist _ _).countP_le
    _ = l.countP _ := (sortBy_perm f l).countP_eq _

theorem exists_good_of_countP_lt (good p : α → Bool) {l : List α}
    (h : l.countP (fun y => !good y) < l.countP p) : ∃ y ∈ l, good y ∧ p y := by
  have hsplit := List.countP_eq_countP_filter_add l p good
  have hbad : (l.filter fun y => !good y).countP p ≤ l.countP fun y => !good y := by
    rw [List.countP_eq_length_filter (p := fun y => !good y)]
    exact List.countP_le_length
  obtain ⟨y, hy, hp⟩ := List.countP_pos_iff.1 (show 0 < (l.filter good).countP p by omega)
  obtain ⟨hyl, hgood⟩ := List.mem_filter.1 hy
  exact ⟨y, hyl, hgood, hp⟩

theorem median_between (good : α → Bool) {l : List α} {x : α}
    (hx : (sortBy f l)[l.length / 2]? = some x)
    (hbad : l.countP (fun y => !good y) ≤ (l.length - 1) / 2) :
    (∃ y ∈ l, good y ∧ f y ≤ f x) ∧ ∃ z ∈ l, good z ∧ f x ≤ f z := by
  have hbelow := succ_le_countP_le hx
  have habove := length_sub_le_countP_ge hx
  have hlen : l.length / 2 < l.length := by
    obtain ⟨h, -⟩ := List.getElem?_eq_some_iff.1 hx
    rwa [length_sortBy] at h
  constructor
  · obtain ⟨y, hy, hgood, hle⟩ :=
      exists_good_of_countP_lt (l := l) good (fun y => decide (f y ≤ f x)) (by omega)
    exact ⟨y, hy, hgood, of_decide_eq_true hle⟩
  · obtain ⟨z, hz, hgood, hle⟩ :=
      exists_good_of_countP_lt (l := l) good (fun y => decide (f x ≤ f y)) (by omega)
    exact ⟨z, hz, hgood, of_decide_eq_true hle⟩

end OrderStatistic
