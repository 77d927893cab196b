import Mathlib

/-!
# Sums over a finite type that change at one point

Storage maps are total functions on a finite key type; a write changes one
key. These lemmas say how a sum over all keys moves when its summand changes
at one key only, and that a sum of quotients is below the quotient of the sum.
-/

namespace FinSum

variable {α M : Type*} [Fintype α] [DecidableEq α] [AddCommMonoid M]

theorem sum_add_eq_of_eq_off (f g : α → M) (i : α) (h : ∀ j, j ≠ i → f j = g j) :
    ∑ j, f j + g i = ∑ j, g j + f i := by
  rw [← Finset.add_sum_erase _ f (Finset.mem_univ i), ← Finset.add_sum_erase _ g (Finset.mem_univ i),
    Finset.sum_congr rfl fun j hj => h j (Finset.ne_of_mem_erase hj)]
  ac_rfl

theorem sum_le_of_le_at {f g : α → ℕ} (i : α) (h : ∀ j, j ≠ i → f j = g j) (hi : f i ≤ g i) :
    ∑ j, f j ≤ ∑ j, g j := by
  have := sum_add_eq_of_eq_off f g i h
  omega

theorem sum_update_add {β : Type*} (f : α → β) (i : α) (b : β) (μ : β → M) :
    ∑ j, μ (Function.update f i b j) + μ (f i) = ∑ j, μ (f j) + μ b := by
  have h := sum_add_eq_of_eq_off (fun j => μ (Function.update f i b j)) (fun j => μ (f j)) i
    fun j hj => by rw [Function.update_of_ne hj]
  simpa using h

theorem sum_add_eq_of_eq_off_two (f g : α → ℕ) {i j : α} (hij : i ≠ j) (h : ∀ k, k ≠ i → k ≠ j → f k = g k) :
    ∑ k, f k + (g i + g j) = ∑ k, g k + (f i + f j) := by
  have h₁ := sum_add_eq_of_eq_off f (Function.update f i (g i)) i fun k hk => (Function.update_of_ne hk _ _).symm
  have h₂ := sum_add_eq_of_eq_off (Function.update f i (g i)) g j fun k hk => by
    by_cases hki : k = i
    · subst hki
      rw [Function.update_self]
    · rw [Function.update_of_ne hki, h k hki hk]
  rw [Function.update_self] at h₁
  rw [Function.update_of_ne (Ne.symm hij)] at h₂
  omega

theorem add_le_sum (f : α → ℕ) {i j : α} (h : i ≠ j) : f i + f j ≤ ∑ k, f k := by
  rw [← Finset.add_sum_erase _ f (Finset.mem_univ i)]
  exact Nat.add_le_add_left (Finset.single_le_sum (fun k _ => Nat.zero_le (f k))
    (Finset.mem_erase.mpr ⟨Ne.symm h, Finset.mem_univ j⟩)) _

omit [DecidableEq α] in
/-- A term of a sum of naturals over all keys is at most the sum. Stated over
an abstract key type, so that using it at a large concrete one never makes
Lean unfold that type's enumeration. -/
theorem le_sum_univ (f : α → ℕ) (i : α) : f i ≤ ∑ j, f j :=
  Finset.single_le_sum (fun j _ => Nat.zero_le (f j)) (Finset.mem_univ i)

omit [Fintype α] in
theorem sum_div_le_div_sum (s : Finset α) (f : α → ℕ) (d : ℕ) :
    ∑ j ∈ s, f j / d ≤ (∑ j ∈ s, f j) / d := by
  induction s using Finset.induction_on with
  | empty => simp
  | insert i s hi ih =>
      rw [Finset.sum_insert hi, Finset.sum_insert hi]
      calc f i / d + ∑ j ∈ s, f j / d ≤ f i / d + (∑ j ∈ s, f j) / d := Nat.add_le_add_left ih _
        _ ≤ (f i + ∑ j ∈ s, f j) / d := Nat.div_add_div_le_add_div

end FinSum
