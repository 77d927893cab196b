import Mathlib

/-!
# Constant-product quotes

A pool holding `a` of one currency and `b` of another that takes `x` of the
first and pays `y` of the second keeps its product `a * b` when the payment is
small enough. A constant-product market maker quotes the payment for a given
supply rounded down, and the supply for a given payment rounded up, after a
fee of `N / D` taken from the supply; these lemmas say that either quote keeps
the product, in the integer form the quotes are computed in.
-/

namespace ConstantProduct

theorem product_le_of_payment {a b x y : ℕ} (hy : y ≤ b) (h : y * (a + x) ≤ x * b) :
    a * b ≤ (a + x) * (b - y) := by
  obtain ⟨c, rfl⟩ : ∃ c, b = c + y := ⟨b - y, by omega⟩
  rw [Nat.add_sub_cancel]
  nlinarith

/-- The supply-side form of a floor quote: whatever `y` satisfies
`y * (a * D + x * (D - N)) ≤ x * (D - N) * b`, with `a` and `D` positive, is at
most `b` and keeps the product. -/
theorem payment_of_floor_quote {a b x y D N : ℕ} (ha : 0 < a) (hD : 0 < D)
    (hq : y * (a * D + x * (D - N)) ≤ x * (D - N) * b) :
    y ≤ b ∧ a * b ≤ (a + x) * (b - y) := by
  have hden : 0 < a * D + x * (D - N) := Nat.lt_of_lt_of_le (Nat.mul_pos ha hD) (Nat.le_add_right _ _)
  have hyb : y ≤ b := by
    refine Nat.le_of_mul_le_mul_right ?_ hden
    calc y * (a * D + x * (D - N)) ≤ x * (D - N) * b := hq
      _ ≤ (a * D + x * (D - N)) * b := Nat.mul_le_mul_right b (Nat.le_add_left _ _)
      _ = b * (a * D + x * (D - N)) := Nat.mul_comm _ _
  refine ⟨hyb, product_le_of_payment hyb ?_⟩
  -- the fee only lowers the payment: scale by `D = (D - N) + N`
  rcases Nat.lt_or_ge D N with hN | hN
  · have hy0 : y = 0 := by
      rw [Nat.sub_eq_zero_of_le hN.le] at hq
      simp only [Nat.mul_zero, Nat.add_zero, Nat.zero_mul, Nat.le_zero, Nat.mul_eq_zero] at hq
      omega
    simp [hy0]
  · obtain ⟨E, rfl⟩ : ∃ E, D = E + N := ⟨D - N, by omega⟩
    rw [Nat.add_sub_cancel] at hq
    refine Nat.le_of_mul_le_mul_left ?_ hD
    calc (E + N) * (y * (a + x)) = y * (a * (E + N) + x * E) + y * x * N := by ring
      _ ≤ x * E * b + b * x * N :=
          Nat.add_le_add hq (Nat.mul_le_mul_right N (Nat.mul_le_mul_right x hyb))
      _ = (E + N) * (x * b) := by ring

theorem payment_lt_of_floor_quote {a b x y D N : ℕ} (ha : 0 < a) (hD : 0 < D) (hb : 0 < b)
    (hq : y * (a * D + x * (D - N)) ≤ x * (D - N) * b) : y < b := by
  refine lt_of_le_of_ne (payment_of_floor_quote ha hD hq).1 ?_
  intro hyb
  subst hyb
  have hpos : 0 < y * (a * D) := Nat.mul_pos hb (Nat.mul_pos ha hD)
  rw [Nat.mul_add, Nat.mul_comm (x * (D - N)) y] at hq
  omega

theorem payment_of_ceil_quote {a b t s D N : ℕ} (ht : t ≤ b)
    (hq : a * t * D < s * ((b - t) * (D - N))) : a * b ≤ (a + s) * (b - t) := by
  -- the fee only raises the supply: drop it, then divide by `D`
  have hlt : a * t * D < s * (b - t) * D :=
    calc a * t * D < s * ((b - t) * (D - N)) := hq
      _ ≤ s * ((b - t) * D) := Nat.mul_le_mul_left s (Nat.mul_le_mul_left _ (Nat.sub_le D N))
      _ = s * (b - t) * D := (Nat.mul_assoc _ _ _).symm
  have hat : a * t ≤ s * (b - t) := (Nat.lt_of_mul_lt_mul_right hlt).le
  refine product_le_of_payment ht ?_
  obtain ⟨c, rfl⟩ : ∃ c, b = c + t := ⟨b - t, by omega⟩
  rw [Nat.add_sub_cancel] at hat
  nlinarith

theorem le_floor_quote_of_ceil {a b t s D N : ℕ} (ht : t ≤ b)
    (hq : a * t * D < s * ((b - t) * (D - N))) : t * (a * D + s * (D - N)) ≤ s * (D - N) * b := by
  obtain ⟨c, rfl⟩ : ∃ c, b = c + t := ⟨b - t, by omega⟩
  rw [Nat.add_sub_cancel] at hq
  generalize D - N = E at hq ⊢
  nlinarith [hq]

/-- Two below a ceiling quote of `t`, the floor quote pays less than `t`:
`x + 1` units of supply, at most the ceiling less one, are worth at most
`a * t * D`. -/
theorem floor_quote_lt_of_ceil {a b t x y D N : ℕ} (hbt : 0 < (b - t) * (D - N))
    (hle : (x + 1) * ((b - t) * (D - N)) ≤ a * t * D)
    (hq : y * (a * D + x * (D - N)) ≤ x * (D - N) * b) : y < t := by
  have htb : t ≤ b := by
    by_contra h
    rw [Nat.sub_eq_zero_of_le (by omega), Nat.zero_mul] at hbt
    exact lt_irrefl 0 hbt
  obtain ⟨c, rfl⟩ : ∃ c, b = c + t := ⟨b - t, by omega⟩
  rw [Nat.add_sub_cancel] at hbt hle
  generalize D - N = E at hbt hle hq
  by_contra hyt
  push Not at hyt
  have h1 : t * (a * D + x * E) ≤ x * E * (c + t) := (Nat.mul_le_mul_right _ hyt).trans hq
  nlinarith [h1, hle, hbt]

end ConstantProduct
