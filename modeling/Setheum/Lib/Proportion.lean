import Mathlib

/-!
# Rounded-down proportions

A holding of `s` out of `S` shares is worth `s * R / S` of an amount `R`,
rounded down. When `a` shares join and the amount is inflated by their
rounded-down part `a * R / S`, the worth of a share can only fall, and a
holding of at most `S + a` shares loses less than one unit; the newcomer's
holding is worth at most what it was charged.

The whole periods of `c` in two spans add up to at most those of the joined
span, and a span of `L + c - 1` holds at most one more than a span of `L`.

Floor square roots keep the arithmetic-geometric mean inequality: twice the
product of the roots of `u * v`'s two factors never exceeds `u + v`.
-/

namespace Proportion

theorem div_le_div_of_mul_le {a b c d : ℕ} (hb : 0 < b) (hd : 0 < d) (h : a * d ≤ c * b) :
    a / b ≤ c / d := by
  rw [Nat.le_div_iff_mul_le hd]
  have hab : a / b * b ≤ a := Nat.div_mul_le_self a b
  have hmul : a / b * d * b ≤ c * b := calc
    a / b * d * b = a / b * b * d := by ring
    _ ≤ a * d := Nat.mul_le_mul_right d hab
    _ ≤ c * b := h
  exact Nat.le_of_mul_le_mul_right hmul hb

variable (s R S a : ℕ)

theorem inflated_le (hS : 0 < S) : s * (R + a * R / S) / (S + a) ≤ s * R / S := by
  apply div_le_div_of_mul_le (by omega) hS
  have hx : a * R / S * S ≤ a * R := Nat.div_mul_le_self _ _
  calc s * (R + a * R / S) * S = s * (R * S + a * R / S * S) := by ring
    _ ≤ s * (R * S + a * R) := by gcongr
    _ = s * R * (S + a) := by ring

theorem le_inflated_add_one (hS : 0 < S) (hs : s ≤ S + a) :
    s * R / S ≤ s * (R + a * R / S) / (S + a) + 1 := by
  set x := a * R / S
  set q := s * (R + x) / (S + a)
  have hq : s * (R + x) < (S + a) * (q + 1) := Nat.lt_mul_div_succ _ (by omega)
  have hx : a * R < S * (x + 1) := Nat.lt_mul_div_succ _ hS
  have hlt : s * R * (S + a) < S * (q + 2) * (S + a) := calc
    s * R * (S + a) = S * (s * R) + s * (a * R) := by ring
    _ ≤ S * (s * R) + s * (S * (x + 1)) := by gcongr
    _ = S * (s * (R + x) + s) := by ring
    _ < S * ((S + a) * (q + 1) + s) := by gcongr
    _ ≤ S * ((S + a) * (q + 1) + (S + a)) := by gcongr
    _ = S * (q + 2) * (S + a) := by ring
  have hold : s * R < S * (q + 2) := Nat.lt_of_mul_lt_mul_right hlt
  have hdiv : s * R / S < q + 2 := by
    rw [Nat.div_lt_iff_lt_mul hS, Nat.mul_comm (q + 2)]
    exact hold
  omega

theorem joined_le (hS : 0 < S) : (s + a) * (R + a * R / S) / (S + a) ≤ s * R / S + a * R / S + 1 := calc
  (s + a) * (R + a * R / S) / (S + a) ≤ (s + a) * R / S := inflated_le (s + a) R S a hS
  _ = (s * R + a * R) / S := by rw [add_mul]
  _ ≤ s * R / S + a * R / S + 1 := Nat.add_div_le_div_add_div_add_one _ _ _

theorem charged_le (hS : 0 < S) : a * (R + a * R / S) / (S + a) ≤ a * R / S :=
  inflated_le a R S a hS

theorem mul_div_add_le (k a b c : ℕ) : k * (a / c) + k * (b / c) ≤ k * ((a + b) / c) := by
  rw [← Nat.mul_add]
  exact Nat.mul_le_mul_left k (Nat.div_add_div_le_add_div)

theorem div_add_pred_le (L c : ℕ) (hc : 0 < c) : (L + c - 1) / c ≤ L / c + 1 := calc
  (L + c - 1) / c ≤ (L + c) / c := Nat.div_le_div_right (by omega)
  _ = L / c + 1 := Nat.add_div_right L hc

/-! ## Weighted averages -/

section Weighted

variable (r q : ℕ) {w D : ℕ}

theorem weighted_le_max (hw : w ≤ D) (hD : 0 < D) : r * w / D + q * (D - w) / D ≤ max r q := by
  have hr : r * w ≤ max r q * w := Nat.mul_le_mul_right w (le_max_left r q)
  have hq : q * (D - w) ≤ max r q * (D - w) := Nat.mul_le_mul_right (D - w) (le_max_right r q)
  have hsplit : max r q * w + max r q * (D - w) = max r q * D := by rw [← Nat.mul_add, Nat.add_sub_cancel' hw]
  calc r * w / D + q * (D - w) / D ≤ (r * w + q * (D - w)) / D := Nat.div_add_div_le_add_div
    _ ≤ max r q * D / D := Nat.div_le_div_right (by omega)
    _ = max r q := Nat.mul_div_cancel _ hD

theorem min_le_weighted_add_one (hw : w ≤ D) (hD : 0 < D) : min r q ≤ r * w / D + q * (D - w) / D + 1 := by
  have hr : min r q * w ≤ r * w := Nat.mul_le_mul_right w (min_le_left r q)
  have hq : min r q * (D - w) ≤ q * (D - w) := Nat.mul_le_mul_right (D - w) (min_le_right r q)
  have hsplit : min r q * w + min r q * (D - w) = min r q * D := by rw [← Nat.mul_add, Nat.add_sub_cancel' hw]
  calc min r q = min r q * D / D := (Nat.mul_div_cancel _ hD).symm
    _ ≤ (r * w + q * (D - w)) / D := Nat.div_le_div_right (by omega)
    _ ≤ r * w / D + q * (D - w) / D + 1 := Nat.add_div_le_div_add_div_add_one _ _ _

end Weighted

section GeometricMean

theorem two_mul_le_add_of_mul_self_le {u v m : ℕ} (h : m * m ≤ u * v) : 2 * m ≤ u + v := by
  by_contra hlt
  have hsq : (u + v) * (u + v) < 2 * m * (2 * m) := Nat.mul_self_lt_mul_self (Nat.lt_of_not_le hlt)
  -- squaring both sides: (u + v)² < 4 m² ≤ 4 u v ≤ (u + v)²
  have hcycle : (u + v) * (u + v) < (u + v) * (u + v) := calc
    (u + v) * (u + v) < 2 * m * (2 * m) := hsq
    _ = 4 * (m * m) := by ring
    _ ≤ 4 * (u * v) := Nat.mul_le_mul_left 4 h
    _ = 4 * u * v := by ring
    _ ≤ (u + v) ^ 2 := four_mul_le_sq_add u v
    _ = (u + v) * (u + v) := sq _
  exact Nat.lt_irrefl _ hcycle

theorem sqrt_mul_sqrt_mul_self_le (a b : ℕ) :
    Nat.sqrt a * Nat.sqrt b * (Nat.sqrt a * Nat.sqrt b) ≤ a * b := calc
  Nat.sqrt a * Nat.sqrt b * (Nat.sqrt a * Nat.sqrt b) = Nat.sqrt a * Nat.sqrt a * (Nat.sqrt b * Nat.sqrt b) := by
    ring
  _ ≤ a * b := Nat.mul_le_mul (Nat.sqrt_le a) (Nat.sqrt_le b)

end GeometricMean

end Proportion
