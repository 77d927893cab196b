import Mathlib

/-!
# Rounding to a power-of-two alignment

A `w`-bit address rounded up to an alignment `2^k` by the usual bit trick,
`(x + a - 1) & !(a - 1)`: masking the low `k` bits rounds down to a multiple of
`2^k`, so the whole rounds up when the sum does not wrap.
-/

namespace Alignment

/-- `x` rounded up to a multiple of `a`. -/
def alignUp (x a : Nat) : Nat := (x + a - 1) / a * a

theorem two_pow_sub_two_pow {k w : Nat} (hk : k ≤ w) : 2 ^ w - 1 - (2 ^ k - 1) = (2 ^ (w - k) - 1) * 2 ^ k := by
  have hsplit : 2 ^ w = 2 ^ (w - k) * 2 ^ k := by rw [← pow_add, Nat.sub_add_cancel hk]
  have hpos : 1 ≤ 2 ^ k := Nat.one_le_two_pow
  rw [Nat.sub_mul, one_mul, ← hsplit]
  omega

theorem land_complement {k w x : Nat} (hk : k ≤ w) (hx : x < 2 ^ w) :
    x &&& (2 ^ w - 1 - (2 ^ k - 1)) = x / 2 ^ k * 2 ^ k := by
  rw [two_pow_sub_two_pow hk]
  apply Nat.eq_of_testBit_eq
  intro i
  rw [Nat.testBit_land, Nat.testBit_mul_two_pow, Nat.testBit_mul_two_pow, Nat.testBit_two_pow_sub_one,
    Nat.testBit_div_two_pow]
  by_cases hi : k ≤ i
  · -- above the mask the bits of `x` are kept, and above `w` they are zero anyway
    rw [Nat.sub_add_cancel hi]
    by_cases hiw : i < w
    · simp [hi, show i - k < w - k by omega]
    · have hzero : x.testBit i = false :=
        Nat.testBit_eq_false_of_lt (lt_of_lt_of_le hx (Nat.pow_le_pow_right Nat.two_pos (by omega)))
      simp [hzero]
  · have hlow : decide (k ≤ i) = false := decide_eq_false hi
    simp [hlow]

theorem le_alignUp (x : Nat) {a : Nat} (ha : 0 < a) : x ≤ alignUp x a := by
  unfold alignUp
  have := Nat.div_add_mod (x + a - 1) a
  have := Nat.mod_lt (x + a - 1) ha
  rw [Nat.mul_comm]
  omega

theorem alignUp_lt (x : Nat) {a : Nat} (ha : 0 < a) : alignUp x a < x + a := by
  unfold alignUp
  have := Nat.div_mul_le_self (x + a - 1) a
  omega

theorem alignUp_mod (x a : Nat) : alignUp x a % a = 0 := Nat.mul_mod_left _ _

end Alignment
