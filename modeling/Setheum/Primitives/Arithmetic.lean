import Mathlib

/-!
# Balances and fixed-point numbers

`Balance = u128` with the checked operations the pallets use, `FixedU128` of
`sp-arithmetic` (the runtime's `ExchangeRate` and `Ratio`), and the `U256`
operations of the DEX pricing. Each follows its documented behaviour:
`checked_*` fail outside the type's range, `saturating_*` clamp to it, and
fixed-point products and quotients round down.
-/

namespace Setheum

/-- `ArithmeticError` of `sp-runtime`. -/
inductive ArithmeticError where
  | underflow
  | overflow
  | divisionByZero
  deriving DecidableEq, Repr

/-- Literals of the `u128` amounts of the calls name this instance rather than a proof
made up for each. -/
instance neZero_two_pow_128 : NeZero (2 ^ 128 : Nat) := ⟨by norm_num⟩

namespace Balance

/-- `u128::checked_add`. -/
def checkedAdd (a b : Nat) : Option Nat := if a + b < 2 ^ 128 then some (a + b) else none

/-- `u128::checked_sub`. -/
def checkedSub (a b : Nat) : Option Nat := if b ≤ a then some (a - b) else none

@[simp] theorem checkedAdd_eq_some {a b c : Nat} :
    checkedAdd a b = some c ↔ a + b < 2 ^ 128 ∧ a + b = c := by
  rw [checkedAdd, Option.ite_none_right_eq_some, Option.some.injEq]

@[simp] theorem checkedSub_eq_some {a b c : Nat} :
    checkedSub a b = some c ↔ b ≤ a ∧ a - b = c := by
  rw [checkedSub, Option.ite_none_right_eq_some, Option.some.injEq]

/-- `u128::checked_mul`. -/
def checkedMul (a b : Nat) : Option Nat := if a * b < 2 ^ 128 then some (a * b) else none

@[simp] theorem checkedMul_eq_some {a b c : Nat} :
    checkedMul a b = some c ↔ a * b < 2 ^ 128 ∧ a * b = c := by
  rw [checkedMul, Option.ite_none_right_eq_some, Option.some.injEq]

/-- `u128::saturating_add`. -/
def saturatingAdd (a b : Nat) : Nat := min (a + b) (2 ^ 128 - 1)

/-- `u128::saturating_mul`. -/
def saturatingMul (a b : Nat) : Nat := min (a * b) (2 ^ 128 - 1)

theorem saturatingAdd_eq {a b : Nat} (h : a + b < 2 ^ 128) : saturatingAdd a b = a + b :=
  min_eq_left (by omega)

end Balance

/-! The `u32` block numbers and counts of `frame_system` and of vesting
schedules. -/

namespace U32

/-- `u32::checked_add`. -/
def checkedAdd (a b : Nat) : Option Nat := if a + b < 2 ^ 32 then some (a + b) else none

/-- `u32::checked_mul`. -/
def checkedMul (a b : Nat) : Option Nat := if a * b < 2 ^ 32 then some (a * b) else none

end U32

/-- `FixedU128`: a `u128` read with eighteen decimal places. -/
structure FixedU128 where
  inner : Nat
  inner_lt : inner < 2 ^ 128
  deriving DecidableEq

namespace FixedU128

/-- `FixedU128::DIV`. -/
def DIV : Nat := 10 ^ 18

instance : Inhabited FixedU128 := ⟨⟨0, by norm_num⟩⟩

/-- The default value, zero. -/
def zero : FixedU128 := ⟨0, by norm_num⟩

/-- `FixedU128::one()`. -/
def one : FixedU128 := ⟨DIV, by norm_num [DIV]⟩

instance : LE FixedU128 := ⟨fun a b => a.inner ≤ b.inner⟩

instance (a b : FixedU128) : Decidable (a ≤ b) := inferInstanceAs (Decidable (a.inner ≤ b.inner))

/-- `checked_from_rational(n, d)`: `n / d` rounded down; `None` when `d = 0` or
when the quotient does not fit. -/
def checkedFromRational (n d : Nat) : Option FixedU128 :=
  if d = 0 then none
  else if h : n * DIV / d < 2 ^ 128 then some ⟨n * DIV / d, h⟩ else none

/-- `checked_mul_int(n)`: `self * n` rounded down; `None` when it does not fit
in a `u128`. -/
def checkedMulInt (r : FixedU128) (n : Nat) : Option Nat :=
  if r.inner * n / DIV < 2 ^ 128 then some (r.inner * n / DIV) else none

/-- `saturating_from_rational(n, d)`: `n / d` rounded down, the largest value
when it does not fit; `None` where the source panics, on `d = 0`. -/
def saturatingFromRational (n d : Nat) : Option FixedU128 :=
  if d = 0 then none
  else some ((checkedFromRational n d).getD ⟨2 ^ 128 - 1, by norm_num⟩)

/-- `saturating_mul_int(n)`: `self * n` rounded down, saturated to a `u128`. -/
def saturatingMulInt (r : FixedU128) (n : Nat) : Nat := min (r.inner * n / DIV) (2 ^ 128 - 1)

@[simp] theorem saturatingMulInt_zero (r : FixedU128) : r.saturatingMulInt 0 = 0 := by
  simp [saturatingMulInt]

/-- `checked_div`: `self / other` rounded down; `None` on a zero divisor or
when the quotient does not fit. -/
def checkedDiv (a b : FixedU128) : Option FixedU128 :=
  if b.inner = 0 then none
  else if h : a.inner * DIV / b.inner < 2 ^ 128 then some ⟨a.inner * DIV / b.inner, h⟩ else none

/-- `reciprocal`: `1 / self` by `checked_div`. -/
def reciprocal (r : FixedU128) : Option FixedU128 := one.checkedDiv r

/-- `max_value()`. -/
def maxValue : FixedU128 := ⟨2 ^ 128 - 1, by norm_num⟩

instance : LT FixedU128 := ⟨fun a b => a.inner < b.inner⟩

instance (a b : FixedU128) : Decidable (a < b) := inferInstanceAs (Decidable (a.inner < b.inner))

/-- `saturating_sub`: the difference, or zero. -/
def saturatingSub (a b : FixedU128) : FixedU128 := ⟨a.inner - b.inner, lt_of_le_of_lt (Nat.sub_le _ _) a.inner_lt⟩

/-- `saturating_mul`: the product rounded down, the largest value when it does
not fit. -/
def saturatingMul (a b : FixedU128) : FixedU128 :=
  ⟨min (a.inner * b.inner / DIV) (2 ^ 128 - 1), lt_of_le_of_lt (min_le_right _ _) (by norm_num)⟩

/-- `saturating_add`: the sum, the largest value when it does not fit. -/
def saturatingAdd (a b : FixedU128) : FixedU128 :=
  ⟨min (a.inner + b.inner) (2 ^ 128 - 1), lt_of_le_of_lt (min_le_right _ _) (by norm_num)⟩

/-- The product `checked_mul_int` computes, before the range check. -/
def mulFloor (r : FixedU128) (n : Nat) : Nat := r.inner * n / DIV

theorem checkedMulInt_eq_some {r : FixedU128} {n m : Nat} :
    r.checkedMulInt n = some m ↔ r.mulFloor n < 2 ^ 128 ∧ r.mulFloor n = m := by
  unfold checkedMulInt mulFloor
  split_ifs with h
  · refine ⟨fun e => ⟨h, Option.some.inj e⟩, ?_⟩
    rintro ⟨-, rfl⟩; rfl
  · refine ⟨fun e => e.elim, ?_⟩
    rintro ⟨h', -⟩; exact absurd h' h

@[simp] theorem mulFloor_zero_left (n : Nat) : zero.mulFloor n = 0 := by
  simp [mulFloor, zero]

@[simp] theorem mulFloor_one (n : Nat) : one.mulFloor n = n := by
  simp [mulFloor, one, DIV]

theorem checkedFromRational_eq_some {n d : Nat} {r : FixedU128} :
    checkedFromRational n d = some r ↔ d ≠ 0 ∧ r.inner = n * DIV / d := by
  unfold checkedFromRational
  split_ifs with h0 h1
  · simp [h0]
  · constructor
    · rintro ⟨⟩; exact ⟨h0, rfl⟩
    · rintro ⟨-, h⟩; cases r; simp only at h; subst h; rfl
  · simp only [false_iff, not_and]
    intro _ h; exact h1 (h ▸ r.inner_lt)

theorem saturatingFromRational_eq_some {n d : Nat} (hd : d ≠ 0) :
    ∃ r, saturatingFromRational n d = some r ∧ r.inner = min (n * DIV / d) (2 ^ 128 - 1) := by
  unfold saturatingFromRational
  rw [if_neg hd]
  refine ⟨_, rfl, ?_⟩
  cases hr : checkedFromRational n d with
  | some r =>
      have hinner := (checkedFromRational_eq_some.mp hr).2
      have hlt := r.inner_lt
      simp only [Option.getD_some]
      omega
  | none =>
      have hbig : ¬n * DIV / d < 2 ^ 128 := fun hlt => by
        simp only [checkedFromRational, if_neg hd, dif_pos hlt] at hr
        cases hr
      simp only [Option.getD_none]
      omega

@[simp] theorem inner_one : one.inner = DIV := rfl

@[simp] theorem inner_saturatingSub (a b : FixedU128) : (a.saturatingSub b).inner = a.inner - b.inner := rfl

@[simp] theorem inner_saturatingMul (a b : FixedU128) :
    (a.saturatingMul b).inner = min (a.inner * b.inner / DIV) (2 ^ 128 - 1) := rfl

@[simp] theorem inner_saturatingAdd (a b : FixedU128) :
    (a.saturatingAdd b).inner = min (a.inner + b.inner) (2 ^ 128 - 1) := rfl

theorem mulFloor_mul_le {n d : Nat} {r : FixedU128} (h : checkedFromRational n d = some r) (m : Nat) :
    r.mulFloor m * d ≤ n * m := by
  obtain ⟨-, hr⟩ := checkedFromRational_eq_some.mp h
  have hD : 0 < DIV := by norm_num [DIV]
  -- both roundings go down: compare after scaling back by `DIV`
  refine Nat.le_of_mul_le_mul_right ?_ hD
  calc r.mulFloor m * d * DIV = r.inner * m / DIV * DIV * d := by rw [mulFloor, Nat.mul_right_comm]
    _ ≤ r.inner * m * d := Nat.mul_le_mul_right d (Nat.div_mul_le_self _ _)
    _ = n * DIV / d * d * m := by rw [hr, Nat.mul_right_comm]
    _ ≤ n * DIV * m := Nat.mul_le_mul_right m (Nat.div_mul_le_self _ _)
    _ = n * m * DIV := Nat.mul_right_comm _ _ _

theorem mulFloor_lt_of_inner_lt {n d : Nat} {r r' : FixedU128} (h : checkedFromRational n d = some r')
    (hlt : r.inner < r'.inner) : r.mulFloor d < n := by
  obtain ⟨hd, hr⟩ := checkedFromRational_eq_some.mp h
  have hD : 0 < DIV := by norm_num [DIV]
  have h1 : (r.inner + 1) * d ≤ n * DIV := by
    rw [hr] at hlt
    exact (Nat.le_div_iff_mul_le (Nat.pos_of_ne_zero hd)).mp hlt
  rw [Nat.add_mul, Nat.one_mul] at h1
  unfold mulFloor
  rw [Nat.div_lt_iff_lt_mul hD]
  omega

theorem reciprocal_eq_some {r q : FixedU128} :
    r.reciprocal = some q ↔ r.inner ≠ 0 ∧ q.inner = DIV * DIV / r.inner := by
  unfold reciprocal checkedDiv one
  split_ifs with h0 h1
  · simp [h0]
  · constructor
    · rintro ⟨⟩; exact ⟨h0, rfl⟩
    · rintro ⟨-, h⟩; cases q; simp only at h; subst h; rfl
  · simp only [false_iff, not_and]
    intro _ h; exact h1 (h ▸ q.inner_lt)

theorem saturatingMulInt_reciprocal_le {r q : FixedU128} (h : r.reciprocal = some q) (v : Nat) :
    r.saturatingMulInt (q.saturatingMulInt v) ≤ v := by
  obtain ⟨-, hq⟩ := reciprocal_eq_some.mp h
  have hD : 0 < DIV := by norm_num [DIV]
  have hqr : q.inner * r.inner ≤ DIV * DIV := hq ▸ Nat.div_mul_le_self _ _
  have hb : q.saturatingMulInt v ≤ q.inner * v / DIV := min_le_left _ _
  have hunits : r.inner * q.saturatingMulInt v ≤ DIV * v := by
    refine Nat.le_of_mul_le_mul_right ?_ hD
    calc r.inner * q.saturatingMulInt v * DIV ≤ r.inner * (q.inner * v / DIV * DIV) := by
          rw [Nat.mul_assoc]
          exact Nat.mul_le_mul_left _ (Nat.mul_le_mul_right _ hb)
      _ ≤ r.inner * (q.inner * v) := Nat.mul_le_mul_left _ (Nat.div_mul_le_self _ _)
      _ = q.inner * r.inner * v := by rw [Nat.mul_left_comm, Nat.mul_assoc]
      _ ≤ DIV * DIV * v := Nat.mul_le_mul_right _ hqr
      _ = DIV * v * DIV := Nat.mul_right_comm _ _ _
  calc r.saturatingMulInt (q.saturatingMulInt v) ≤ r.inner * q.saturatingMulInt v / DIV := min_le_left _ _
    _ ≤ DIV * v / DIV := Nat.div_le_div_right hunits
    _ = v := Nat.mul_div_cancel_left v hD

end FixedU128

/-! ## `U256` -/

namespace U256

/-- `U256::saturating_mul`. -/
def saturatingMul (a b : Nat) : Nat := min (a * b) (2 ^ 256 - 1)

/-- `U256::saturating_add`. -/
def saturatingAdd (a b : Nat) : Nat := min (a + b) (2 ^ 256 - 1)

/-- `U256::saturating_sub`. -/
def saturatingSub (a b : Nat) : Nat := a - b

/-- `U256::checked_div`. -/
def checkedDiv (a b : Nat) : Option Nat := if b = 0 then none else some (a / b)

/-- `U256::checked_add`. -/
def checkedAdd (a b : Nat) : Option Nat := if a + b < 2 ^ 256 then some (a + b) else none

/-- `U256::checked_mul`. -/
def checkedMul (a b : Nat) : Option Nat := if a * b < 2 ^ 256 then some (a * b) else none

/-- `TryInto::<u128>::try_into`. -/
def tryIntoBalance (a : Nat) : Option Nat := if a < 2 ^ 128 then some a else none

/-- `SaturatedConversion::saturated_into::<u128>`. -/
def saturatedInto (a : Nat) : Nat := min a (2 ^ 128 - 1)

theorem saturatingMul_comm (a b : Nat) : saturatingMul a b = saturatingMul b a := by
  simp [saturatingMul, Nat.mul_comm]

theorem saturatingMul_le (a b : Nat) : saturatingMul a b ≤ a * b := min_le_left _ _

theorem saturatingMul_eq {a b : Nat} (h : a * b < 2 ^ 256) : saturatingMul a b = a * b :=
  min_eq_left (by omega)

theorem saturatingAdd_eq {a b : Nat} (h : a + b < 2 ^ 256) : saturatingAdd a b = a + b :=
  min_eq_left (by omega)

theorem mul_lt_of_lt {a b : Nat} (ha : a < 2 ^ 128) (hb : b < 2 ^ 128) : a * b < 2 ^ 256 := calc
  a * b < 2 ^ 128 * 2 ^ 128 := Nat.mul_lt_mul'' ha hb
  _ = 2 ^ 256 := by norm_num

theorem saturatedInto_div_eq {a b d : Nat} (hmul : a * b < 2 ^ 256) (hdiv : a * b / d < 2 ^ 128) :
    saturatedInto ((checkedDiv (saturatingMul a b) d).getD 0) = a * b / d := by
  rw [saturatingMul_eq hmul]
  unfold checkedDiv saturatedInto
  split_ifs with hd
  · simp [hd]
  · simp only [Option.getD_some]
    omega

theorem tryIntoBalance_getD_ne_zero {m : Nat} (h : (tryIntoBalance m).getD 0 ≠ 0) :
    (tryIntoBalance m).getD 0 = m := by
  unfold tryIntoBalance at h ⊢
  split_ifs at h ⊢
  · rfl
  · exact absurd rfl h

theorem getD_bind_tryIntoBalance_lt (o : Option Nat) : (o.bind tryIntoBalance).getD 0 < 2 ^ 128 := by
  cases o with
  | none => simp
  | some m =>
      rw [Option.bind_some]
      unfold tryIntoBalance
      split_ifs with h
      · exact h
      · simp

theorem divIntoBalance_eq {n d : Nat} (h : n / d < 2 ^ 128) :
    ((checkedDiv n d).bind tryIntoBalance).getD 0 = n / d := by
  by_cases hd : d = 0
  · simp [checkedDiv, hd]
  · simp only [checkedDiv, hd, if_false, Option.bind_some, tryIntoBalance, if_pos h, Option.getD_some]

theorem divIntoBalance_ne_zero {n d : Nat} (h : ((checkedDiv n d).bind tryIntoBalance).getD 0 ≠ 0) :
    0 < d ∧ ((checkedDiv n d).bind tryIntoBalance).getD 0 = n / d := by
  by_cases hd : d = 0
  · simp [checkedDiv, hd] at h
  · have e : (checkedDiv n d).bind tryIntoBalance = tryIntoBalance (n / d) := by
      simp [checkedDiv, hd]
    rw [e] at h ⊢
    exact ⟨Nat.pos_of_ne_zero hd, tryIntoBalance_getD_ne_zero h⟩

theorem divSuccIntoBalance_ne_zero {n d : Nat}
    (h : (((checkedDiv n d).bind fun r => checkedAdd r 1).bind tryIntoBalance).getD 0 ≠ 0) :
    0 < d ∧ (((checkedDiv n d).bind fun r => checkedAdd r 1).bind tryIntoBalance).getD 0 =
      n / d + 1 := by
  by_cases hd : d = 0
  · simp [checkedDiv, hd] at h
  · have e : ((checkedDiv n d).bind fun r => checkedAdd r 1).bind tryIntoBalance =
        (checkedAdd (n / d) 1).bind tryIntoBalance := by
      simp [checkedDiv, hd]
    rw [e] at h ⊢
    unfold checkedAdd at h ⊢
    split_ifs at h ⊢
    · rw [Option.bind_some] at h ⊢
      exact ⟨Nat.pos_of_ne_zero hd, tryIntoBalance_getD_ne_zero h⟩
    · exact absurd rfl h

end U256

end Setheum
