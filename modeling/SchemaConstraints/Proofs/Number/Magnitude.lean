import SchemaConstraints.Binary64.Round

set_option autoImplicit false

/-! # Magnitudes

The units of a double-precision number grow strictly with its code, across all changes of the exponent: the
numbers of one exponent lie below all numbers of the next one. So zero is the only number without units, and
rounding, which computes a code, gives zero only for zero. -/

namespace SchemaConstraints

namespace Binary64

variable {x y : Binary64}

/-! ## Powers of two -/

theorem two_pow_pos (e : Nat) : 0 < Nat.pow 2 e := Nat.two_pow_pos e

theorem two_pow_add (m n : Nat) : Nat.pow 2 (m + n) = Nat.pow 2 m * Nat.pow 2 n := Nat.pow_add 2 m n

theorem two_pow_le {m n : Nat} (h : m ≤ n) : Nat.pow 2 m ≤ Nat.pow 2 n := Nat.pow_le_pow_right (by decide) h

/-! ## The fields of a code -/

theorem code_eq (x : Binary64) : x.code = Nat.pow 2 52 * x.exponentField + x.fraction :=
  (Nat.div_add_mod x.code (Nat.pow 2 52)).symm

theorem exponentField_eq {e f : Nat} (hf : f < Nat.pow 2 52) (h : x.code = Nat.pow 2 52 * e + f) :
    x.exponentField = e := by
  rw [exponentField, h, Nat.mul_add_div (two_pow_pos 52), Nat.div_eq_of_lt hf, Nat.add_zero]

theorem fraction_eq {e f : Nat} (hf : f < Nat.pow 2 52) (h : x.code = Nat.pow 2 52 * e + f) : x.fraction = f := by
  rw [fraction, h, Nat.mul_add_mod, Nat.mod_eq_of_lt hf]

/-! ## Units grow with the code -/

/-- Numbers lie below the first number of the next exponent. -/
theorem units_lt (x : Binary64) : x.units < Nat.pow 2 52 * Nat.pow 2 x.exponentField := by
  have hfraction : x.fraction < Nat.pow 2 52 := Nat.mod_lt _ (two_pow_pos 52)
  rw [units, significand, ulpExponent]
  cases x.exponentField with
  | zero => simpa using hfraction
  | succ e =>
    have hpow : Nat.pow 2 (e + 1) = Nat.pow 2 e * 2 := rfl
    rw [if_neg (Nat.succ_ne_zero e), Nat.add_sub_cancel, hpow, ← Nat.mul_assoc, Nat.mul_right_comm]
    refine Nat.mul_lt_mul_of_pos_right ?_ (two_pow_pos e)
    rw [Nat.mul_two]
    exact Nat.add_lt_add_left hfraction _

/-- Numbers whose exponent is not zero lie at least as high as the first number of it. -/
theorem le_units (x : Binary64) (h : x.exponentField ≠ 0) :
    Nat.pow 2 52 * Nat.pow 2 (x.exponentField - 1) ≤ x.units := by
  rw [units, significand, ulpExponent, if_neg h]
  exact Nat.mul_le_mul_right _ (Nat.le_add_right _ _)

theorem units_lt_of_code_lt (h : x.code < y.code) : x.units < y.units := by
  have hexponent : x.exponentField ≤ y.exponentField := Nat.div_le_div_right (Nat.le_of_lt h)
  rcases Nat.lt_or_eq_of_le hexponent with hlt | heq
  · have hpow : Nat.pow 2 x.exponentField ≤ Nat.pow 2 (y.exponentField - 1) :=
      two_pow_le (Nat.le_sub_one_of_lt hlt)
    calc
      x.units < Nat.pow 2 52 * Nat.pow 2 x.exponentField := x.units_lt
      _ ≤ Nat.pow 2 52 * Nat.pow 2 (y.exponentField - 1) := Nat.mul_le_mul_left _ hpow
      _ ≤ y.units := y.le_units (Nat.ne_of_gt (Nat.zero_lt_of_lt hlt))
  · -- of one exponent, the greater code has the greater fraction
    have hfraction : x.fraction < y.fraction := by
      rw [x.code_eq, y.code_eq, heq] at h
      exact Nat.lt_of_add_lt_add_left h
    rw [units, units, ulpExponent, ulpExponent, heq]
    refine Nat.mul_lt_mul_of_pos_right ?_ (two_pow_pos _)
    rw [significand, significand, heq]
    split <;> omega

theorem units_pos (h : x.code ≠ 0) : 0 < x.units :=
  Nat.lt_of_le_of_lt (Nat.zero_le zero.units) (units_lt_of_code_lt (Nat.pos_of_ne_zero h))

theorem code_eq_of_units_eq (h : x.units = y.units) : x.code = y.code := by
  rcases Nat.lt_trichotomy x.code y.code with hlt | heq | hgt
  · exact absurd h (Nat.ne_of_lt (units_lt_of_code_lt hlt))
  · exact heq
  · exact absurd h (Nat.ne_of_gt (units_lt_of_code_lt hgt))

theorem isZero_of_units_eq_zero (h : x.units = 0) : x.isZero = true := by
  have hzero : x.code = zero.code := code_eq_of_units_eq (h.trans (by decide))
  rw [isZero, hzero]
  rfl

/-! ## Rounding gives numbers -/

theorem isNaN_ofCode (negative : Bool) (code : Nat) : (ofCode negative code).isNaN = false :=
  decide_eq_false (Nat.not_lt.2 (Nat.min_le_right _ _))

theorem isNaN_ofUnits (negative : Bool) (num den : Nat) : (ofUnits negative num den).isNaN = false :=
  isNaN_ofCode _ _

/-- No whole number of units is rounded down to zero. -/
theorem nearestCode_one_eq_zero_iff {n : Nat} : nearestCode n 1 = 0 ↔ n = 0 := by
  constructor
  · intro h
    rw [nearestCode, Nat.div_one, Nat.one_mul, Nat.add_eq_zero_iff, Nat.mul_eq_zero] at h
    -- up to 52 binary digits are a code themselves, and any more carry into the exponent
    have hdigits : n.log2 - 52 = 0 := h.1.resolve_right (Nat.ne_of_gt (two_pow_pos 52))
    have hround : roundDiv n (Nat.pow 2 0) = n := by simp [roundDiv, Nat.mod_one]
    rw [hdigits, hround] at h
    exact h.2
  · rintro rfl
    decide

theorem code_ofUnits_one_eq_zero_iff {negative : Bool} {n : Nat} : (ofUnits negative n 1).code = 0 ↔ n = 0 := by
  have hinfinity : infinityCode ≠ 0 := by decide
  rw [← @nearestCode_one_eq_zero_iff n, ofUnits, ofCode, Nat.min_eq_zero_iff]
  exact or_iff_left hinfinity

end Binary64

end SchemaConstraints
