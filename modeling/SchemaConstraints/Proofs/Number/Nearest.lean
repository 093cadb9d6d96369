import Mathlib.Tactic.ByContra
import Mathlib.Tactic.Ring
import Mathlib.Tactic.SplitIfs
import SchemaConstraints.Decimal.Shortest
import SchemaConstraints.Proofs.Number.Magnitude

set_option autoImplicit false

/-! # The interval that reads back

Every fraction in the interval around a number is rounded to the number (`nearestCode_of_readsBack`). Rounding
finds the exponent first: that of the number itself, except for what lies below a power of two, where neighbours
are half as far apart and rounding up carries into the exponent. -/

namespace SchemaConstraints

/-- What is less than half a unit away is rounded to, and what is half a unit away if it is even. -/
theorem roundDiv_eq {num den r : Nat} (hden : 0 < den) (hlow : 2 * (r * den) ≤ 2 * num + den)
    (hhigh : 2 * num ≤ 2 * (r * den) + den)
    (htie : r % 2 = 0 ∨ 2 * (r * den) < 2 * num + den ∧ 2 * num < 2 * (r * den) + den) :
    roundDiv num den = r := by
  have hnum : num / den * den + num % den = num := Nat.div_add_mod' num den
  have hrest : num % den < den := Nat.mod_lt num hden
  rw [roundDiv]
  generalize num / den = q at hnum
  generalize num % den = rest at hnum hrest
  have hle : q ≤ r := by
    by_contra hlt
    have := Nat.mul_le_mul_right den (Nat.lt_of_not_le hlt)
    rw [Nat.succ_mul] at this
    omega
  have hge : r ≤ q + 1 := by
    by_contra hlt
    have := Nat.mul_le_mul_right den (Nat.lt_of_not_le hlt)
    rw [Nat.succ_mul, Nat.add_one_mul] at this
    omega
  obtain rfl | rfl : r = q ∨ r = q + 1 := by omega
  · split_ifs <;> omega
  · have hsucc : (q + 1) * den = q * den + den := Nat.add_one_mul q den
    split_ifs <;> omega

namespace Binary64

variable {x : Binary64} {num den : Nat}

/-! ## Codes by exponent and significand -/

theorem significand_lt (x : Binary64) : x.significand < 2 * Nat.pow 2 52 := by
  have hfraction : x.fraction < Nat.pow 2 52 := Nat.mod_lt _ (two_pow_pos 52)
  rw [significand]
  split <;> omega

/-- The leading one of a significand counts as one more in the exponent. -/
theorem code_eq_ulpExponent (x : Binary64) : x.code = x.ulpExponent * Nat.pow 2 52 + x.significand := by
  rw [code_eq, significand, ulpExponent]
  split
  · simp_all
  · obtain ⟨e, he⟩ := Nat.exists_eq_succ_of_ne_zero ‹_›
    rw [he, Nat.succ_sub_one, Nat.succ_eq_add_one, Nat.mul_add_one, Nat.mul_comm]
    omega

/-- Rounding finds the exponent by the length of the quotient. -/
theorem nearestCode_eq {k r : Nat} (hk : k = 0 ∨ Nat.pow 2 (52 + k) ≤ num / den)
    (hlt : num / den < Nat.pow 2 (53 + k)) (hround : roundDiv num (den * Nat.pow 2 k) = r) :
    nearestCode num den = k * Nat.pow 2 52 + r := by
  have hlog : (num / den).log2 - 52 = k := by
    rcases hk with rfl | hk
    · have : (num / den).log2 < 53 ∨ num / den = 0 := by
        by_cases hzero : num / den = 0
        · exact .inr hzero
        · exact .inl ((Nat.log2_lt hzero).2 hlt)
      rcases this with h | h
      · omega
      · simp [h]
    · have hpos : num / den ≠ 0 := Nat.ne_of_gt (Nat.lt_of_lt_of_le (two_pow_pos _) hk)
      have hge := (Nat.le_log2 hpos).2 hk
      have hle := (Nat.log2_lt hpos).2 hlt
      omega
  simp only [nearestCode, hlog, hround]

/-! ## The interval -/

theorem readsBack_iff : Decimal.readsBack x num den = true ↔
    Decimal.lowerEnd x * den ≤ num ∧ num ≤ Decimal.upperEnd x * den ∧
      (x.code % 2 = 0 ∨ Decimal.lowerEnd x * den < num ∧ num < Decimal.upperEnd x * den) := by
  rw [Decimal.readsBack]
  split_ifs with heven
  · simp [heven]
  · simp only [Bool.and_eq_true, decide_eq_true_eq, heven, false_or]
    omega

variable {step : Nat}

/-- A fraction that reads back is at most half a step away. -/
theorem bounds_of_readsBack (h : Decimal.readsBack x (4 * num) den = true)
    (hstep : den * Nat.pow 2 x.ulpExponent = step) :
    2 * (x.significand * step) ≤ 2 * num + step ∧ 2 * num ≤ 2 * (x.significand * step) + step ∧
      (x.significand % 2 = 0 ∨
        2 * (x.significand * step) < 2 * num + step ∧ 2 * num < 2 * (x.significand * step) + step) := by
  have hcode : x.code % 2 = x.significand % 2 := by
    rw [code_eq_ulpExponent, Nat.pow_eq]
    omega
  have hunits : Decimal.quarters x * den = 4 * (x.significand * step) := by
    rw [Decimal.quarters, units, ← hstep]
    ring
  have hbelow : 4 * (x.significand * step) ≤ Decimal.lowerEnd x * den + 2 * step := by
    rw [← hunits, ← Nat.sub_le_iff_le_add, Decimal.lowerEnd, Nat.sub_mul, ← hstep]
    refine Nat.sub_le_sub_left ?_ _
    rw [Nat.mul_assoc, Nat.mul_comm den]
    split
    · exact Nat.mul_le_mul_right _ (Nat.le_succ 1)
    · exact Nat.le_refl _
  have habove : Decimal.upperEnd x * den = 4 * (x.significand * step) + 2 * step := by
    rw [Decimal.upperEnd, Nat.add_mul, hunits, ← hstep]
    ring
  rw [readsBack_iff, habove, hcode] at h
  omega

/-- Below a power of two it is at most a quarter of a step away. -/
theorem bound_of_narrowBelow (h : Decimal.readsBack x (4 * num) den = true)
    (hstep : den * Nat.pow 2 x.ulpExponent = step) (hnarrow : Decimal.narrowBelow x = true) :
    4 * (x.significand * step) ≤ 4 * num + step := by
  have hlow := (readsBack_iff.1 h).1
  rw [Decimal.lowerEnd, if_pos hnarrow, Nat.one_mul, Nat.sub_mul, Decimal.quarters, units,
    Nat.mul_comm (Nat.pow 2 _), hstep] at hlow
  have hunits : 4 * (x.significand * Nat.pow 2 x.ulpExponent) * den = 4 * (x.significand * step) := by
    rw [← hstep]
    ring
  omega

/-! ## Rounding inside the interval -/

/-- The quotient has at most 53 digits before the steps of the number. -/
theorem quotient_lt_of_readsBack (hden : 0 < den) (h : Decimal.readsBack x (4 * num) den = true) :
    num / den < Nat.pow 2 (53 + x.ulpExponent) := by
  obtain ⟨step, hstep⟩ : ∃ step, den * Nat.pow 2 x.ulpExponent = step := ⟨_, rfl⟩
  have hhigh := (bounds_of_readsBack h hstep).2.1
  have hpos : 0 < step := hstep ▸ Nat.mul_pos hden (two_pow_pos _)
  have hsignificand : (x.significand + 1) * step ≤ Nat.pow 2 53 * step := Nat.mul_le_mul_right _ x.significand_lt
  rw [Nat.div_lt_iff_lt_mul hden, two_pow_add, Nat.mul_assoc, Nat.mul_comm _ den, hstep]
  rw [Nat.add_one_mul] at hsignificand
  omega

/-- A number with a fraction below its own exponent in its interval is a power of two. -/
theorem significand_eq_of_below (h : Decimal.readsBack x (4 * num) den = true) (hexponent : x.ulpExponent ≠ 0)
    (hbelow : num < Nat.pow 2 52 * (den * Nat.pow 2 x.ulpExponent)) :
    x.significand = Nat.pow 2 52 ∧ Decimal.narrowBelow x = true := by
  have hlow := (bounds_of_readsBack h rfl).1
  have hfield : 1 < x.exponentField := by
    rw [ulpExponent] at hexponent
    omega
  have hsignificand : x.significand = Nat.pow 2 52 + x.fraction := if_neg (Nat.ne_of_gt (Nat.lt_trans one_pos hfield))
  have hfraction : x.fraction = 0 := by
    by_contra hne
    have hle := Nat.mul_le_mul_right (den * Nat.pow 2 x.ulpExponent)
      (Nat.add_le_add_left (Nat.one_le_iff_ne_zero.2 hne) (Nat.pow 2 52))
    rw [hsignificand] at hlow
    rw [Nat.add_one_mul] at hle
    omega
  refine ⟨by rw [hsignificand, hfraction], ?_⟩
  simp [Decimal.narrowBelow, hfraction, hfield]

/-- Below a power of two, steps are half as long and rounding up carries into the exponent. -/
theorem nearestCode_of_below {k : Nat} (hden : 0 < den) (hbelow : num < Nat.pow 2 52 * (den * Nat.pow 2 (k + 1)))
    (hlow : 4 * (Nat.pow 2 52 * (den * Nat.pow 2 (k + 1))) ≤ 4 * num + den * Nat.pow 2 (k + 1)) :
    nearestCode num den = (k + 1) * Nat.pow 2 52 + Nat.pow 2 52 := by
  obtain ⟨half, hhalf⟩ : ∃ half, den * Nat.pow 2 k = half := ⟨_, rfl⟩
  have hpos : 0 < half := hhalf ▸ Nat.mul_pos hden (two_pow_pos _)
  have hstep : den * Nat.pow 2 (k + 1) = 2 * half := by
    rw [← hhalf, Nat.mul_left_comm, Nat.mul_comm 2]
    rfl
  have hsignificand : half ≤ Nat.pow 2 52 * half := Nat.le_mul_of_pos_left half (two_pow_pos 52)
  rw [hstep, Nat.mul_left_comm (Nat.pow 2 52) 2 half] at hlow hbelow
  have hround : roundDiv num half = 2 * Nat.pow 2 52 := by
    refine roundDiv_eq hpos ?_ ?_ (.inl (Nat.mul_mod_right _ _)) <;> rw [Nat.mul_assoc] <;> omega
  have hge : Nat.pow 2 (52 + k) ≤ num / den := by
    rw [Nat.le_div_iff_mul_le hden, two_pow_add, Nat.mul_assoc, Nat.mul_comm _ den, hhalf]
    omega
  have hlt : num / den < Nat.pow 2 (53 + k) := by
    have hdouble : Nat.pow 2 53 = 2 * Nat.pow 2 52 := rfl
    rw [Nat.div_lt_iff_lt_mul hden, two_pow_add, Nat.mul_assoc, Nat.mul_comm _ den, hhalf, hdouble, Nat.mul_assoc]
    exact hbelow
  have hcarry : (k + 1) * Nat.pow 2 52 = k * Nat.pow 2 52 + Nat.pow 2 52 := Nat.add_one_mul k _
  exact (nearestCode_eq (.inr hge) hlt (hhalf ▸ hround)).trans (by omega)

/-- **A fraction in the interval around a number is rounded to the number.** -/
theorem nearestCode_of_readsBack (hden : 0 < den) (h : Decimal.readsBack x (4 * num) den = true) :
    nearestCode num den = x.code := by
  rw [code_eq_ulpExponent]
  by_cases hbinade : x.ulpExponent = 0 ∨ Nat.pow 2 (52 + x.ulpExponent) ≤ num / den
  · obtain ⟨hlow, hhigh, htie⟩ := bounds_of_readsBack h rfl
    exact nearestCode_eq hbinade (quotient_lt_of_readsBack hden h)
      (roundDiv_eq (Nat.mul_pos hden (two_pow_pos _)) hlow hhigh htie)
  · obtain ⟨hexponent, hbelow⟩ := not_or.1 hbinade
    rw [Nat.not_le, Nat.div_lt_iff_lt_mul hden, two_pow_add, Nat.mul_assoc, Nat.mul_comm _ den] at hbelow
    obtain ⟨hsignificand, hnarrow⟩ := significand_eq_of_below h hexponent hbelow
    have hlow := bound_of_narrowBelow h rfl hnarrow
    obtain ⟨k, hk⟩ := Nat.exists_eq_succ_of_ne_zero hexponent
    rw [hk] at hbelow hlow ⊢
    rw [hsignificand] at hlow ⊢
    exact nearestCode_of_below hden hbelow hlow

end Binary64

end SchemaConstraints
