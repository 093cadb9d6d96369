import Mathlib.Algebra.Order.Group.Unbundled.Int
import Mathlib.Algebra.Order.Ring.Int
import Mathlib.Order.Compare
import SchemaConstraints.Number
import SchemaConstraints.Proofs.Number.Magnitude

set_option autoImplicit false

/-! # Comparison in machine operations is exact

Truncation clears the bits behind the point and nothing else, so the whole part of a number is the integer
quotient of its units, and it fits into 64 bits between the limits. The difference of a number and its whole
part may be rounded, but never to zero, so its sign is right. Comparing whole parts first and the sign of the
rest second is therefore comparing the points that the two numbers stand for (`Number.compare?_eq`). -/

namespace SchemaConstraints

namespace Binary64

variable {x y : Binary64}

/-! ## The number one in units -/

theorem unitsOfOne_eq {e : Nat} (h : 1074 = e) : unitsOfOne = Nat.pow 2 e := by
  cases h
  decide +kernel

theorem two_pow_le_unitsOfOne {e : Nat} (h : e ≤ 1074) : Nat.pow 2 e ≤ unitsOfOne := by
  obtain ⟨k, hk⟩ := Nat.exists_eq_add_of_le h
  rw [unitsOfOne_eq hk]
  exact two_pow_le (Nat.le_add_right e k)

theorem unitsOfOne_dvd {e : Nat} (h : 1074 ≤ e) : unitsOfOne ∣ Nat.pow 2 e := by
  generalize hplaces : 1074 = places at h
  rw [unitsOfOne_eq hplaces]
  exact Nat.pow_dvd_pow 2 h

theorem unitsOfOne_pos : 0 < unitsOfOne :=
  Nat.lt_of_lt_of_le (two_pow_pos 0) (two_pow_le_unitsOfOne (Nat.zero_le _))

/-! ## Truncation -/

/-- Whole multiples of the divisor come through rounding down. -/
theorem mul_add_div_mul {d : Nat} (hd : 0 < d) (q r : Nat) : (d * q + r) / d * d = d * q + r / d * d := by
  rw [Nat.mul_add_div hd, Nat.add_mul, Nat.mul_comm q d]

/-- Rounding down in portions of `d` clears the last digits of a multiple of `u`, where `c` of these are one portion
    or each of them is whole. -/
theorem mul_div_mul_eq {s c u d : Nat} (hu : 0 < u) (hd : 0 < d) (h : d = c * u ∨ c = 1 ∧ d ∣ u) :
    s * u / d * d = s / c * c * u := by
  rcases h with rfl | ⟨rfl, m, rfl⟩
  · rw [Nat.mul_div_mul_right _ _ hu, Nat.mul_assoc]
  · rw [Nat.mul_left_comm, Nat.mul_div_cancel_left _ hd, Nat.div_one, Nat.mul_one, Nat.mul_comm d, Nat.mul_assoc,
      Nat.mul_comm m]

/-- Clearing bits that lie in the fraction clears the same bits of the significand. -/
theorem units_of_cleared {k : Nat} (hk : k ≤ 52) (he : x.exponentField ≠ 0)
    (h : y.code = x.code / Nat.pow 2 k * Nat.pow 2 k) :
    y.units = x.significand / Nat.pow 2 k * Nat.pow 2 k * Nat.pow 2 x.ulpExponent := by
  have hsplit : Nat.pow 2 52 = Nat.pow 2 k * Nat.pow 2 (52 - k) := by rw [← two_pow_add, Nat.add_sub_cancel' hk]
  have hfraction : x.fraction / Nat.pow 2 k * Nat.pow 2 k < Nat.pow 2 52 :=
    Nat.lt_of_le_of_lt (Nat.div_mul_le_self _ _) (Nat.mod_lt _ (two_pow_pos 52))
  have hcode : y.code = Nat.pow 2 52 * x.exponentField + x.fraction / Nat.pow 2 k * Nat.pow 2 k := by
    rw [h, code_eq x, hsplit, Nat.mul_assoc, mul_add_div_mul (two_pow_pos k)]
  rw [units, significand, significand, ulpExponent, ulpExponent, exponentField_eq hfraction hcode, if_neg he, if_neg he,
    fraction_eq hfraction hcode, hsplit, mul_add_div_mul (two_pow_pos k)]

/-- The whole part of a number has as many units as fit into it in portions of one. -/
theorem units_truncate (x : Binary64) : x.truncate.units = x.units / unitsOfOne * unitsOfOne := by
  by_cases hone : x.exponentField < oneExponent
  · have hlt : x.units < unitsOfOne := by
      refine Nat.lt_of_lt_of_le x.units_lt ?_
      rw [← two_pow_add]
      exact two_pow_le_unitsOfOne (Nat.add_le_add_left (Nat.le_of_lt_succ hone) 52)
    rw [truncate, if_pos hone, Nat.div_eq_of_lt hlt, Nat.zero_mul]
    simp [units, significand, exponentField, fraction]
  · have hcode : 1023 ≤ x.exponentField := Nat.not_lt.1 hone
    have hexponent : x.exponentField ≠ 0 := Nat.ne_of_gt (Nat.lt_of_lt_of_le (by decide) hcode)
    have hcleared : wholeExponent - x.exponentField ≤ 52 := by
      rw [wholeExponent]
      omega
    rw [truncate, if_neg hone, units_of_cleared hcleared hexponent rfl, units]
    refine (mul_div_mul_eq (two_pow_pos _) unitsOfOne_pos ?_).symm
    rw [ulpExponent]
    rcases Nat.le_total x.exponentField 1075 with hle | hge
    · -- the lowest bit that stays stands for one
      left
      rw [← two_pow_add]
      exact unitsOfOne_eq (by rw [wholeExponent]; omega)
    · -- no bit is cleared, as the number is whole
      right
      exact ⟨congrArg (Nat.pow 2) (Nat.sub_eq_zero_of_le hge), unitsOfOne_dvd (by omega)⟩

@[simp] theorem negative_truncate (x : Binary64) : x.truncate.negative = x.negative := by
  rw [truncate]
  split <;> rfl

theorem signedUnits_truncate (x : Binary64) :
    x.truncate.signedUnits = x.signedUnits.tdiv unitsOfOne * unitsOfOne := by
  rw [signedUnits, signedUnits, negative_truncate, units_truncate, Int.natCast_mul, Int.ofNat_tdiv]
  split
  · rw [Int.neg_tdiv, Int.neg_mul]
  · rfl

theorem code_truncate_le (x : Binary64) : x.truncate.code ≤ x.code := by
  rw [truncate]
  split
  · exact Nat.zero_le _
  · exact Nat.div_mul_le_self _ _

/-! ## Finite numbers -/

theorem isFinite_iff : x.isFinite = true ↔ x.isNaN = false ∧ x.isInfinite = false := by
  simp only [isFinite, isNaN, isInfinite, decide_eq_true_eq, decide_eq_false_iff_not, beq_eq_false_iff_ne]
  omega

theorem isFinite_truncate (h : x.isFinite = true) : x.truncate.isFinite = true :=
  decide_eq_true (Nat.lt_of_le_of_lt x.code_truncate_le (of_decide_eq_true h))

theorem point?_of_isFinite (h : x.isFinite = true) : x.point? = some (.units x.signedUnits) := by
  obtain ⟨hnan, hinfinite⟩ := isFinite_iff.1 h
  rw [point?, hnan, hinfinite]
  rfl

theorem compare?_of_points {p q : LinePoint} (hx : x.point? = some p) (hy : y.point? = some q) :
    x.compare? y = some (p.compare q) := by
  rw [compare?, hx, hy]
  rfl

/-! ## Whole parts as 64-bit integers -/

/-- Between the limits a number has its whole part among the 64-bit integers. -/
theorem toInt_toInt64_truncate (h : x.isFinite = true) (hlow : -2 ^ 63 * (unitsOfOne : Int) ≤ x.signedUnits)
    (hhigh : x.signedUnits < 2 ^ 63 * (unitsOfOne : Int)) :
    x.truncate.toInt64.toInt = x.signedUnits.tdiv unitsOfOne := by
  have hone : (0 : Int) < unitsOfOne := Int.natCast_pos.2 unitsOfOne_pos
  have hmin : -2 ^ 63 ≤ x.signedUnits.tdiv unitsOfOne := by
    have := Int.tdiv_le_tdiv hone hlow
    rwa [Int.mul_tdiv_cancel _ (Int.ne_of_gt hone)] at this
  have hmax : x.signedUnits.tdiv unitsOfOne < 2 ^ 63 := by
    rcases Int.le_total 0 x.signedUnits with hnonneg | hnonpos
    · rw [Int.tdiv_eq_ediv_of_nonneg hnonneg]
      exact Int.ediv_lt_of_lt_mul hone hhigh
    · have := Int.tdiv_le_tdiv hone hnonpos
      rw [Int.zero_tdiv] at this
      exact Int.lt_of_le_of_lt this (by decide)
  rw [toInt64, point?_of_isFinite (isFinite_truncate h), signedUnits_truncate]
  dsimp only
  rw [Int.mul_tdiv_cancel _ (Int.ne_of_gt hone)]
  exact Int64.toInt_ofIntClamp hmin (Int.le_of_lt_add_one hmax)

/-! ## The sign of a difference -/

/-- Zero is compared with a number by the sign of that number alone. -/
theorem zero_compare? (h : x.isNaN = false) :
    zero.compare? x = some (if x.code = 0 then .eq else if x.negative then .gt else .lt) := by
  have hzero : zero.point? = some (.units 0) := by decide
  rw [compare?, hzero, point?, h, if_neg Bool.false_ne_true]
  by_cases hcode : x.code = 0
  · have hunits : x.signedUnits = 0 := by simp [signedUnits, units, significand, exponentField, fraction, hcode]
    have hinfinite : x.isInfinite = false := by simp [isInfinite, hcode, infinityCode]
    rw [if_pos hcode, hinfinite, if_neg Bool.false_ne_true, hunits]
    rfl
  · have hunits := units_pos hcode
    rw [if_neg hcode]
    by_cases hinfinite : x.isInfinite = true
    · rw [if_pos hinfinite]
      cases x.negative <;> rfl
    · rw [if_neg hinfinite, signedUnits]
      cases x.negative
      · exact congrArg some (Int.compare_eq_lt.2 (Int.natCast_pos.2 hunits))
      · exact congrArg some (Int.compare_eq_gt.2 (Int.neg_neg_of_pos (Int.natCast_pos.2 hunits)))

/-- A difference may be rounded, but its sign is right. -/
theorem zero_compare?_sub (hx : x.isFinite = true) (hy : y.isFinite = true) :
    zero.compare? (x.sub y) = some (Ord.compare 0 (x.signedUnits - y.signedUnits)) := by
  obtain ⟨hnanx, hinfinitex⟩ := isFinite_iff.1 hx
  obtain ⟨hnany, hinfinitey⟩ := isFinite_iff.1 hy
  rw [sub, hnanx, hnany, hinfinitex, hinfinitey]
  simp only [Bool.or_self, Bool.false_eq_true, if_false]
  generalize x.signedUnits - y.signedUnits = difference
  rw [zero_compare? (isNaN_ofUnits _ _ _)]
  simp only [code_ofUnits_one_eq_zero_iff, Int.natAbs_eq_zero]
  rcases lt_trichotomy difference 0 with hneg | rfl | hpos
  · rw [if_neg (Int.ne_of_lt hneg), Int.compare_eq_gt.2 hneg]
    simp [ofUnits, ofCode, hneg, Int.ne_of_lt hneg]
  · rfl
  · rw [if_neg (Int.ne_of_gt hpos), Int.compare_eq_lt.2 hpos]
    simp [ofUnits, ofCode, Int.not_lt.2 (Int.le_of_lt hpos), Int.ne_of_gt hpos]

end Binary64

/-! ## Comparison of points -/

theorem LinePoint.compare_swap (p q : LinePoint) : (p.compare q).swap = q.compare p := by
  cases p <;> cases q <;> simp [compare, Int.compare_swap]

namespace Number

variable {x : Binary64}

theorem compare_add_right (n r : Int) : Ord.compare n (n + r) = Ord.compare 0 r := by
  rcases lt_trichotomy 0 r with hlt | rfl | hgt
  · rw [Int.compare_eq_lt.2 hlt, Int.compare_eq_lt.2 (by omega)]
  · rw [Int.add_zero, compare_eq_iff_eq.2 rfl, compare_eq_iff_eq.2 rfl]
  · rw [Int.compare_eq_gt.2 hgt, Int.compare_eq_gt.2 (by omega)]

/-- A multiple of `d` is compared with a number by the multiples first, and by what is left of the number second. -/
theorem compare_mul_add {n q r d : Int} (hlow : -d < r) (hhigh : r < d) :
    Ord.compare (n * d) (q * d + r) = (Ord.compare n q).then (Ord.compare 0 r) := by
  rcases lt_trichotomy n q with hlt | rfl | hgt
  · have hmul : (n + 1) * d ≤ q * d := Int.mul_le_mul_of_nonneg_right hlt (by omega)
    rw [Int.add_mul, Int.one_mul] at hmul
    rw [Int.compare_eq_lt.2 hlt, Int.compare_eq_lt.2 (by omega)]
    rfl
  · rw [compare_add_right, compare_eq_iff_eq.2 (Eq.refl n)]
    rfl
  · have hmul : (q + 1) * d ≤ n * d := Int.mul_le_mul_of_nonneg_right hgt (by omega)
    rw [Int.add_mul, Int.one_mul] at hmul
    rw [Int.compare_eq_gt.2 hgt, Int.compare_eq_gt.2 (by omega)]
    rfl

open Binary64

theorem point?_int64Limit : int64Limit.point? = some (.units (2 ^ 63 * unitsOfOne)) := by decide +kernel

theorem point?_neg_int64Limit : int64Limit.neg.point? = some (.units (-2 ^ 63 * unitsOfOne)) := by decide +kernel

/-- Comparing whole parts first and the sign of the rest second is comparing the units. -/
theorem compareIntFloat?_of_isFinite (n : Int64) (h : x.isFinite = true) :
    compareIntFloat? n x = some (Ord.compare (n.toInt * unitsOfOne) x.signedUnits) := by
  have hone : (0 : Int) < unitsOfOne := Int.natCast_pos.2 unitsOfOne_pos
  have hmin : -2 ^ 63 * (unitsOfOne : Int) ≤ n.toInt * unitsOfOne :=
    Int.mul_le_mul_of_nonneg_right n.le_toInt (Int.le_of_lt hone)
  have hmax : n.toInt * unitsOfOne < 2 ^ 63 * (unitsOfOne : Int) := Int.mul_lt_mul_of_pos_right n.toInt_lt hone
  rw [compareIntFloat?, (isFinite_iff.1 h).1, compare?_of_points (point?_of_isFinite h) point?_int64Limit,
    compare?_of_points (point?_of_isFinite h) point?_neg_int64Limit, if_neg Bool.false_ne_true, Option.any_some,
    Option.any_some, LinePoint.compare, LinePoint.compare]
  by_cases habove : 2 ^ 63 * (unitsOfOne : Int) ≤ x.signedUnits
  · rw [if_pos (Int.isGE_compare.2 habove), Int.compare_eq_lt.2 (Int.lt_of_lt_of_le hmax habove)]
  · rw [if_neg (mt Int.isGE_compare.1 habove)]
    by_cases hbelow : x.signedUnits < -2 ^ 63 * (unitsOfOne : Int)
    · rw [Int.compare_eq_lt.2 hbelow, Int.compare_eq_gt.2 (Int.lt_of_lt_of_le hbelow hmin)]
      rfl
    · -- between the limits the whole part is a 64-bit integer, and the rest is smaller than one
      have hlow := Int.not_lt.1 hbelow
      have hwhole := toInt_toInt64_truncate h hlow (Int.not_le.1 habove)
      have hrest : x.signedUnits - x.truncate.signedUnits = x.signedUnits.tmod unitsOfOne := by
        rw [signedUnits_truncate]
        exact Int.sub_eq_iff_eq_add'.2 (Int.tdiv_mul_add_tmod _ _).symm
      have hunits := @compare_mul_add n.toInt (x.signedUnits.tdiv unitsOfOne) (x.signedUnits.tmod unitsOfOne) unitsOfOne
        (Int.lt_tmod_of_pos _ hone) (Int.tmod_lt_of_pos _ hone)
      rw [Int.tdiv_mul_add_tmod] at hunits
      rw [if_neg (by rw [Ordering.isLT_iff_eq_lt, Int.compare_eq_lt]; exact hbelow), hwhole,
        zero_compare?_sub h (isFinite_truncate h), hrest, hunits]
      cases Ord.compare n.toInt (x.signedUnits.tdiv unitsOfOne) <;> rfl

/-- An integer is compared with a floating-point number as the points are that they stand for. -/
theorem compareIntFloat?_eq (n : Int64) (x : Binary64) :
    compareIntFloat? n x = x.point?.map (LinePoint.units (n.toInt * unitsOfOne)).compare := by
  cases hnan : x.isNaN with
  | true => rw [compareIntFloat?, Binary64.point?, if_pos hnan, if_pos hnan, Option.map_none]
  | false =>
    cases hinfinite : x.isInfinite with
    | true =>
      have hpoint : x.point? = some (if x.negative then .bottom else .top) := by
        rw [Binary64.point?, hnan, hinfinite]
        rfl
      rw [compareIntFloat?, hnan, compare?_of_points hpoint point?_int64Limit,
        compare?_of_points hpoint point?_neg_int64Limit, hpoint]
      cases x.negative <;> rfl
    | false =>
      have hfinite : x.isFinite = true := isFinite_iff.2 ⟨hnan, hinfinite⟩
      rw [compareIntFloat?_of_isFinite n hfinite, point?_of_isFinite hfinite]
      rfl

/-- **Comparison in machine operations is comparison of points.** -/
theorem compare?_eq (a b : Number) : a.compare? b = do return (← a.point?).compare (← b.point?) := by
  cases a with
  | int m =>
    cases b with
    | int n =>
      have hone : (0 : Int) < unitsOfOne := Int.natCast_pos.2 unitsOfOne_pos
      have hscale := @compare_mul_add m.toInt n.toInt 0 unitsOfOne (Int.neg_neg_of_pos hone) hone
      rw [Int.add_zero, compare_eq_iff_eq.2 (Eq.refl (0 : Int)), Ordering.then_eq] at hscale
      exact congrArg some hscale.symm
    | float y =>
      rw [compare?, compareIntFloat?_eq, point?, point?]
      cases y.point? <;> rfl
  | float x =>
    cases b with
    | int n =>
      rw [compare?, compareIntFloat?_eq, point?, point?]
      cases x.point? with
      | none => rfl
      | some p => exact congrArg some (LinePoint.compare_swap _ p)
    | float y => rfl

end Number

end SchemaConstraints
