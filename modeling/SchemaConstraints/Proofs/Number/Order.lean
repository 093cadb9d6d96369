import Mathlib.Data.Int.Order.Basic
import Mathlib.Order.Compare
import Mathlib.Order.WithBot
import SchemaConstraints.Proofs.Number.Whole

set_option autoImplicit false

/-! # The order of numbers

The points of the line are a linear order, and the comparisons of numbers are this order read through
`Number.point?`: a comparison holds only of two numbers that have a point, which leaves out NaN. Chains of
comparisons across integers and floating-point numbers are therefore chains in one linear order. -/

namespace SchemaConstraints

/-! ## The line as a linear order -/

namespace LinePoint

/-- A point as an integer with both infinities added. -/
def toExtended : LinePoint → WithBot (WithTop Int)
  | .bottom => ⊥
  | .units n => ((n : WithTop Int) : WithBot (WithTop Int))
  | .top => ((⊤ : WithTop Int) : WithBot (WithTop Int))

theorem toExtended_injective : Function.Injective toExtended := by
  intro p q h
  cases p <;> cases q <;> simp_all [toExtended]

instance : LinearOrder LinePoint := LinearOrder.lift' toExtended toExtended_injective

theorem compare_eq_lt_iff {p q : LinePoint} : p.compare q = .lt ↔ p < q := by
  -- the order of points is that of their images
  change p.compare q = .lt ↔ p.toExtended < q.toExtended
  cases p <;> cases q <;>
    simp [LinePoint.compare, toExtended, compare_lt_iff_lt, WithTop.coe_lt_top, -WithBot.coe_top]

theorem compare_eq_eq_iff {p q : LinePoint} : p.compare q = .eq ↔ p = q := by
  cases p <;> cases q <;> simp [LinePoint.compare]

theorem units_le_iff {m n : Int} : units m ≤ units n ↔ m ≤ n := by
  rw [← not_lt, ← compare_eq_lt_iff, compare, compare_lt_iff_lt, Int.not_lt]

theorem units_le_top (n : Int) : units n ≤ top := by
  rw [← not_lt, ← compare_eq_lt_iff]
  simp [compare]

theorem bottom_lt_units (n : Int) : bottom < units n := by
  rw [← compare_eq_lt_iff]
  rfl

end LinePoint

/-! ## Comparisons of numbers -/

namespace Number

theorem less_iff {a b : Number} :
    a.less b = true ↔ ∃ p q, a.point? = some p ∧ b.point? = some q ∧ p < q := by
  rw [less, compare?_eq]
  cases a.point? <;> cases b.point? <;> simp [LinePoint.compare_eq_lt_iff]

theorem atMost_iff {a b : Number} :
    a.atMost b = true ↔ ∃ p q, a.point? = some p ∧ b.point? = some q ∧ p ≤ q := by
  rw [atMost, compare?_eq]
  cases a.point? <;> cases b.point? <;>
    simp [LinePoint.compare_eq_lt_iff, LinePoint.compare_eq_eq_iff, le_iff_lt_or_eq]

/-- Equal numbers share their point, so NaN equals nothing. -/
theorem numEq_iff {a b : Number} :
    a.numEq b = true ↔ ∃ p, a.point? = some p ∧ b.point? = some p := by
  rw [numEq, compare?_eq]
  cases a.point? <;> cases b.point? <;> simp [LinePoint.compare_eq_eq_iff]
  exact eq_comm

/-- What lies below a bound lies below every greater one. -/
theorem less_of_less_of_atMost {a b c : Number} (hab : a.less b = true) (hbc : b.atMost c = true) :
    a.less c = true := by
  obtain ⟨p, q, hp, hq, hpq⟩ := less_iff.1 hab
  obtain ⟨q', r, hq', hr, hqr⟩ := atMost_iff.1 hbc
  obtain rfl : q = q' := Option.some.inj (hq.symm.trans hq')
  exact less_iff.2 ⟨p, r, hp, hr, lt_of_lt_of_le hpq hqr⟩

/-- What lies above a bound lies above every smaller one. -/
theorem less_of_atMost_of_less {a b c : Number} (hab : a.atMost b = true) (hbc : b.less c = true) :
    a.less c = true := by
  obtain ⟨p, q, hp, hq, hpq⟩ := atMost_iff.1 hab
  obtain ⟨q', r, hq', hr, hqr⟩ := less_iff.1 hbc
  obtain rfl : q = q' := Option.some.inj (hq.symm.trans hq')
  exact less_iff.2 ⟨p, r, hp, hr, lt_of_le_of_lt hpq hqr⟩

theorem atMost_trans {a b c : Number} (hab : a.atMost b = true) (hbc : b.atMost c = true) : a.atMost c = true := by
  obtain ⟨p, q, hp, hq, hpq⟩ := atMost_iff.1 hab
  obtain ⟨q', r, hq', hr, hqr⟩ := atMost_iff.1 hbc
  obtain rfl : q = q' := Option.some.inj (hq.symm.trans hq')
  exact atMost_iff.2 ⟨p, r, hp, hr, le_trans hpq hqr⟩

/-- Of two numbers that are not NaN, one is at most the other unless it is greater. -/
theorem atMost_iff_not_less {a b : Number} {p q : LinePoint} (ha : a.point? = some p) (hb : b.point? = some q) :
    a.atMost b = true ↔ b.less a = false := by
  rw [← Bool.not_eq_true, atMost_iff, less_iff, ha, hb]
  simp

theorem numEq_int_iff {a b : Int64} : (Number.int a).numEq (.int b) = true ↔ a = b := by
  have hone : (Binary64.unitsOfOne : Int) ≠ 0 := Int.natCast_ne_zero.2 Binary64.unitsOfOne_pos.ne'
  rw [numEq_iff]
  simp only [point?, Option.some.injEq, exists_eq_left', LinePoint.units.injEq]
  rw [Int.mul_eq_mul_right_iff hone, Int64.toInt_inj, eq_comm]

end Number

namespace Binary64

theorem point?_eq_some {x : Binary64} (h : x.isNaN = false) : ∃ p, x.point? = some p := by
  cases hinfinite : x.isInfinite <;> simp [point?, h, hinfinite]

theorem numEq_iff {x y : Binary64} :
    x.numEq y = true ↔ ∃ p, x.point? = some p ∧ y.point? = some p :=
  @Number.numEq_iff (.float x) (.float y)

theorem numEq_trans {x y z : Binary64} (hxy : x.numEq y = true) (hyz : y.numEq z = true) :
    x.numEq z = true := by
  obtain ⟨p, hx, hy⟩ := numEq_iff.1 hxy
  obtain ⟨q, hy', hz⟩ := numEq_iff.1 hyz
  obtain rfl : p = q := Option.some.inj (hy.symm.trans hy')
  exact numEq_iff.2 ⟨p, hx, hz⟩

/-- A number without a sign is not below zero. -/
theorem zero_le_point {x : Binary64} (hsign : x.negative = false) {p : LinePoint} (h : x.point? = some p) :
    .units 0 ≤ p := by
  rw [point?, hsign, if_neg Bool.false_ne_true] at h
  split_ifs at h
  · obtain rfl := Option.some.inj h
    exact LinePoint.units_le_top 0
  · obtain rfl := Option.some.inj h
    rw [LinePoint.units_le_iff, signedUnits, hsign, if_neg Bool.false_ne_true]
    exact Int.natCast_nonneg _

/-- A number with a sign is below zero, unless it is a zero itself. -/
theorem point_lt_zero {x : Binary64} (hsign : x.negative = true) (hcode : x.code ≠ 0) {p : LinePoint}
    (h : x.point? = some p) : p < .units 0 := by
  rw [point?, hsign, if_pos rfl] at h
  split_ifs at h
  · obtain rfl := Option.some.inj h
    exact LinePoint.bottom_lt_units 0
  · obtain rfl := Option.some.inj h
    have hunits : 0 < x.units := units_pos hcode
    rw [← not_le, LinePoint.units_le_iff, signedUnits, hsign, if_pos rfl]
    omega

theorem code_ofInt_ne_zero {n : Int} (h : n ≠ 0) : (ofInt n).code ≠ 0 := by
  rw [ofInt]
  generalize 1074 = places
  rw [Ne, code_ofUnits_one_eq_zero_iff, Nat.mul_eq_zero, Int.natAbs_eq_zero, not_or]
  exact ⟨h, (two_pow_pos places).ne'⟩

end Binary64

namespace Number

/-- An integer that is not negative is not below zero, not even one that is rounded. -/
theorem less_ofInt_zero {n : Int} (h : 0 ≤ n) : (ofInt n).less (.int 0) = false := by
  rw [← Bool.not_eq_true, less_iff]
  rintro ⟨p, q, hp, hq, hlt⟩
  have hzero : q = .units 0 := by
    rw [← Option.some.inj hq, Int64.toInt_zero, Int.zero_mul]
  refine not_lt.2 ?_ (hzero ▸ hlt)
  rw [ofInt] at hp
  split at hp
  · next hrange =>
    have hmax : Int64.maxValue.toInt < 2 ^ 63 := Int64.toInt_lt _
    rw [← Option.some.inj hp, LinePoint.units_le_iff, Int64.toInt_ofInt_of_le hrange.1 (by omega)]
    exact Int.mul_nonneg h (Int.natCast_nonneg _)
  · exact Binary64.zero_le_point (decide_eq_false (Int.not_lt.2 h)) hp

/-- An integer is below zero exactly if it is negative, rounded or not. -/
theorem ofInt_less_zero_iff {n : Int} : (ofInt n).less (.int 0) = true ↔ n < 0 := by
  constructor
  · intro hless
    by_contra hn
    rw [less_ofInt_zero (Int.not_lt.1 hn)] at hless
    exact Bool.false_ne_true hless
  · intro hn
    have hzero : (Number.int 0).point? = some (.units 0) := by
      rw [point?, Int64.toInt_zero, Int.zero_mul]
    rw [less_iff, ofInt]
    split
    · next hrange =>
      refine ⟨_, _, rfl, hzero, ?_⟩
      have hmax : Int64.maxValue.toInt < 2 ^ 63 := Int64.toInt_lt _
      rw [← not_le, LinePoint.units_le_iff, Int64.toInt_ofInt_of_le hrange.1 (by omega), not_le]
      exact Int.mul_neg_of_neg_of_pos hn (Int.natCast_pos.2 Binary64.unitsOfOne_pos)
    · have hnan : (Binary64.ofInt n).isNaN = false := Binary64.isNaN_ofUnits _ _ _
      obtain ⟨p, hp⟩ := Binary64.point?_eq_some hnan
      refine ⟨p, _, hp, hzero, Binary64.point_lt_zero (decide_eq_true hn) ?_ hp⟩
      exact Binary64.code_ofInt_ne_zero (Int.ne_of_lt hn)

end Number

end SchemaConstraints
