import SchemaConstraints.Proofs.Number.Magnitude
import SchemaConstraints.Proofs.Number.Order

set_option autoImplicit false

/-! # A finite number is known by its units

Since units grow strictly with the code, two numbers at one point of the line are the same number, unless
they are the two zeros. -/

namespace SchemaConstraints

namespace Binary64

variable {x y : Binary64}

/-! ## Numbers at one point -/

theorem ext_code (hnegative : x.negative = y.negative) (hcode : x.code = y.code) : x = y := by
  cases x
  cases y
  simp_all

/-- Finite numbers of the same signed units are the same, or both zero. -/
theorem eq_or_isZero_of_signedUnits_eq (h : x.signedUnits = y.signedUnits) :
    x = y ∨ x.isZero = true ∧ y.isZero = true := by
  rw [signedUnits, signedUnits] at h
  by_cases hnegative : x.negative = y.negative
  · rw [hnegative] at h
    have hunits : x.units = y.units := by split at h <;> omega
    exact .inl (ext_code hnegative (code_eq_of_units_eq hunits))
  · -- of opposite signs, so zero on both sides
    have hunits : x.units = 0 ∧ y.units = 0 := by
      cases hx : x.negative <;> cases hy : y.negative <;> simp [hx, hy] at hnegative h <;> omega
    exact .inr ⟨isZero_of_units_eq_zero hunits.1, isZero_of_units_eq_zero hunits.2⟩

theorem signedUnits_of_point? {n : Int} (h : x.point? = some (.units n)) : x.signedUnits = n := by
  rw [point?] at h
  split_ifs at h with hnan hinfinite hnegative
  · simp at h
  · simp at h
  · exact LinePoint.units.inj (Option.some.inj h)

theorem eq_infinity_of_point?_bottom (h : x.point? = some .bottom) : x = infinity true := by
  rw [point?] at h
  split_ifs at h with hnan hinfinite hnegative
  · exact ext_code hnegative (beq_iff_eq.1 hinfinite)
  · simp at h
  · simp at h

theorem eq_infinity_of_point?_top (h : x.point? = some .top) : x = infinity false := by
  rw [point?] at h
  split_ifs at h with hnan hinfinite hnegative
  · simp at h
  · exact ext_code (Bool.eq_false_of_not_eq_true hnegative) (beq_iff_eq.1 hinfinite)
  · simp at h

/-- **Numbers that are equal are the same, or both zero.** -/
theorem eq_or_isZero_of_numEq (h : x.numEq y = true) : x = y ∨ x.isZero = true ∧ y.isZero = true := by
  obtain ⟨p, hx, hy⟩ := numEq_iff.1 h
  cases p with
  | bottom => exact .inl ((eq_infinity_of_point?_bottom hx).trans (eq_infinity_of_point?_bottom hy).symm)
  | top => exact .inl ((eq_infinity_of_point?_top hx).trans (eq_infinity_of_point?_top hy).symm)
  | units n =>
    exact eq_or_isZero_of_signedUnits_eq ((signedUnits_of_point? hx).trans (signedUnits_of_point? hy).symm)

/-- Folding the zeros onto one tells all other numbers apart, NaN by its bits. -/
theorem foldZero_eq_iff : x.foldZero = y.foldZero ↔ x = y ∨ x.isZero = true ∧ y.isZero = true := by
  have hzero : zero.isZero = true := rfl
  constructor
  · intro h
    cases hx : x.isZero <;> cases hy : y.isZero <;>
      simp only [foldZero, hx, hy, if_true, if_false, Bool.false_eq_true] at h
    case false.false => exact .inl h
    case true.true => exact .inr ⟨rfl, rfl⟩
    -- a number that is not zero is not folded onto zero
    case false.true => simp [h, hzero] at hx
    case true.false => simp [← h, hzero] at hy
  · rintro (rfl | ⟨hx, hy⟩)
    · rfl
    · rw [foldZero, foldZero, if_pos hx, if_pos hy]

theorem point?_of_isZero (h : x.isZero = true) : x.point? = some (.units 0) := by
  obtain ⟨negative, code, hcode⟩ := x
  obtain rfl : code = 0 := beq_iff_eq.1 h
  cases negative <;>
    simp [point?, isNaN, isInfinite, infinityCode, signedUnits, units, significand, exponentField, fraction]

/-- With the zeros folded, numerical equality is plain equality, except for NaN, which does not even equal itself. -/
theorem numEq_iff_foldZero_eq (h : x.isNaN = false) : x.numEq y = true ↔ x.foldZero = y.foldZero := by
  rw [foldZero_eq_iff]
  constructor
  · exact eq_or_isZero_of_numEq
  · rintro (rfl | ⟨hx, hy⟩)
    · obtain ⟨p, hp⟩ := point?_eq_some h
      exact numEq_iff.2 ⟨p, hp, hp⟩
    · exact numEq_iff.2 ⟨_, point?_of_isZero hx, point?_of_isZero hy⟩

end Binary64

end SchemaConstraints
