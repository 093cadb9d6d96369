import Mathlib.Data.EReal.Basic
import SchemaConstraints.Proofs.Narrowing.Preorder

set_option autoImplicit false

/-! # The value of a number

Integers stand for themselves, finite floating-point numbers for the rationals that their fields spell, and the
infinities for the two ends of the extended reals. Comparison of numbers is that of these values
(`Number.comparison_is_exact`): points are values in another scale, one that makes them whole. -/

namespace SchemaConstraints

/-! ## Values -/

/-- The value of a finite number: a sign, and a significand that is scaled by the exponent. The fraction stands
    behind the point of the significand, and before it a one unless the exponent field is zero. -/
def Binary64.toRat (x : Binary64) : ℚ :=
  let magnitude : ℚ :=
    if x.exponentField = 0 then x.fraction / 2 ^ 52 * 2 ^ (-1022 : ℤ)
    else (1 + x.fraction / 2 ^ 52) * 2 ^ ((x.exponentField : ℤ) - 1023)
  if x.negative then -magnitude else magnitude

/-- The value of a number; none for NaN. -/
noncomputable def Number.toEReal? : Number → Option EReal
  | .int n => some ((n.toInt : ℝ) : EReal)
  | .float x =>
    if x.isNaN then none
    else if x.isInfinite then some (if x.negative then ⊥ else ⊤)
    else some ((x.toRat : ℝ) : EReal)

/-- The value of a point. -/
noncomputable def LinePoint.toEReal : LinePoint → EReal
  | .bottom => ⊥
  | .units n => ((n / Binary64.unitsOfOne : ℝ) : EReal)
  | .top => ⊤

/-! ## Values in units -/

namespace Binary64

theorem cast_two_pow (e : Nat) : ((Nat.pow 2 e : Nat) : ℚ) = 2 ^ (e : ℤ) := by
  rw [Nat.pow_eq, Nat.cast_pow, zpow_natCast, Nat.cast_ofNat]

theorem cast_unitsOfOne_ne_zero : (unitsOfOne : ℚ) ≠ 0 := Nat.cast_ne_zero.2 (Nat.ne_of_gt unitsOfOne_pos)

/-- The scale of the fraction's last bit, in units. -/
theorem two_zpow_eq (k : ℤ) : (2 : ℚ) ^ (k - 1022) = 2 ^ 52 * 2 ^ k / unitsOfOne := by
  obtain ⟨e, he⟩ : ∃ e : Nat, 1074 = e := ⟨_, rfl⟩
  rw [eq_div_iff cast_unitsOfOne_ne_zero, unitsOfOne_eq he, cast_two_pow, ← zpow_natCast, ← zpow_add₀ two_ne_zero,
    ← zpow_add₀ two_ne_zero]
  exact congrArg _ (by omega)

theorem div_mul_scale {s : ℚ} (hs : s ≠ 0) (a b d : ℚ) : a / s * (s * b / d) = a * b / d := by
  rw [mul_div_assoc, ← mul_assoc, div_mul_cancel₀ _ hs, mul_div_assoc]

/-- A finite number has its units as its value, in the scale of units. -/
theorem toRat_eq (x : Binary64) : x.toRat = x.signedUnits / unitsOfOne := by
  have hmagnitude : (if x.exponentField = 0 then x.fraction / 2 ^ 52 * 2 ^ (-1022 : ℤ)
      else (1 + x.fraction / 2 ^ 52) * 2 ^ ((x.exponentField : ℤ) - 1023) : ℚ) = x.units / unitsOfOne := by
    have hscale := two_zpow_eq ((x.exponentField - 1 : Nat) : ℤ)
    have hfraction : (2 : ℚ) ^ 52 ≠ 0 := pow_ne_zero 52 two_ne_zero
    rw [units, significand, ulpExponent, Nat.cast_mul, cast_two_pow]
    by_cases hexponent : x.exponentField = 0
    · have hfield : (-1022 : ℤ) = ((x.exponentField - 1 : Nat) : ℤ) - 1022 := by omega
      rw [if_pos hexponent, if_pos hexponent, hfield, hscale, div_mul_scale hfraction]
    · have hfield : (x.exponentField : ℤ) - 1023 = ((x.exponentField - 1 : Nat) : ℤ) - 1022 := by omega
      rw [if_neg hexponent, if_neg hexponent, hfield, hscale, one_add_div hfraction, div_mul_scale hfraction,
        Nat.cast_add, Nat.pow_eq, Nat.cast_pow, Nat.cast_ofNat]
  rw [toRat, hmagnitude, signedUnits]
  split
  · rw [Int.cast_neg, Int.cast_natCast, neg_div]
  · rw [Int.cast_natCast]

end Binary64

/-! ## Points as values -/

namespace LinePoint

theorem compare_eq_gt_iff {p q : LinePoint} : p.compare q = .gt ↔ q < p := by
  rw [← compare_eq_lt_iff, ← compare_swap, Ordering.swap_eq_gt]

theorem compare_eq_compare (p q : LinePoint) : p.compare q = Ord.compare p q := by
  cases h : p.compare q with
  | lt => exact (compare_lt_iff_lt.2 (compare_eq_lt_iff.1 h)).symm
  | eq => exact (compare_eq_iff_eq.2 (compare_eq_eq_iff.1 h)).symm
  | gt => exact (compare_gt_iff_gt.2 (compare_eq_gt_iff.1 h)).symm

theorem compare_trans {p q r : LinePoint} {order : Ordering} (hpq : p.compare q = order)
    (hqr : q.compare r = order) : p.compare r = order := by
  cases order with
  | lt => exact compare_eq_lt_iff.2 (lt_trans (compare_eq_lt_iff.1 hpq) (compare_eq_lt_iff.1 hqr))
  | eq => exact compare_eq_eq_iff.2 ((compare_eq_eq_iff.1 hpq).trans (compare_eq_eq_iff.1 hqr))
  | gt => exact compare_eq_gt_iff.2 (lt_trans (compare_eq_gt_iff.1 hqr) (compare_eq_gt_iff.1 hpq))

theorem toEReal_strictMono : StrictMono toEReal := by
  intro p q h
  rw [← compare_eq_lt_iff] at h
  cases p with
  | bottom =>
    cases q with
    | bottom => cases h
    | units n => exact EReal.bot_lt_coe _
    | top => exact bot_lt_top
  | units m =>
    cases q with
    | bottom => cases h
    | units n =>
      have hone : (0 : ℝ) < Binary64.unitsOfOne := Nat.cast_pos.2 Binary64.unitsOfOne_pos
      exact EReal.coe_lt_coe_iff.2 (div_lt_div_of_pos_right (Int.cast_lt.2 (Int.compare_eq_lt.1 h)) hone)
    | top => exact EReal.coe_lt_top _
  | top => cases q <;> cases h

end LinePoint

/-! ## Comparison by value -/

namespace Number

variable {a b c : Number}

theorem toEReal?_eq (a : Number) : a.toEReal? = a.point?.map LinePoint.toEReal := by
  cases a with
  | int n =>
    have hone : (Binary64.unitsOfOne : ℝ) ≠ 0 := Nat.cast_ne_zero.2 (Nat.ne_of_gt Binary64.unitsOfOne_pos)
    rw [point?, Option.map_some, LinePoint.toEReal, Int.cast_mul, Int.cast_natCast, mul_div_cancel_right₀ _ hone]
    rfl
  | float x =>
    rw [toEReal?, point?, Binary64.point?]
    split
    · rfl
    · split
      · cases x.negative <;> rfl
      · rw [Option.map_some, LinePoint.toEReal, x.toRat_eq, Rat.cast_div, Rat.cast_intCast, Rat.cast_natCast]

theorem toEReal?_eq_some_iff {v : EReal} : a.toEReal? = some v ↔ ∃ p, a.point? = some p ∧ p.toEReal = v := by
  rw [toEReal?_eq, Option.map_eq_some_iff]

theorem compare?_eq_some_iff {order : Ordering} :
    a.compare? b = some order ↔ ∃ p q, a.point? = some p ∧ b.point? = some q ∧ p.compare q = order := by
  rw [compare?_eq]
  cases a.point? <;> cases b.point? <;> simp

/-- Numbers are compared as their values are. -/
theorem compare?_of_values {v w : EReal} (hv : a.toEReal? = some v) (hw : b.toEReal? = some w) :
    a.compare? b = some (Ord.compare v w) := by
  obtain ⟨p, hp, rfl⟩ := toEReal?_eq_some_iff.1 hv
  obtain ⟨q, hq, rfl⟩ := toEReal?_eq_some_iff.1 hw
  refine compare?_eq_some_iff.2 ⟨p, q, hp, hq, ?_⟩
  rw [LinePoint.compare_eq_compare, ← cmp_eq_compare, ← cmp_eq_compare, LinePoint.toEReal_strictMono.cmp_map_eq]

theorem point?_eq_none_iff : a.point? = none ↔ a.isNaN = true := by
  rw [← Bool.not_eq_false, isNaN_eq_false_iff, Option.eq_none_iff_forall_ne_some, not_exists]

theorem toEReal?_eq_none_iff : a.toEReal? = none ↔ a.isNaN = true := by
  rw [toEReal?_eq, Option.map_eq_none_iff, point?_eq_none_iff]

theorem compare?_eq_none_iff : a.compare? b = none ↔ a.isNaN = true ∨ b.isNaN = true := by
  rw [← point?_eq_none_iff, ← point?_eq_none_iff, compare?_eq]
  cases a.point? <;> cases b.point? <;> simp

theorem compare?_swap (a b : Number) : (a.compare? b).map Ordering.swap = b.compare? a := by
  rw [compare?_eq, compare?_eq]
  cases a.point? with
  | none => cases b.point? <;> rfl
  | some p =>
    cases b.point? with
    | none => rfl
    | some q => exact congrArg some (p.compare_swap q)

theorem compare?_trans {order : Ordering} (hab : a.compare? b = some order) (hbc : b.compare? c = some order) :
    a.compare? c = some order := by
  obtain ⟨p, q, hp, hq, hpq⟩ := compare?_eq_some_iff.1 hab
  obtain ⟨q', r, hq', hr, hqr⟩ := compare?_eq_some_iff.1 hbc
  obtain rfl : q = q' := Option.some.inj (hq.symm.trans hq')
  exact compare?_eq_some_iff.2 ⟨p, r, hp, hr, LinePoint.compare_trans hpq hqr⟩

/-- Equal numbers are those of one value. -/
theorem numEq_iff_values : a.numEq b = true ↔ ∃ v, a.toEReal? = some v ∧ b.toEReal? = some v := by
  rw [numEq_iff]
  constructor
  · rintro ⟨p, ha, hb⟩
    exact ⟨p.toEReal, toEReal?_eq_some_iff.2 ⟨p, ha, rfl⟩, toEReal?_eq_some_iff.2 ⟨p, hb, rfl⟩⟩
  · rintro ⟨v, ha, hb⟩
    obtain ⟨p, hp, rfl⟩ := toEReal?_eq_some_iff.1 ha
    obtain ⟨q, hq, hpq⟩ := toEReal?_eq_some_iff.1 hb
    obtain rfl : q = p := LinePoint.toEReal_strictMono.injective hpq
    exact ⟨q, hp, hq⟩

/-- One number is at most another if its value is. -/
theorem atMost_iff_values :
    a.atMost b = true ↔ ∃ v w, a.toEReal? = some v ∧ b.toEReal? = some w ∧ v ≤ w := by
  rw [atMost_iff]
  constructor
  · rintro ⟨p, q, ha, hb, hle⟩
    refine ⟨p.toEReal, q.toEReal, toEReal?_eq_some_iff.2 ⟨p, ha, rfl⟩, toEReal?_eq_some_iff.2 ⟨q, hb, rfl⟩, ?_⟩
    exact LinePoint.toEReal_strictMono.monotone hle
  · rintro ⟨v, w, ha, hb, hle⟩
    obtain ⟨p, hp, rfl⟩ := toEReal?_eq_some_iff.1 ha
    obtain ⟨q, hq, rfl⟩ := toEReal?_eq_some_iff.1 hb
    exact ⟨p, q, hp, hq, LinePoint.toEReal_strictMono.le_iff_le.1 hle⟩

/-- **Numbers are compared as their values are**, and not at all if one of them is NaN, which alone has no value. -/
theorem comparison_is_exact (a b c : Number) :
    (a.toEReal? = none ↔ a.isNaN = true) ∧
      (a.compare? b = none ↔ a.isNaN = true ∨ b.isNaN = true) ∧
      (∀ v w, a.toEReal? = some v → b.toEReal? = some w → a.compare? b = some (Ord.compare v w)) ∧
      b.compare? a = (a.compare? b).map Ordering.swap ∧
      (∀ order, a.compare? b = some order → b.compare? c = some order → a.compare? c = some order) ∧
      (a.atMost b = true → b.atMost c = true → a.atMost c = true) ∧
      (a.numEq b = true ↔ ∃ v, a.toEReal? = some v ∧ b.toEReal? = some v) := by
  refine ⟨toEReal?_eq_none_iff, compare?_eq_none_iff, fun v w hv hw => compare?_of_values hv hw, ?_,
    fun order hab hbc => compare?_trans hab hbc, atMost_trans, numEq_iff_values⟩
  exact (a.compare?_swap b).symm

/-- The nearest floating-point number of an integer is compared with the integer itself, not as its equal. -/
theorem comparison_of_unrounded_integer :
    (Number.float (.ofInt 9007199254740993)).compare? (.int 9007199254740993) = some .lt ∧
      (Number.int 9007199254740993).compare? (.float .int64Limit) = some .lt ∧
      (Number.float (.ofInt 9007199254740993)).compare? (.float .int64Limit) = some .lt := by
  have hbelow : (Number.float (.ofInt 9007199254740993)).compare? (.int 9007199254740993) = some .lt := by
    decide +kernel
  have habove : (Number.int 9007199254740993).compare? (.float .int64Limit) = some .lt := by decide +kernel
  exact ⟨hbelow, habove, (comparison_is_exact _ _ _).2.2.2.2.1 .lt hbelow habove⟩

end Number

end SchemaConstraints
