import SchemaConstraints.Proofs.Number.Nearest
import SchemaConstraints.Proofs.Number.Units

set_option autoImplicit false

/-! # Shortest decimals read back

A decimal that lies in the interval around a finite number is rounded to the number, whatever its digits
(`ofDecimal_of_readsBack`); the powers that are not computed are far outside of all intervals. The search for the
shortest decimal takes only decimals in the interval, and falls back on the exact expansion, so its result is
rounded to the number from which it started (`ofDecimal_shortest`). -/

namespace SchemaConstraints

open Binary64

namespace Decimal

variable {x : Binary64} {d : Decimal}

/-! ## Decimals in the interval -/

/-- The numerator of a decimal in quarters of a unit. -/
def numerator (d : Decimal) : Nat := d.digits * (Nat.pow 10 d.exponent.toNat * Nat.pow 2 1076)

/-- The denominator of a decimal. -/
def denominator (d : Decimal) : Nat := Nat.pow 10 (-d.exponent).toNat

/-- The decimal lies in the interval of what reads back as the number. -/
def ReadsBack (x : Binary64) (d : Decimal) : Prop := readsBack x d.numerator d.denominator = true

theorem ten_pow_pos (e : Nat) : 0 < Nat.pow 10 e := Nat.pow_pos (by decide)

theorem denominator_pos (d : Decimal) : 0 < d.denominator := ten_pow_pos _

/-- Only the ratio matters. -/
theorem readsBack_mul {k : Nat} (hk : 0 < k) (num den : Nat) : readsBack x (k * num) (k * den) = readsBack x num den := by
  simp only [readsBack, Nat.mul_left_comm _ k, Nat.mul_le_mul_left_iff hk, Nat.mul_lt_mul_left hk]

/-- A zero at the end of the digits counts as one in the exponent. -/
theorem readsBack_shift (digits : Nat) (exponent : Int) :
    ReadsBack x ⟨10 * digits, exponent⟩ ↔ ReadsBack x ⟨digits, exponent + 1⟩ := by
  have hten : ∀ e : Nat, Nat.pow 10 (e + 1) = 10 * Nat.pow 10 e := fun e => Nat.mul_comm _ _
  simp only [ReadsBack, numerator, denominator]
  rcases Int.lt_or_le exponent 0 with hlt | hle
  · obtain ⟨e, rfl⟩ : ∃ e : Nat, exponent = -(e + 1 : Nat) := ⟨(-exponent - 1).toNat, by omega⟩
    have hsucc : (-(-(e + 1 : Nat) : Int)).toNat = e + 1 := by omega
    have hpred : (-(-(e + 1 : Nat) + 1 : Int)).toNat = e := by omega
    rw [hsucc, hpred, Int.toNat_eq_zero.2 (by omega), Int.toNat_eq_zero.2 (by omega), hten, Nat.mul_assoc,
      readsBack_mul (by decide)]
  · obtain ⟨e, rfl⟩ := Int.eq_ofNat_of_zero_le hle
    have hnum : 10 * digits * (Nat.pow 10 e * Nat.pow 2 1076) = digits * (Nat.pow 10 (e + 1) * Nat.pow 2 1076) := by
      rw [hten]
      generalize Nat.pow 2 1076 = s
      ring
    rw [Int.toNat_natCast, Int.toNat_natCast_add_one, hnum, Int.toNat_eq_zero.2 (by omega),
      Int.toNat_eq_zero.2 (by omega)]

/-- So do several zeros. -/
theorem readsBack_zeros (digits : Nat) (exponent : Int) (zeros : Nat) :
    ReadsBack x ⟨Nat.pow 10 zeros * digits, exponent⟩ ↔ ReadsBack x ⟨digits, exponent + zeros⟩ := by
  induction zeros generalizing exponent with
  | zero => simp
  | succ zeros ih =>
    have hten : Nat.pow 10 (zeros + 1) * digits = 10 * (Nat.pow 10 zeros * digits) := by
      rw [← Nat.mul_assoc, Nat.mul_comm 10]
      rfl
    have hexponent : exponent + (zeros + 1 : Nat) = exponent + 1 + zeros := by omega
    rw [hten, readsBack_shift, ih, hexponent]

theorem readsBack_trim (limit : Nat) (d : Decimal) : ReadsBack x (d.trim limit) ↔ ReadsBack x d := by
  induction limit generalizing d with
  | zero => rfl
  | succ limit ih =>
    rw [trim]
    split_ifs with hzero
    · rw [ih, ← readsBack_shift, Nat.mul_div_cancel' (Nat.dvd_of_mod_eq_zero hzero.2)]
    · rfl

/-! ## The search -/

/-- The magnitude itself lies in the interval. -/
theorem readsBack_quarters (x : Binary64) : readsBack x (quarters x) 1 = true := by
  have hstep : 0 < Nat.pow 2 x.ulpExponent := two_pow_pos _
  rw [readsBack_iff, Nat.mul_one, Nat.mul_one, upperEnd]
  refine ⟨Nat.sub_le _ _, Nat.le_add_right _ _, ?_⟩
  by_cases heven : x.code % 2 = 0
  · exact .inl heven
  · have hunits : 0 < x.units := units_pos fun hzero => heven (by rw [hzero])
    have hbelow : 0 < (if narrowBelow x then 1 else 2) * Nat.pow 2 x.ulpExponent :=
      Nat.mul_pos (by split <;> decide) hstep
    refine .inr ⟨Nat.sub_lt (Nat.mul_pos (by decide) hunits) hbelow, ?_⟩
    omega

theorem readsBack_of_onGrid {tie : DecimalTie} {exponent : Int} (h : onGrid tie x exponent = some d) :
    ReadsBack x d := by
  have hgrid : ∀ digits, ReadsBack x ⟨digits, exponent⟩ ↔
      readsBack x (digits * (Nat.pow 10 exponent.toNat * Nat.pow 2 1076)) (Nat.pow 10 (-exponent).toNat) = true :=
    fun _ => Iff.rfl
  unfold onGrid at h
  generalize Nat.pow 2 1076 = one at h hgrid
  simp only at h
  split at h
  · simp at h
  · obtain rfl := Option.some.inj h
    exact (hgrid _).2 ‹_›
  · obtain rfl := Option.some.inj h
    exact (hgrid _).2 ‹_›
  · obtain rfl := Option.some.inj h
    refine (hgrid _).2 ?_
    split_ifs <;> assumption

/-- The exact expansion reads back. -/
theorem readsBack_exact (x : Binary64) {places : Nat} (hplaces : 1076 = places + 2) :
    ReadsBack x ⟨x.units * Nat.pow 5 places, -(places : Int)⟩ := by
  have hten : Nat.pow 10 places = Nat.pow 5 places * Nat.pow 2 places := Nat.mul_pow 5 2 places
  have hfour : Nat.pow 2 2 = 4 := rfl
  have hone : Nat.pow 10 0 = 1 := rfl
  have hnum : x.units * Nat.pow 5 places * (Nat.pow 10 0 * Nat.pow 2 (places + 2)) =
      Nat.pow 10 places * quarters x := by
    rw [quarters, hten, two_pow_add, hfour, hone]
    ring
  simp only [ReadsBack, numerator, denominator]
  rw [hplaces, Int.toNat_eq_zero.2 (by omega), Int.neg_neg, Int.toNat_natCast, hnum,
    ← Nat.mul_one (Nat.pow 10 places), Nat.mul_assoc, Nat.one_mul, readsBack_mul (ten_pow_pos _), readsBack_quarters]

/-- **The shortest decimal of a number reads back.** -/
theorem readsBack_shortest (tie : DecimalTie) (h : x.isZero = false) : ReadsBack x (shortest tie x) := by
  rw [shortest, if_neg (by simp [h]), readsBack_trim]
  cases hfound : (List.range 17).findSome? fun n => onGrid tie x (pointPosition x - (n + 1 : Nat)) with
  | none =>
    have hexponent : (-1074 : Int) = -(1074 : Nat) := rfl
    rw [Option.getD_none, hexponent]
    generalize hplaces : 1074 = places
    exact readsBack_exact x (by omega)
  | some d =>
    obtain ⟨n, -, hgrid⟩ := List.exists_of_findSome?_eq_some hfound
    exact readsBack_of_onGrid hgrid

/-! ## The length of a decimal that reads back -/

theorem lt_ten_pow_digitCount (n : Nat) : n < Nat.pow 10 (digitCount n) :=
  (Nat.length_toDigits_le_iff (by decide) Nat.length_toDigits_pos).1 (Nat.le_refl _)

theorem ten_pow_le {n : Nat} (h : n ≠ 0) : Nat.pow 10 (digitCount n - 1) ≤ n := by
  obtain ⟨k, hk⟩ : ∃ k, digitCount n = k + 1 := Nat.exists_eq_succ_of_ne_zero (Nat.ne_of_gt Nat.length_toDigits_pos)
  rw [hk, Nat.add_sub_cancel]
  rcases Nat.eq_zero_or_pos k with rfl | hpos
  · exact Nat.one_le_iff_ne_zero.2 h
  · by_contra hlt
    have hle := (Nat.length_toDigits_le_iff (by decide) hpos).2 (Nat.lt_of_not_le hlt)
    rw [digitCount] at hk
    omega

theorem ten_pow_add (m n : Nat) : Nat.pow 10 (m + n) = Nat.pow 10 m * Nat.pow 10 n := Nat.pow_add 10 m n

theorem ten_pow_le_ten_pow {m n : Nat} (h : m ≤ n) : Nat.pow 10 m ≤ Nat.pow 10 n := Nat.pow_le_pow_right (by decide) h

theorem two_le_lowerEnd (hzero : x.isZero = false) : 2 ≤ lowerEnd x := by
  have hunits : 0 < x.units := units_pos (beq_eq_false_iff_ne.1 hzero)
  have hsignificand : 0 < x.significand := Nat.pos_of_mul_pos_right hunits
  have hstep : 0 < Nat.pow 2 x.ulpExponent := two_pow_pos _
  have hle : Nat.pow 2 x.ulpExponent ≤ x.units := Nat.le_mul_of_pos_left _ hsignificand
  rw [lowerEnd, quarters]
  split <;> omega

theorem upperEnd_lt (x : Binary64) : upperEnd x < Nat.pow 2 (55 + x.exponentField) := by
  have hunits := x.units_lt
  have hstep : Nat.pow 2 x.ulpExponent ≤ Nat.pow 2 x.exponentField := two_pow_le (Nat.sub_le _ _)
  have hpos : 0 < Nat.pow 2 x.exponentField := two_pow_pos _
  have hmore : Nat.pow 2 55 = 8 * Nat.pow 2 52 := rfl
  have hscale : Nat.pow 2 x.exponentField ≤ Nat.pow 2 52 * Nat.pow 2 x.exponentField :=
    Nat.le_mul_of_pos_left _ (two_pow_pos 52)
  rw [upperEnd, quarters, two_pow_add, hmore, Nat.mul_assoc]
  omega

/-- All finite numbers and half a step more lie below this power of ten. -/
theorem upperEnd_lt_ten_pow {limit : Nat} (h : x.isFinite = true) (hlimit : 310 ≤ limit) :
    upperEnd x < Nat.pow 10 limit * Nat.pow 2 1076 := by
  have hfield : x.exponentField < 2047 := (Nat.div_lt_iff_lt_mul (two_pow_pos 52)).2 (of_decide_eq_true h)
  obtain ⟨top, htop⟩ : ∃ top, 2101 = top := ⟨_, rfl⟩
  obtain ⟨least, hleast⟩ : ∃ least, 310 = least := ⟨_, rfl⟩
  have hpowers : Nat.pow 2 top ≤ Nat.pow 10 least * Nat.pow 2 1076 := by
    subst htop hleast
    decide +kernel
  calc
    _ < Nat.pow 2 (55 + x.exponentField) := upperEnd_lt x
    _ ≤ Nat.pow 2 top := two_pow_le (by omega)
    _ ≤ Nat.pow 10 least * Nat.pow 2 1076 := hpowers
    _ ≤ _ := Nat.mul_le_mul_right _ (ten_pow_le_ten_pow (by omega))

/-- Half a step from zero lies above this power of ten. -/
theorem quarter_le_ten_pow {limit : Nat} (hlimit : 346 ≤ limit) : Nat.pow 2 1076 ≤ Nat.pow 10 limit := by
  obtain ⟨least, hleast⟩ : ∃ least, 346 = least := ⟨_, rfl⟩
  have hpowers : Nat.pow 2 1076 ≤ Nat.pow 10 least := by
    subst hleast
    decide +kernel
  exact Nat.le_trans hpowers (ten_pow_le_ten_pow (by omega))

/-- No decimal with more digits before its point is near a finite number. -/
theorem length_add_exponent_le (h : ReadsBack x d) (hfinite : x.isFinite = true) (hdigits : d.digits ≠ 0) :
    digitCount d.digits + d.exponent ≤ 310 := by
  have hlength : 0 < digitCount d.digits := Nat.length_toDigits_pos
  have hhigh : d.digits * (Nat.pow 10 d.exponent.toNat * Nat.pow 2 1076) ≤
      upperEnd x * Nat.pow 10 (-d.exponent).toNat := (readsBack_iff.1 h).2.1
  by_contra hlt
  obtain ⟨limit, hlimit, hpowers⟩ : ∃ limit, 310 ≤ limit ∧
      limit + (-d.exponent).toNat = digitCount d.digits - 1 + d.exponent.toNat :=
    ⟨digitCount d.digits - 1 + d.exponent.toNat - (-d.exponent).toNat, by omega, by omega⟩
  have hend := upperEnd_lt_ten_pow hfinite hlimit
  generalize Nat.pow 2 1076 = one at hend hhigh
  refine Nat.lt_irrefl (d.digits * (Nat.pow 10 d.exponent.toNat * one)) ?_
  calc
    _ ≤ upperEnd x * Nat.pow 10 (-d.exponent).toNat := hhigh
    _ < Nat.pow 10 limit * one * Nat.pow 10 (-d.exponent).toNat := Nat.mul_lt_mul_of_pos_right hend (ten_pow_pos _)
    _ = Nat.pow 10 (digitCount d.digits - 1) * (Nat.pow 10 d.exponent.toNat * one) := by
      rw [Nat.mul_right_comm, ← ten_pow_add, hpowers, ten_pow_add, Nat.mul_assoc]
    _ ≤ _ := Nat.mul_le_mul_right _ (ten_pow_le hdigits)

/-- No decimal with more zeros behind its point is near a number other than zero. -/
theorem le_length_add_exponent (h : ReadsBack x d) (hzero : x.isZero = false) :
    -345 ≤ digitCount d.digits + d.exponent := by
  have hlow : lowerEnd x * Nat.pow 10 (-d.exponent).toNat ≤
      d.digits * (Nat.pow 10 d.exponent.toNat * Nat.pow 2 1076) := (readsBack_iff.1 h).1
  by_contra hlt
  obtain ⟨limit, hlimit, hpowers⟩ : ∃ limit, 346 ≤ limit ∧
      digitCount d.digits + (d.exponent.toNat + limit) = (-d.exponent).toNat :=
    ⟨(-d.exponent).toNat - (digitCount d.digits + d.exponent.toNat), by omega, by omega⟩
  have hone := quarter_le_ten_pow hlimit
  generalize Nat.pow 2 1076 = one at hone hlow
  refine Nat.lt_irrefl (lowerEnd x * Nat.pow 10 (-d.exponent).toNat) ?_
  calc
    _ ≤ d.digits * (Nat.pow 10 d.exponent.toNat * one) := hlow
    _ ≤ Nat.pow 10 (digitCount d.digits) * (Nat.pow 10 d.exponent.toNat * one) :=
      Nat.mul_le_mul_right _ (Nat.le_of_lt (lt_ten_pow_digitCount _))
    _ ≤ Nat.pow 10 (digitCount d.digits) * (Nat.pow 10 d.exponent.toNat * Nat.pow 10 limit) :=
      Nat.mul_le_mul_left _ (Nat.mul_le_mul_left _ hone)
    _ = Nat.pow 10 (-d.exponent).toNat := by rw [← ten_pow_add, ← ten_pow_add, hpowers]
    _ < _ := (Nat.lt_mul_iff_one_lt_left (ten_pow_pos _)).2 (two_le_lowerEnd hzero)

/-! ## Rounding -/

theorem digits_ne_zero (h : ReadsBack x d) (hzero : x.isZero = false) : d.digits ≠ 0 := by
  intro hdigits
  have hlow := (readsBack_iff.1 h).1
  have hpos := Nat.mul_pos (Nat.lt_of_lt_of_le two_pos (two_le_lowerEnd hzero)) d.denominator_pos
  rw [numerator, hdigits, Nat.zero_mul] at hlow
  exact Nat.not_le.2 hpos hlow

theorem ofCode_code (hfinite : x.isFinite = true) : ofCode x.negative x.code = x :=
  ext_code rfl (Nat.min_eq_left (Nat.le_of_lt (of_decide_eq_true hfinite)))

theorem ofUnits_of_readsBack {num den : Nat} (hden : 0 < den) (h : readsBack x (4 * num) den = true)
    (hfinite : x.isFinite = true) : ofUnits x.negative num den = x := by
  rw [ofUnits, nearestCode_of_readsBack hden h, ofCode_code hfinite]

/-- **A decimal that reads back is rounded to the number.** -/
theorem ofDecimal_of_readsBack (h : ReadsBack x d) (hfinite : x.isFinite = true) (hzero : x.isZero = false) :
    ofDecimal x.negative d.digits d.exponent = x := by
  have hdigits := digits_ne_zero h hzero
  have hover := length_add_exponent_le h hfinite hdigits
  have hunder := le_length_add_exponent h hzero
  rw [digitCount] at hover hunder
  have hquarter : Nat.pow 2 1076 = 4 * Nat.pow 2 1074 := by decide +kernel
  rw [ReadsBack, numerator, denominator, hquarter] at h
  rw [ofDecimal, if_neg hdigits, if_neg (by rw [overflowExponent]; omega), if_neg (by rw [underflowExponent]; omega)]
  generalize Nat.pow 2 1074 = one at h
  split
  · have hden : Nat.pow 10 (-d.exponent).toNat = 1 := by rw [Int.toNat_eq_zero.2 (by omega)]
    refine ofUnits_of_readsBack one_pos ?_ hfinite
    rwa [hden, Nat.mul_left_comm _ 4, Nat.mul_left_comm _ 4, ← Nat.mul_assoc d.digits] at h
  · have hscale : Nat.pow 10 d.exponent.toNat = 1 := by rw [Int.toNat_eq_zero.2 (by omega)]
    refine ofUnits_of_readsBack (ten_pow_pos _) ?_ hfinite
    rwa [hscale, Nat.one_mul, Nat.mul_left_comm] at h

/-- **The shortest decimal of a finite number is rounded to the number**, however many zeros are written after its
    digits. -/
theorem ofDecimal_shortest (tie : DecimalTie) (hfinite : x.isFinite = true) (zeros : Nat) :
    ofDecimal x.negative (Nat.pow 10 zeros * (shortest tie x).digits) ((shortest tie x).exponent - zeros) = x := by
  cases hzero : x.isZero with
  | true =>
    rw [shortest, if_pos hzero, Nat.mul_zero, ofDecimal, if_pos rfl, ← beq_iff_eq.1 hzero]
    exact ofCode_code hfinite
  | false =>
    have hread : ReadsBack x ⟨Nat.pow 10 zeros * (shortest tie x).digits, (shortest tie x).exponent - zeros⟩ := by
      rw [readsBack_zeros, Int.sub_add_cancel]
      exact readsBack_shortest tie hzero
    exact ofDecimal_of_readsBack hread hfinite hzero

end Decimal

end SchemaConstraints
