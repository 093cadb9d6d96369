import Mathlib.Data.List.TakeDrop
import SchemaConstraints.Json.Reader
import SchemaConstraints.Proofs.Number.Shortest

set_option autoImplicit false

/-! # Number literals

A number is written with a whole part, places behind a point, and an exponent (`Literal`). Reading takes these
parts apart again at the characters that are no digits (`readDecimal?_chars`), and a literal that has places or an
exponent is always read as a floating-point number (`number?_chars`). The JSON text of a finite number is such a
literal, of the shortest decimal with some zeros more, and is therefore read back as the number itself
(`isNumeral_text`), while the text of an integer is a literal without both (`isNumeral_toString`). -/

namespace SchemaConstraints

open Binary64

/-! ## Digits -/

/-- The longest beginning of one kind of characters ends where another kind follows. -/
theorem span_append {p : Char → Bool} {chars rest : List Char} (hchars : ∀ c ∈ chars, p c = true)
    (hrest : ∀ c, rest.head? = some c → p c = false) : (chars ++ rest).span p = (chars, rest) := by
  rw [List.span_eq_takeWhile_dropWhile, List.takeWhile_append_of_pos hchars, List.dropWhile_append_of_pos hchars]
  cases rest with
  | nil => simp
  | cons c rest => simp [hrest c rfl]

namespace Binary64

theorem digitsValue_toDigits (n : Nat) : digitsValue (Nat.toDigits 10 n) = n := Nat.ofDigitChars_ten_toDigits

theorem digitsValue_append (digits more : List Char) :
    digitsValue (digits ++ more) = Nat.pow 10 more.length * digitsValue digits + digitsValue more :=
  (Nat.ofDigitChars_append 0).trans Nat.ofDigitChars_eq_ofDigitChars_zero

theorem digitsValue_zeros (zeros : Nat) : digitsValue (List.replicate zeros '0') = 0 :=
  Nat.ofDigitChars_replicate_zero

/-- All characters are digits. -/
def AllDigits (chars : List Char) : Prop := ∀ c ∈ chars, c.isDigit = true

theorem allDigits_toDigits (n : Nat) : AllDigits (Nat.toDigits 10 n) :=
  fun _ => Nat.isDigit_of_mem_toDigits (by decide) (by decide)

theorem AllDigits.append {digits more : List Char} (hdigits : AllDigits digits) (hmore : AllDigits more) :
    AllDigits (digits ++ more) :=
  List.forall_mem_append.2 ⟨hdigits, hmore⟩

theorem allDigits_zeros (zeros : Nat) : AllDigits (List.replicate zeros '0') :=
  fun _ hmem => List.eq_of_mem_replicate hmem ▸ rfl

/-- A number that begins with a digit has no sign. -/
theorem head?_ne_minus {digits : List Char} (hne : digits ≠ []) (h : AllDigits digits) (rest : List Char) :
    (digits ++ rest).head? ≠ some '-' := by
  obtain ⟨c, cs, rfl⟩ := List.exists_cons_of_ne_nil hne
  intro hc
  obtain rfl : c = '-' := Option.some.inj hc
  exact absurd (h '-' List.mem_cons_self) (by decide)

/-- Only zero is written with a zero in front. -/
theorem head?_toDigits {n : Nat} (h : n ≠ 0) : (Nat.toDigits 10 n).head? ≠ some '0' := by
  induction n using Nat.strongRecOn with
  | ind n ih =>
    rw [Nat.toDigits_eq_if (by decide)]
    split
    · simpa using h
    · have hquotient : n / 10 ≠ 0 := by omega
      rw [List.head?_append, Option.or_of_isSome (by simp)]
      exact ih (n / 10) (by omega) hquotient

end Binary64

/-! ## Literals -/

/-- A number with its sign. -/
def signed (negative : Bool) (chars : List Char) : List Char := if negative then '-' :: chars else chars

/-- The parts of a number literal: the digits before the point and those behind it, and the exponent. -/
structure Literal where
  whole : List Char
  places : List Char
  exponent : Option Int

namespace Literal

/-- An exponent, which is always signed. -/
def exponentChars : Option Int → List Char
  | none => []
  | some exponent => 'e' :: (if exponent < 0 then '-' else '+') :: Decimal.digitChars exponent.natAbs

/-- What follows the whole part of a literal. There is a point only in front of places. -/
def tail (literal : Literal) : List Char :=
  if literal.places = [] then exponentChars literal.exponent
  else '.' :: (literal.places ++ exponentChars literal.exponent)

/-- A literal without its sign. -/
def chars (literal : Literal) : List Char := literal.whole ++ literal.tail

/-- The decimal that a literal spells. -/
def value (literal : Literal) : Decimal :=
  ⟨digitsValue (literal.whole ++ literal.places), literal.exponent.getD 0 - literal.places.length⟩

/-- The parts are made of digits, and the whole part has no zero in front that it could do without. -/
structure WellFormed (literal : Literal) : Prop where
  whole : AllDigits literal.whole
  places : AllDigits literal.places
  wholePartOk : Json.Token.wholePartOk literal.whole = true

/-- A literal with places or an exponent is no integer. -/
def LooksFloat (literal : Literal) : Prop := literal.places ≠ [] ∨ literal.exponent ≠ none

variable {literal : Literal}

theorem readExponent?_exponentChars (exponent : Option Int) :
    readExponent? (exponentChars exponent) = some (exponent.getD 0) := by
  cases exponent with
  | none => rfl
  | some e =>
    obtain ⟨digits, hdigits⟩ : ∃ digits, Decimal.digitChars e.natAbs = digits := ⟨_, rfl⟩
    have hne : digits ≠ [] := hdigits ▸ Nat.toDigits_ne_nil
    have hall : digits.all Char.isDigit = true := List.all_eq_true.2 (hdigits ▸ allDigits_toDigits _)
    have hvalue : digitsValue digits = e.natAbs := hdigits ▸ digitsValue_toDigits _
    rw [exponentChars, hdigits]
    split_ifs with hneg
    · simp [readExponent?, splitSign, hne, hall, hvalue, abs_of_neg hneg]
    · simp [readExponent?, splitSign, hne, hall, hvalue, abs_of_nonneg (Int.not_lt.1 hneg)]

theorem whole_ne_nil (h : literal.WellFormed) : literal.whole ≠ [] := by
  intro hnil
  have hok := h.wholePartOk
  simp [hnil, Json.Token.wholePartOk] at hok

theorem isDigit_of_head?_exponentChars {exponent : Option Int} {c : Char} (h : (exponentChars exponent).head? = some c) :
    c.isDigit = false := by
  cases exponent with
  | none => simp [exponentChars] at h
  | some e =>
    obtain rfl := Option.some.inj h
    rfl

theorem isDigit_of_head?_tail {c : Char} (h : literal.tail.head? = some c) : c.isDigit = false := by
  rw [tail] at h
  split at h
  · exact isDigit_of_head?_exponentChars h
  · obtain rfl := Option.some.inj h
    rfl

/-- **The parts of a literal are taken apart again.** -/
theorem readDecimal?_chars (h : literal.WellFormed) : readDecimal? literal.chars = some literal.value := by
  have hwhole := whole_ne_nil h
  have hread := readExponent?_exponentChars literal.exponent
  have hspan : (literal.whole ++ literal.tail).span Char.isDigit = (literal.whole, literal.tail) :=
    span_append h.whole fun _ => isDigit_of_head?_tail
  rw [readDecimal?, chars, hspan, tail]
  split_ifs with hplaces
  · cases hexponent : literal.exponent with
    | none => simp [hwhole, exponentChars, readExponent?, value, hplaces, hexponent]
    | some e =>
      rw [hexponent, exponentChars] at hread
      simp [hwhole, exponentChars, hread, value, hplaces, hexponent]
  · simp only [span_append h.places fun _ => isDigit_of_head?_exponentChars]
    simp [hwhole, hread, value]

/-- Taking off the sign of a number that does not begin with another one. -/
theorem signed_eq_cons_minus_iff {chars after : List Char} (hminus : chars.head? ≠ some '-') (negative : Bool) :
    signed negative chars = '-' :: after ↔ negative = true ∧ chars = after := by
  cases negative with
  | false =>
    have hne : chars ≠ '-' :: after := fun h => hminus (by rw [h]; rfl)
    simp [signed, hne]
  | true => simp [signed]

/-- What a literal without point and exponent spells. -/
def wholeNumber (negative : Bool) (n : Int) : Json :=
  if negative && n == 0 then .float zero.neg
  else if Int64.minValue.toInt ≤ n ∧ n < UInt64.size then .integer n
  else .float (.ofInt n)

/-- A number with a sign is read by what follows its whole part. -/
theorem number?_signed {chars whole rest : List Char} (hminus : chars.head? ≠ some '-')
    (hspan : chars.span Char.isDigit = (whole, rest)) (hok : Json.Token.wholePartOk whole = true)
    (hplaces : ∀ after, rest = '.' :: after → ∃ c, after.head? = some c ∧ c.isDigit = true) (negative : Bool) :
    Json.Token.number? (signed negative chars) =
      if rest.isEmpty then some (wholeNumber negative (if negative then -digitsValue whole else digitsValue whole))
      else (readDecimal? chars).map fun d => .float (.ofDecimal negative d.digits d.exponent) := by
  simp only [Json.Token.number?, wholeNumber]
  split
  all_goals rename_i hsigned
  on_goal 1 => obtain ⟨rfl, rfl⟩ := (signed_eq_cons_minus_iff hminus negative).1 hsigned
  on_goal 2 =>
    obtain rfl : negative = false := by
      cases negative with
      | false => rfl
      | true => exact absurd rfl (hsigned chars)
    simp only [signed, Bool.false_eq_true, if_false]
  -- the sign is off in both cases
  all_goals
    simp only [hspan]
    rw [if_neg (by simp [hok]), apply_ite some, apply_ite some]
    refine ite_congr rfl (fun _ => rfl) fun _ => if_pos ?_
    split
    · obtain ⟨c, hc, hdigit⟩ := hplaces _ rfl
      obtain rfl := Option.some.inj hc
      exact hdigit
    · obtain ⟨c, hc, -⟩ := hplaces _ rfl
      simp at hc
    · rfl

theorem tail_ne_nil (hfloat : literal.LooksFloat) : literal.tail ≠ [] := by
  rw [tail]
  split_ifs with hplaces
  · obtain ⟨e, he⟩ := Option.ne_none_iff_exists'.1 (hfloat.resolve_left (absurd hplaces))
    simp [he, exponentChars]
  · simp

/-- A digit follows the point. -/
theorem isDigit_after_point (h : literal.WellFormed) {after : List Char} (htail : literal.tail = '.' :: after) :
    ∃ c, after.head? = some c ∧ c.isDigit = true := by
  rw [tail] at htail
  split_ifs at htail with hplaces
  · cases hexponent : literal.exponent <;> simp [hexponent, exponentChars] at htail
  · obtain ⟨c, cs, hcs⟩ := List.exists_cons_of_ne_nil hplaces
    obtain rfl := (List.cons.inj htail).2
    exact ⟨c, by simp [hcs], h.places c (by simp [hcs])⟩

/-- **A literal that looks like a floating-point number is read as one.** -/
theorem number?_chars (h : literal.WellFormed) (hfloat : literal.LooksFloat) (negative : Bool) :
    Json.Token.number? (signed negative literal.chars) =
      some (.float (.ofDecimal negative literal.value.digits literal.value.exponent)) := by
  have hspan : literal.chars.span Char.isDigit = (literal.whole, literal.tail) :=
    span_append h.whole fun _ => isDigit_of_head?_tail
  have hminus : literal.chars.head? ≠ some '-' := head?_ne_minus (whole_ne_nil h) h.whole literal.tail
  rw [number?_signed hminus hspan h.wholePartOk (fun _ => isDigit_after_point h) negative,
    if_neg (by simp [tail_ne_nil hfloat]), readDecimal?_chars h, Option.map_some]

/-- The literal stands for the decimal, some of whose zeros may be written out. -/
structure StandsFor (literal : Literal) (d : Decimal) : Prop where
  wellFormed : literal.WellFormed
  looksFloat : literal.LooksFloat
  value : ∃ zeros : Nat, literal.value = ⟨Nat.pow 10 zeros * d.digits, d.exponent - zeros⟩

end Literal

/-! ## Decimals as literals -/

namespace Decimal

variable {d : Decimal}

theorem wholePartOk_of_head? {whole : List Char} (hne : whole ≠ []) (h : whole.head? ≠ some '0') :
    Json.Token.wholePartOk whole = true := by
  obtain ⟨c, cs, rfl⟩ := List.exists_cons_of_ne_nil hne
  have hc : c ≠ '0' := fun hzero => h (by rw [hzero]; rfl)
  cases cs <;> simp [Json.Token.wholePartOk, hc]

theorem allDigits_digitChars (n : Nat) : AllDigits (digitChars n) := allDigits_toDigits n

theorem digitsValue_digitChars (n : Nat) : digitsValue (digitChars n) = n := digitsValue_toDigits n

theorem head?_digitChars_append {n : Nat} (h : n ≠ 0) (rest : List Char) : (digitChars n ++ rest).head? ≠ some '0' := by
  rw [List.head?_append, Option.or_of_isSome (by simp [digitChars])]
  exact head?_toDigits h

theorem wholePartOk_digitChars (n : Nat) : Json.Token.wholePartOk (digitChars n) = true := by
  by_cases hzero : n = 0
  · rw [hzero]
    rfl
  · exact wholePartOk_of_head? Nat.toDigits_ne_nil (head?_toDigits hzero)

/-- A decimal without places is written with a zero behind the point. -/
theorem exists_literal_of_nonneg (hexponent : 0 ≤ d.exponent) (hzero : d.digits = 0 → d.exponent = 0) :
    ∃ literal : Literal, d.positionalChars true = literal.chars ∧ literal.StandsFor d := by
  obtain ⟨zeros, hzeros⟩ : ∃ zeros : Nat, d.exponent = zeros := Int.eq_ofNat_of_zero_le hexponent
  refine ⟨⟨digitChars d.digits ++ List.replicate zeros '0', ['0'], none⟩, ?_, ⟨?_, ?_, ?_⟩, ?_, zeros + 1, ?_⟩
  · simp [positionalChars, hzeros, Literal.chars, Literal.tail, Literal.exponentChars]
  · exact (allDigits_digitChars _).append (allDigits_zeros _)
  · simp [AllDigits]
  · by_cases hdigits : d.digits = 0
    · obtain rfl : zeros = 0 := by
        have := hzero hdigits
        omega
      simp [hdigits, digitChars, Json.Token.wholePartOk]
    · exact wholePartOk_of_head? (by simp [digitChars]) (head?_digitChars_append hdigits _)
  · exact .inl (by simp)
  · have hvalue : digitsValue ((digitChars d.digits ++ List.replicate zeros '0') ++ ['0']) =
        Nat.pow 10 (zeros + 1) * d.digits := by
      have hten : Nat.pow 10 (zeros + 1) = Nat.pow 10 1 * Nat.pow 10 zeros := by rw [Nat.add_comm, ten_pow_add]
      have hlast : digitsValue ['0'] = 0 := rfl
      rw [digitsValue_append, digitsValue_append, digitsValue_digitChars, digitsValue_zeros, List.length_replicate,
        hlast, hten, Nat.mul_assoc]
      rfl
    have hexponent : (0 : Int) - (1 : Nat) = d.exponent - (zeros + 1 : Nat) := by omega
    rw [Literal.value, hvalue]
    exact congrArg _ hexponent

/-- Digits that are padded to leave one before the point have a zero there only on its own. -/
theorem wholePartOk_take {n places : Nat} {padded : List Char}
    (hpadded : List.replicate (places + 1 - (digitChars n).length) '0' ++ digitChars n = padded) (hplaces : 0 < places) :
    Json.Token.wholePartOk (padded.take (padded.length - places)) = true := by
  by_cases hshort : (digitChars n).length ≤ places
  · have hcount : padded.length - places = 1 := by
      rw [← hpadded, List.length_append, List.length_replicate]
      omega
    rw [hcount]
    cases padded with
    | nil => simp at hcount
    | cons c cs => rfl
  · have hzero : n ≠ 0 := by
      rintro rfl
      exact hshort hplaces
    obtain rfl : digitChars n = padded := by
      rw [← hpadded, Nat.sub_eq_zero_of_le (Nat.lt_of_not_le hshort)]
      rfl
    have hlength : (digitChars n).length - places ≠ 0 := by omega
    refine wholePartOk_of_head? ?_ ?_
    · simpa [digitChars] using hlength
    · rw [List.head?_take, if_neg hlength]
      exact head?_toDigits hzero

/-- A decimal with places is written with zeros in front where it has too few digits. -/
theorem exists_literal_of_neg (hexponent : d.exponent < 0) :
    ∃ literal : Literal, d.positionalChars true = literal.chars ∧ literal.StandsFor d := by
  obtain ⟨places, hplaces⟩ : ∃ places, (-d.exponent).toNat = places := ⟨_, rfl⟩
  obtain ⟨padded, hpadded⟩ : ∃ padded,
      List.replicate (places + 1 - (digitChars d.digits).length) '0' ++ digitChars d.digits = padded := ⟨_, rfl⟩
  have hlength : places < padded.length := by
    rw [← hpadded, List.length_append, List.length_replicate]
    omega
  have hpositive : 0 < places := by omega
  have hall : AllDigits padded := hpadded ▸ (allDigits_zeros _).append (allDigits_digitChars _)
  have hdrop : padded.drop (padded.length - places) ≠ [] := by
    rw [← List.length_pos_iff, List.length_drop]
    omega
  refine ⟨⟨padded.take (padded.length - places), padded.drop (padded.length - places), none⟩, ?_, ⟨?_, ?_, ?_⟩, ?_, 0, ?_⟩
  · simp [positionalChars, Int.not_le.2 hexponent, hplaces, hpadded, Literal.chars, Literal.tail, hdrop,
      Literal.exponentChars]
  · exact fun c hc => hall c (List.mem_of_mem_take hc)
  · exact fun c hc => hall c (List.mem_of_mem_drop hc)
  · exact wholePartOk_take hpadded hpositive
  · exact .inl hdrop
  · have hvalue : digitsValue padded = d.digits := by
      rw [← hpadded, digitsValue_append, digitsValue_zeros, Nat.mul_zero, Nat.zero_add, digitsValue_digitChars]
    have hcount : (0 : Int) - ((padded.drop (padded.length - places)).length : Nat) = d.exponent - (0 : Nat) := by
      rw [List.length_drop]
      omega
    rw [Literal.value, List.take_append_drop, hvalue]
    exact congrArg₂ Decimal.mk (Nat.one_mul _).symm hcount

/-- In scientific form all digits but one are places. -/
theorem exists_literal_of_scientific (d : Decimal) :
    ∃ literal : Literal, d.scientificChars = literal.chars ∧ literal.StandsFor d := by
  obtain ⟨first, rest, hdigits⟩ : ∃ first rest, digitChars d.digits = first :: rest :=
    List.exists_cons_of_ne_nil Nat.toDigits_ne_nil
  have hall : AllDigits (first :: rest) := hdigits ▸ allDigits_digitChars _
  refine ⟨⟨[first], rest, some d.scientificExponent⟩, ?_, ⟨?_, ?_, ?_⟩, ?_, 0, ?_⟩
  · cases rest <;> simp [scientificChars, hdigits, Literal.chars, Literal.tail, Literal.exponentChars]
  · exact fun c hc => hall c (List.mem_cons.2 (.inl (List.mem_singleton.1 hc)))
  · exact fun c hc => hall c (List.mem_cons_of_mem _ hc)
  · rfl
  · exact .inr (by simp)
  · have hvalue : digitsValue (first :: rest) = d.digits := hdigits ▸ digitsValue_digitChars _
    have hcount : d.scientificExponent - (rest.length : Nat) = d.exponent - (0 : Nat) := by
      have hlength : digitCount d.digits = rest.length + 1 := congrArg List.length hdigits
      rw [scientificExponent, hlength]
      omega
    exact congrArg₂ Decimal.mk (hvalue.trans (Nat.one_mul _).symm) hcount

theorem exists_literal (hzero : d.digits = 0 → d.exponent = 0) :
    ∃ literal : Literal, d.chars .json = literal.chars ∧ literal.StandsFor d := by
  rw [chars]
  split
  · rcases Int.lt_or_le d.exponent 0 with hneg | hnonneg
    · exact exists_literal_of_neg hneg
    · exact exists_literal_of_nonneg hnonneg hzero
  · exact exists_literal_of_scientific d

end Decimal

/-! ## The texts of numbers -/

/-- The text is a literal that is read as the JSON value. -/
def IsNumeral (text : String) (json : Json) : Prop :=
  ∃ negative, ∃ literal : Literal,
    literal.WellFormed ∧ text.toList = signed negative literal.chars ∧ Json.Token.number? text.toList = some json

theorem toList_toString (n : Int) : (toString n).toList = signed (decide (n < 0)) (Decimal.digitChars n.natAbs) := by
  cases n with
  | ofNat n => exact Nat.toList_repr
  | negSucc n =>
    have htext : (toString (Int.negSucc n)).toList = "-".toList ++ (n + 1).repr.toList := String.toList_append
    rw [htext, Nat.toList_repr, decide_eq_true (Int.negSucc_lt_zero n)]
    simp [signed, Decimal.digitChars]

theorem wholeNumber_eq_integer {n : Int} (hlower : Int64.minValue.toInt ≤ n) (hupper : n < UInt64.size) :
    Literal.wholeNumber (decide (n < 0)) (if decide (n < 0) = true then -n.natAbs else n.natAbs) = .integer n := by
  have hvalue : (if decide (n < 0) = true then -(n.natAbs : Int) else n.natAbs) = n := by
    rw [Int.natCast_natAbs]
    split <;> rename_i hnegative <;> simp only [decide_eq_true_eq] at hnegative
    · rw [abs_of_neg hnegative, Int.neg_neg]
    · rw [abs_of_nonneg (Int.not_lt.1 hnegative)]
  have hzero : ¬(decide (n < 0) && n == 0) = true := by
    simp only [Bool.and_eq_true, decide_eq_true_eq, beq_iff_eq]
    omega
  rw [hvalue, Literal.wholeNumber, if_neg hzero, if_pos ⟨hlower, hupper⟩]

/-- **An integer is written as a literal without places and exponent**, which is read as the integer. -/
theorem isNumeral_toString {n : Int} (hlower : Int64.minValue.toInt ≤ n) (hupper : n < UInt64.size) :
    IsNumeral (toString n) (.integer n) := by
  obtain ⟨digits, hdigits⟩ : ∃ digits, Decimal.digitChars n.natAbs = digits := ⟨_, rfl⟩
  have hall : AllDigits digits := hdigits ▸ Decimal.allDigits_digitChars _
  have hok : Json.Token.wholePartOk digits = true := hdigits ▸ Decimal.wholePartOk_digitChars _
  have hvalue : digitsValue digits = n.natAbs := hdigits ▸ Decimal.digitsValue_digitChars _
  have htext : (toString n).toList = signed (decide (n < 0)) digits := by rw [toList_toString, hdigits]
  have hspan : digits.span Char.isDigit = (digits, []) := by
    simpa using @span_append Char.isDigit digits [] hall (by simp)
  have hminus : digits.head? ≠ some '-' := by
    simpa using head?_ne_minus (hdigits ▸ Nat.toDigits_ne_nil) hall []
  have hchars : Literal.chars ⟨digits, [], none⟩ = digits := List.append_nil digits
  refine ⟨decide (n < 0), ⟨digits, [], none⟩, ⟨hall, by simp [AllDigits], hok⟩, by rw [htext, hchars], ?_⟩
  rw [htext, Literal.number?_signed hminus hspan hok (by simp), hvalue, wholeNumber_eq_integer hlower hupper]
  rfl

namespace Binary64

variable {x : Binary64}

theorem digits_shortest (tie : DecimalTie) (x : Binary64) :
    (Decimal.shortest tie x).digits = 0 → (Decimal.shortest tie x).exponent = 0 := by
  intro hdigits
  cases hzero : x.isZero with
  | true => rw [Decimal.shortest, if_pos hzero]
  | false => exact absurd hdigits (Decimal.digits_ne_zero (Decimal.readsBack_shortest tie hzero) hzero)

theorem toList_text (hfinite : x.isFinite = true) :
    (x.text .json).toList = signed x.negative ((Decimal.shortest .even x).chars .json) := by
  obtain ⟨hnan, hinfinite⟩ := isFinite_iff.1 hfinite
  rw [text, hnan, hinfinite, if_neg (by simp), if_neg (by simp), String.toList_ofList]
  rfl

/-- **The JSON text of a finite number is a literal that is read as the number.** -/
theorem isNumeral_text (hfinite : x.isFinite = true) : IsNumeral (x.text .json) (.float x) := by
  obtain ⟨literal, hchars, hliteral⟩ := Decimal.exists_literal (digits_shortest .even x)
  obtain ⟨zeros, hvalue⟩ := hliteral.value
  have htext : (x.text .json).toList = signed x.negative literal.chars := by rw [toList_text hfinite, hchars]
  refine ⟨x.negative, literal, hliteral.wellFormed, htext, ?_⟩
  rw [htext, Literal.number?_chars hliteral.wellFormed hliteral.looksFloat, hvalue,
    Decimal.ofDecimal_shortest .even hfinite]

end Binary64

end SchemaConstraints
