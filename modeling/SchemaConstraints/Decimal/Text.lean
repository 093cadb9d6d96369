import SchemaConstraints.Binary64.Order
import SchemaConstraints.Binary64.Round
import SchemaConstraints.Decimal.Shortest

set_option autoImplicit false

/-! # Numbers as text

Writing: a `NumberStyle` says where positional writing ends, whether a whole number keeps a point, what
infinity and NaN are called and how ties between decimals go; the digits are the shortest that read back.

Reading: a decimal text is an optional sign, digits with an optional point, and an optional exponent. -/

namespace SchemaConstraints

/-- How floating-point numbers are written. -/
structure NumberStyle where
  /-- Which of two equally near decimals is written. -/
  tie : DecimalTie
  /-- Whether a number is written positionally, by the exponent of its scientific form. -/
  positional : Int → Bool
  /-- Whether a whole number in positional form ends in `.0`. -/
  wholePoint : Bool
  /-- The text of NaN. -/
  nan : String
  /-- The text of positive infinity. -/
  infinity : String
  /-- The text of negative infinity. -/
  negativeInfinity : String

namespace NumberStyle

/-- Positional at every size and without a point in whole numbers. -/
def plain : NumberStyle where
  tie := .up
  positional _ := true
  wholePoint := false
  nan := "NaN"
  infinity := "inf"
  negativeInfinity := "-inf"

/-- Positional from `0.00001` to below `10 ^ 16` and scientific elsewhere, and always recognisable as a
    floating-point number. JSON has no word for NaN and infinity, so they are written as null. -/
def json : NumberStyle where
  tie := .even
  positional exponent := decide (-5 ≤ exponent) && decide (exponent < 16)
  wholePoint := true
  nan := "null"
  infinity := "null"
  negativeInfinity := "null"

end NumberStyle

namespace Decimal

/-- The decimal digits of a natural number. -/
def digitChars (n : Nat) : List Char := Nat.toDigits 10 n

/-- The exponent that the scientific form of a decimal has. -/
def scientificExponent (d : Decimal) : Int := d.exponent + ((digitCount d.digits : Int) - 1)

/-- All digits around the point, padded with zeros. -/
def positionalChars (wholePoint : Bool) (d : Decimal) : List Char :=
  let digits := digitChars d.digits
  if 0 ≤ d.exponent then
    digits ++ List.replicate d.exponent.toNat '0' ++ (if wholePoint then ['.', '0'] else [])
  else
    let places := (-d.exponent).toNat
    let padded := List.replicate (places + 1 - digits.length) '0' ++ digits
    padded.take (padded.length - places) ++ '.' :: padded.drop (padded.length - places)

/-- One digit before the point, and the exponent with its sign. -/
def scientificChars (d : Decimal) : List Char :=
  let exponent := d.scientificExponent
  let mantissa :=
    match digitChars d.digits with
    | first :: second :: rest => first :: '.' :: second :: rest
    | short => short
  mantissa ++ 'e' :: (if exponent < 0 then '-' else '+') :: digitChars exponent.natAbs

/-- A decimal in a style. -/
def chars (style : NumberStyle) (d : Decimal) : List Char :=
  if style.positional d.scientificExponent then d.positionalChars style.wholePoint else d.scientificChars

end Decimal

namespace Binary64

/-- The text of a number in a style. -/
def text (style : NumberStyle) (x : Binary64) : String :=
  if x.isNaN then style.nan
  else if x.isInfinite then (if x.negative then style.negativeInfinity else style.infinity)
  else
    let magnitude := (Decimal.shortest style.tie x).chars style
    String.ofList (if x.negative then '-' :: magnitude else magnitude)

/-! ## Reading -/

/-- The number that decimal digits spell. -/
def digitsValue (digits : List Char) : Nat :=
  digits.foldl (fun n c => 10 * n + (c.toNat - '0'.toNat)) 0

/-- An optional sign: whether it is a minus, and what follows it. -/
def splitSign : List Char → Bool × List Char
  | '-' :: rest => (true, rest)
  | '+' :: rest => (false, rest)
  | rest => (false, rest)

/-- The exponent after the digits of a decimal: nothing, or the letter `e`, an optional sign and digits. -/
def readExponent? : List Char → Option Int
  | [] => some 0
  | mark :: rest =>
    let (negative, digits) := splitSign rest
    if (mark = 'e' || mark = 'E') && !digits.isEmpty && digits.all Char.isDigit then
      let n : Int := digitsValue digits
      some (if negative then -n else n)
    else none

/-- An unsigned decimal: digits, a point and further digits where at least one digit is there, and an
    optional exponent. -/
def readDecimal? (chars : List Char) : Option Decimal := do
  let (whole, rest) := chars.span Char.isDigit
  let (places, rest) :=
    match rest with
    | '.' :: rest => rest.span Char.isDigit
    | rest => ([], rest)
  if whole.isEmpty && places.isEmpty then none
  let exponent ← readExponent? rest
  return ⟨digitsValue (whole ++ places), exponent - places.length⟩

/-- The number nearest to what a text spells; infinity and NaN are spelled out, in letters of any case. -/
def ofText? (text : String) : Option Binary64 :=
  let (negative, rest) := splitSign text.toList
  let word := String.ofList (rest.map Char.toLower)
  if word = "inf" || word = "infinity" then some (infinity negative)
  else if word = "nan" then some (if negative then nan.neg else nan)
  else (readDecimal? rest).map fun d => ofDecimal negative d.digits d.exponent

end Binary64

end SchemaConstraints
