import SchemaConstraints.Binary64.Order
import SchemaConstraints.Binary64.Round

set_option autoImplicit false

/-! # Whole parts

What it takes to compare a floating-point number with a 64-bit integer in machine operations: the whole part
of a number, which is a number of the format too, the integer that a number is cut down to, and the
difference of two numbers. -/

namespace SchemaConstraints

namespace Binary64

/-- The number one in units. -/
def unitsOfOne : Nat := Nat.pow 2 1074

/-- The exponent field of the number one, below which numbers have no whole part. -/
def oneExponent : Nat := 1023

/-- The exponent field from which all numbers are whole. -/
def wholeExponent : Nat := 1075

/-- `2 ^ 63`, the first number above all 64-bit integers. -/
def int64Limit : Binary64 := ⟨false, (oneExponent + 63) * Nat.pow 2 52, by decide⟩

/-- The number without what stands behind its point. The sign is kept, that of a zero included. -/
def truncate (x : Binary64) : Binary64 :=
  if x.exponentField < oneExponent then ⟨x.negative, 0, zero.code_lt⟩
  else
    let cleared := Nat.pow 2 (wholeExponent - x.exponentField)
    ⟨x.negative, x.code / cleared * cleared, Nat.lt_of_le_of_lt (Nat.div_mul_le_self _ _) x.code_lt⟩

/-- The 64-bit integer that a number is cut down to. Numbers beyond all integers give the last one on their side,
    and NaN gives zero. -/
def toInt64 (x : Binary64) : Int64 :=
  match x.point? with
  | none => 0
  | some .bottom => Int64.minValue
  | some .top => Int64.maxValue
  | some (.units n) => Int64.ofIntClamp (n.tdiv unitsOfOne)

/-- The difference of two numbers, rounded to nearest. A difference of zero is positive unless the positive zero is
    taken from the negative one. -/
def sub (x y : Binary64) : Binary64 :=
  if x.isNaN || y.isNaN then nan
  else if x.isInfinite then if y.isInfinite && x.negative == y.negative then nan else x
  else if y.isInfinite then y.neg
  else
    let difference := x.signedUnits - y.signedUnits
    ofUnits (if difference = 0 then x.negative && !y.negative else decide (difference < 0)) difference.natAbs 1

end Binary64

end SchemaConstraints
