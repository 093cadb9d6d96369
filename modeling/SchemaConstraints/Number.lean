import SchemaConstraints.Binary64.Whole
import SchemaConstraints.Decimal.Text
import SchemaConstraints.Json.Basic

set_option autoImplicit false

/-! # Numbers

A number is a 64-bit integer or a floating-point number. Both kinds are points of one line. Numbers are
compared within their own formats, an integer with a floating-point number as well, and without ever rounding
an integer. -/

namespace SchemaConstraints

/-- An integer or a floating-point number. -/
inductive Number where
  | int (n : Int64)
  | float (x : Binary64)
  deriving DecidableEq, Repr

namespace Number

/-- The point of the line that a number stands for; none for NaN. -/
def point? : Number → Option LinePoint
  | .int n => some (.units (n.toInt * Binary64.unitsOfOne))
  | .float x => x.point?

/-- Comparison of an integer with a floating-point number. One that is beyond all 64-bit integers is told by its
    size, the whole part of any other fits into 64 bits, and where it equals the integer the sign of the rest
    decides. -/
def compareIntFloat? (n : Int64) (x : Binary64) : Option Ordering :=
  if x.isNaN then none
  else if (x.compare? .int64Limit).any Ordering.isGE then some .lt
  else if (x.compare? Binary64.int64Limit.neg).any Ordering.isLT then some .gt
  else
    match Ord.compare n.toInt x.truncate.toInt64.toInt with
    | .eq => Binary64.zero.compare? (x.sub x.truncate)
    | order => some order

/-- Comparison of two numbers, undefined when one of them is NaN. -/
def compare? : Number → Number → Option Ordering
  | .int m, .int n => some (Ord.compare m.toInt n.toInt)
  | .float x, .float y => x.compare? y
  | .int n, .float x => compareIntFloat? n x
  | .float x, .int n => (compareIntFloat? n x).map Ordering.swap

/-- Numerical equality, across kinds. -/
def numEq (a b : Number) : Bool := a.compare? b == some .eq

/-- Less than. -/
def less (a b : Number) : Bool := a.compare? b == some .lt

/-- Less than or equal; false when one of the two is NaN. -/
def atMost (a b : Number) : Bool := a.compare? b == some .lt || a.compare? b == some .eq

/-- The number in plain positional writing. -/
def text : Number → String
  | .int n => toString n.toInt
  | .float x => x.text .plain

/-- The number as a JSON value. -/
def toJson : Number → Json
  | .int n => .integer n.toInt
  | .float x => .float x

/-- An integer of any size as a number: an integer as long as it fits into 64 bits, and the nearest
    floating-point number beyond. -/
def ofInt (n : Int) : Number :=
  if Int64.minValue.toInt ≤ n ∧ n ≤ Int64.maxValue.toInt then .int (Int64.ofInt n) else .float (.ofInt n)

/-- The number that a JSON value spells. -/
def ofJson? : Json → Option Number
  | .integer n => some (ofInt n)
  | .float x => some (.float x)
  | _ => none

end Number

end SchemaConstraints
