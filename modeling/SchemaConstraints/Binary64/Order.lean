import SchemaConstraints.Binary64.Basic

set_option autoImplicit false

/-! # Comparing double-precision numbers

Numbers other than NaN are points of the extended line, finite ones a whole number of units of
`2 ^ (-1074)` from zero. Comparison is that of the points: both zeros are one point, and NaN, which is no
point, compares with nothing. -/

namespace SchemaConstraints

/-- A point of the line of numbers with both infinities; a finite point is counted in units. -/
inductive LinePoint where
  | bottom
  | units (n : Int)
  | top
  deriving DecidableEq, Repr

namespace LinePoint

/-- The order of the line. -/
def compare : LinePoint → LinePoint → Ordering
  | .bottom, .bottom | .top, .top => .eq
  | .bottom, _ | _, .top => .lt
  | _, .bottom | .top, _ => .gt
  | .units m, .units n => Ord.compare m n

end LinePoint

namespace Binary64

/-- The point of the line that a number stands for; none for NaN. -/
def point? (x : Binary64) : Option LinePoint :=
  if x.isNaN then none
  else if x.isInfinite then some (if x.negative then .bottom else .top)
  else some (.units x.signedUnits)

/-- Comparison of two numbers, undefined when one of them is NaN. -/
def compare? (x y : Binary64) : Option Ordering := do
  return (← x.point?).compare (← y.point?)

/-- Numerical equality: the zeros are equal and NaN equals nothing, itself included. -/
def numEq (x y : Binary64) : Bool := x.compare? y == some .eq

end Binary64

end SchemaConstraints
