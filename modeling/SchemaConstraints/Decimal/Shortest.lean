import SchemaConstraints.Binary64.Basic

set_option autoImplicit false

/-! # The shortest decimal of a double-precision number

A decimal *reads back* as a finite number `x` if `x` is the nearest number of the format to it. The
decimals that do form an interval around `x`, reaching half way to each neighbour; its two ends belong to
it exactly if the code of `x` is even, since that is where ties go.

`shortest` finds the decimal of the fewest digits that reads back. For one digit, two digits and so on
it looks at the two points of that decimal grid next to `x`: if a grid has a point in the interval at all,
one of these two is in it. If both are, the nearer one is taken, and an exact tie is settled by a rule
that the caller chooses. Seventeen digits always suffice; were they not enough, the exact expansion would
be given.

Magnitudes are counted in quarters of a unit, `2 ^ (-1076)`, so the ends of the interval are whole. -/

namespace SchemaConstraints

/-- The number `digits * 10 ^ exponent`. -/
structure Decimal where
  digits : Nat
  exponent : Int
  deriving DecidableEq, Repr

/-- Which of two decimals that are equally near is taken. -/
inductive DecimalTie where
  /-- The greater one. -/
  | up
  /-- The one with an even last digit. -/
  | even
  deriving DecidableEq, Repr

namespace Decimal

/-- How many decimal digits a natural number has; zero has one. -/
def digitCount (n : Nat) : Nat := (Nat.toDigits 10 n).length

/-- Move trailing zeros of the digits into the exponent, as often as `limit` allows. -/
def trim (limit : Nat) (d : Decimal) : Decimal :=
  match limit with
  | 0 => d
  | limit + 1 =>
    if d.digits ≠ 0 ∧ d.digits % 10 = 0 then trim limit ⟨d.digits / 10, d.exponent + 1⟩ else d

/-! ## The interval that reads back -/

/-- The magnitude in quarters of a unit. -/
def quarters (x : Binary64) : Nat := 4 * x.units

/-- At a power of two, except the least normal one, the neighbour below is only half as far away. -/
def narrowBelow (x : Binary64) : Bool := x.fraction == 0 && decide (1 < x.exponentField)

/-- The lower end of the interval, in quarters of a unit. -/
def lowerEnd (x : Binary64) : Nat :=
  quarters x - (if narrowBelow x then 1 else 2) * Nat.pow 2 x.ulpExponent

/-- The upper end of the interval, in quarters of a unit. -/
def upperEnd (x : Binary64) : Nat := quarters x + 2 * Nat.pow 2 x.ulpExponent

/-- Whether `num / den` quarters of a unit lie in the interval. -/
def readsBack (x : Binary64) (num den : Nat) : Bool :=
  if x.code % 2 = 0 then decide (lowerEnd x * den ≤ num) && decide (num ≤ upperEnd x * den)
  else decide (lowerEnd x * den < num) && decide (num < upperEnd x * den)

/-! ## Searching the grids -/

/-- The point of the grid of step `10 ^ exponent` that reads back, if there is one: of the grid's two points
    next to the magnitude the nearer one that lies in the interval. -/
def onGrid (tie : DecimalTie) (x : Binary64) (exponent : Int) : Option Decimal :=
  let scale := Nat.pow 10 (-exponent).toNat
  let step := Nat.pow 10 exponent.toNat * Nat.pow 2 1076
  let value := quarters x * scale
  let below := value / step
  let twiceRest := 2 * (value % step)
  match readsBack x (below * step) scale, readsBack x ((below + 1) * step) scale with
  | false, false => none
  | true, false => some ⟨below, exponent⟩
  | false, true => some ⟨below + 1, exponent⟩
  | true, true =>
    let takeUpper :=
      decide (step < twiceRest) ||
        (twiceRest == step && (match tie with | .up => true | .even => below % 2 == 1))
    some ⟨if takeUpper then below + 1 else below, exponent⟩

/-- How many digits a magnitude has before its point; zero or less for a magnitude below one. -/
def pointPosition (x : Binary64) : Int :=
  (digitCount (quarters x * Nat.pow 10 400 / Nat.pow 2 1076) : Int) - 400

/-- The decimal of the fewest digits that reads back as the magnitude of a finite number. -/
def shortest (tie : DecimalTie) (x : Binary64) : Decimal :=
  if x.isZero then ⟨0, 0⟩
  else
    let position := pointPosition x
    let found := (List.range 17).findSome? fun n => onGrid tie x (position - (n + 1 : Nat))
    (found.getD ⟨x.units * Nat.pow 5 1074, -1074⟩).trim 17

end Decimal

end SchemaConstraints
