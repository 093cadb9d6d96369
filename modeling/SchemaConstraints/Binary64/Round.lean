import SchemaConstraints.Binary64.Basic

set_option autoImplicit false

/-! # Rounding to double precision

A nonnegative rational is rounded to the nearest number of the format; halfway between two of them the
one with the even code is taken. Rounding is one division: `roundDiv` at a scale at which neighbouring
numbers of the format are one apart. A carry out of the significand moves the code on to the next
exponent by itself, and past the greatest finite number to infinity. -/

namespace SchemaConstraints

/-- The quotient `num / den` rounded to the nearest natural number, halves to the even neighbour. -/
def roundDiv (num den : Nat) : Nat :=
  let quotient := num / den
  let twiceRest := 2 * (num % den)
  if twiceRest < den then quotient
  else if den < twiceRest then quotient + 1
  else quotient + quotient % 2

namespace Binary64

/-- The code nearest to `num / den` units of `2 ^ (-1074)`. Below `2 ^ 53` units, neighbours are one unit
    apart; above, a quotient of `53 + k` binary digits has neighbours `2 ^ k` units apart. -/
def nearestCode (num den : Nat) : Nat :=
  let k := (num / den).log2 - 52
  k * Nat.pow 2 52 + roundDiv num (den * Nat.pow 2 k)

/-- The number nearest to `± num / den` units of `2 ^ (-1074)`. -/
def ofUnits (negative : Bool) (num den : Nat) : Binary64 :=
  ofCode negative (nearestCode num den)

/-- The number nearest to an integer. -/
def ofInt (n : Int) : Binary64 := ofUnits (decide (n < 0)) (n.natAbs * Nat.pow 2 1074) 1

/-- Decimal exponents from which every nonzero magnitude is infinite. -/
def overflowExponent : Int := 310

/-- Decimal exponents up to which every magnitude below one rounds to zero. -/
def underflowExponent : Int := -345

/-- The number nearest to `± digits * 10 ^ exponent`. Magnitudes far outside the range of the format are
    recognised by their decimal length, without computing the power. -/
def ofDecimal (negative : Bool) (digits : Nat) (exponent : Int) : Binary64 :=
  let length : Int := (Nat.toDigits 10 digits).length
  if digits = 0 then ofCode negative 0
  else if length + exponent > overflowExponent then infinity negative
  else if length + exponent < underflowExponent then ofCode negative 0
  else if 0 ≤ exponent then ofUnits negative (digits * Nat.pow 10 exponent.toNat * Nat.pow 2 1074) 1
  else ofUnits negative (digits * Nat.pow 2 1074) (Nat.pow 10 (-exponent).toNat)

end Binary64

end SchemaConstraints
