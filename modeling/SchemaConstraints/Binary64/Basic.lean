set_option autoImplicit false

/-! # Double-precision numbers

A `Binary64` is a number of the IEEE-754 binary64 format: a sign and a *code*, which is the other 63
bits read as a natural number. The code's upper eleven bits are the exponent field and its lower 52
bits the fraction. Codes below `infinityCode` are finite, `infinityCode` itself is infinity and every
code above it is NaN.

All arithmetic on these numbers is done on natural numbers and integers. Every finite number is a whole
multiple of `2 ^ (-1074)`, so `units`, the multiple itself, describes it exactly; `units` grows
strictly with the code, which makes the code an order key for magnitudes. -/

namespace SchemaConstraints

/-- The code of infinity: an exponent field of all ones and no fraction. -/
def Binary64.infinityCode : Nat := 2047 * Nat.pow 2 52

/-- A number of the binary64 format. -/
structure Binary64 where
  /-- The sign bit. Zero and NaN have one too. -/
  negative : Bool
  /-- Exponent field and fraction, read as one natural number. -/
  code : Nat
  /-- The code has 63 bits. -/
  code_lt : code < Nat.pow 2 63
  deriving DecidableEq, Repr

namespace Binary64

/-- The positive zero. -/
def zero : Binary64 := ⟨false, 0, by decide⟩

/-- The number one. -/
def one : Binary64 := ⟨false, 1023 * Nat.pow 2 52, by decide⟩

/-- Infinity with the given sign. -/
def infinity (negative : Bool) : Binary64 := ⟨negative, infinityCode, by decide⟩

/-- The quiet NaN. -/
def nan : Binary64 := ⟨false, infinityCode + Nat.pow 2 51, by decide⟩

/-- The finite number with the given sign and code; a code that reaches infinity gives infinity. -/
def ofCode (negative : Bool) (code : Nat) : Binary64 :=
  ⟨negative, min code infinityCode, Nat.lt_of_le_of_lt (Nat.min_le_right _ _) (by decide)⟩

instance : Inhabited Binary64 := ⟨zero⟩

/-! ## Classification -/

/-- NaN, the result of an undefined operation. -/
def isNaN (x : Binary64) : Bool := decide (infinityCode < x.code)

/-- Infinity of either sign. -/
def isInfinite (x : Binary64) : Bool := x.code == infinityCode

/-- Neither infinite nor NaN. -/
def isFinite (x : Binary64) : Bool := decide (x.code < infinityCode)

/-- Zero of either sign. -/
def isZero (x : Binary64) : Bool := x.code == 0

/-- The number with the other sign. -/
def neg (x : Binary64) : Binary64 := ⟨!x.negative, x.code, x.code_lt⟩

/-- Both zeros become the positive one; any other number stays itself. -/
def foldZero (x : Binary64) : Binary64 := if x.isZero then zero else x

/-! ## Exact magnitudes -/

/-- The exponent field. -/
def exponentField (x : Binary64) : Nat := x.code / Nat.pow 2 52

/-- The fraction field. -/
def fraction (x : Binary64) : Nat := x.code % Nat.pow 2 52

/-- The significand as a whole number: the fraction, with the leading one that a normal number leaves out. -/
def significand (x : Binary64) : Nat :=
  if x.exponentField = 0 then x.fraction else Nat.pow 2 52 + x.fraction

/-- The distance from the number to the next greater magnitude is `2 ^ ulpExponent` units. -/
def ulpExponent (x : Binary64) : Nat := x.exponentField - 1

/-- The magnitude of a finite number, counted in units of `2 ^ (-1074)`. -/
def units (x : Binary64) : Nat := x.significand * Nat.pow 2 x.ulpExponent

/-- A finite number as a signed count of units of `2 ^ (-1074)`; both zeros are `0`. -/
def signedUnits (x : Binary64) : Int := if x.negative then -(x.units : Int) else x.units

end Binary64

end SchemaConstraints
