import SchemaConstraints.Pattern.Basic
import SchemaConstraints.Scalar

set_option autoImplicit false

/-! # Options of the scalar constraint

Every axis is optional, and an axis that is not set is not checked. -/

namespace SchemaConstraints

/-- What the scalar constraint demands of numbers and strings. -/
structure ScalarOptions where
  /-- Inclusive lower bound of numbers. -/
  min : Option Number := none
  /-- Inclusive upper bound of numbers. -/
  max : Option Number := none
  /-- The allowed values, compared exactly. -/
  oneOf : Option (List Scalar) := none
  /-- Least number of code points of a string. -/
  minLength : Option Nat := none
  /-- Greatest number of code points of a string. -/
  maxLength : Option Nat := none
  /-- A pattern that strings must match. -/
  regex : Option Pattern := none

/-- Equality of two settings of which each may be missing. -/
def optionEquals {α : Type} (equals : α → α → Bool) : Option α → Option α → Bool
  | none, none => true
  | some a, some b => equals a b
  | _, _ => false

namespace ScalarOptions

/-- Equality of options: numbers by value, allowed values by exact equality, patterns by their text. -/
def equals (a b : ScalarOptions) : Bool :=
  optionEquals Number.numEq a.min b.min && optionEquals Number.numEq a.max b.max &&
    optionEquals (List.isEqv · · Scalar.equals) a.oneOf b.oneOf &&
    a.minLength == b.minLength && a.maxLength == b.maxLength && decide (a.regex = b.regex)

end ScalarOptions

end SchemaConstraints
