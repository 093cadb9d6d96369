import SchemaConstraints.Evaluate.Leaves
import SchemaConstraints.Options.Scalar

set_option autoImplicit false

/-! # Checking values against the scalar constraint

A number faces the bounds, a string the lengths and the pattern, and then either of them the list of
allowed values. Every other value but null faces the allowed values alone. Enum values count as what they
stand for. -/

namespace SchemaConstraints

namespace ScalarOptions

/-- A value that is not null must be one of the allowed values. -/
def checkOneOf (options : ScalarOptions) (value : Value) : Verdict :=
  Check.require .oneOf (options.oneOf.all fun allowed => allowed.any (·.matchesValue value))

/-- A number must lie within the bounds. A bound that is NaN limits nothing, nor is NaN limited. -/
def checkNumber (options : ScalarOptions) (n : Number) : Verdict :=
  (Check.require .min (options.min.all fun min => !n.less min)).or
    (Check.require .max (options.max.all fun max => !max.less n))

/-- A string must have an allowed length, in code points, and match the pattern. -/
def checkString (options : ScalarOptions) (s : String) : Verdict :=
  ((Check.require .minLength (options.minLength.all fun min => decide (min ≤ s.length))).or
    (Check.require .maxLength (options.maxLength.all fun max => decide (s.length ≤ max)))).or
    (Check.require .regex (options.regex.all (·.matchesIn s)))

/-- The checks that belong to the kind of a value. -/
def checkKind (options : ScalarOptions) : Value → Verdict
  | .int n => options.checkNumber (.int n)
  | .float x => options.checkNumber (.float x)
  | .string s => options.checkString s
  | _ => none

/-- The verdict on a value that is not a list. -/
def checkLeaf (options : ScalarOptions) : Value → Verdict
  | .null => none
  | value => (options.checkKind value.underlying).or (options.checkOneOf value.underlying)

/-- The verdict on a value: that on its first leaf that fails. -/
def verdict (options : ScalarOptions) (bindings : Bindings) (value : Value) : Verdict :=
  value.checkLeaves options.checkLeaf bindings

end ScalarOptions

end SchemaConstraints
