import SchemaConstraints.Value.Basic

set_option autoImplicit false

/-! # Scalars

A scalar is a leaf as it is written in a list of allowed values. Scalars are compared exactly and kind by
kind: the integer one and the floating-point one are different scalars. -/

namespace SchemaConstraints

/-- A leaf written in the arguments of a constraint. -/
inductive Scalar where
  | bool (b : Bool)
  | int (n : Int64)
  | float (x : Binary64)
  | string (s : String)
  deriving DecidableEq, Repr

namespace Scalar

/-- Equality within a kind, numerical for floating-point numbers, so NaN equals nothing. -/
def equals : Scalar → Scalar → Bool
  | .bool a, .bool b => a == b
  | .int a, .int b => a == b
  | .float a, .float b => a.numEq b
  | .string a, .string b => a == b
  | _, _ => false

/-- Whether a value, looked at through enums, is this scalar. -/
def matchesValue (scalar : Scalar) (value : Value) : Bool :=
  match scalar, value.underlying with
  | .bool a, .bool b => a == b
  | .int a, .int b => a == b
  | .float a, .float b => a.numEq b
  | .string a, .string b => a == b
  | _, _ => false

/-- The scalar as a value. -/
def toValue : Scalar → Value
  | .bool b => .bool b
  | .int n => .int n
  | .float x => .float x
  | .string s => .string s

/-- A number as a scalar. -/
def ofNumber : Number → Scalar
  | .int n => .int n
  | .float x => .float x

/-- The text of a scalar: strings are quoted without escapes. -/
def text : Scalar → String
  | .bool b => if b then "true" else "false"
  | .int n => toString n.toInt
  | .float x => x.text .plain
  | .string s => "\"" ++ s ++ "\""

/-- The scalar as a JSON value. -/
def toJson : Scalar → Json
  | .bool b => .bool b
  | .int n => .integer n.toInt
  | .float x => .float x
  | .string s => .string s

/-- The scalar that a JSON value spells; null, arrays and objects spell none. -/
def ofJson? : Json → Option Scalar
  | .bool b => some (.bool b)
  | .integer n => some (ofNumber (.ofInt n))
  | .float x => some (.float x)
  | .string s => some (.string s)
  | _ => none

end Scalar

end SchemaConstraints
