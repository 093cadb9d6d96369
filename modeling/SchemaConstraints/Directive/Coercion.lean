import SchemaConstraints.Options.Scalar
import SchemaConstraints.Schema.Element

set_option autoImplicit false

/-! # Allowed values as values of a type

The scalar directive applies to types whose leaf is an integer, a floating-point number, an identifier or a
string; a scalar of the schema counts as a string if it was declared to be one. The allowed values are
turned into values of the leaf as they would be if they were input: a whole number may stand for a
floating-point number or for an identifier. -/

namespace SchemaConstraints

/-- The kinds of leaves that the scalar directive applies to. -/
inductive ScalarLeaf where
  | int
  | float
  | id
  /-- A string, or a scalar of the schema that is one. -/
  | text
  deriving DecidableEq, Repr

namespace ScalarLeaf

/-- The leaf of a type, given the names of the scalars that are strings. -/
def ofType? (stringScalars : List String) (type : TypeRef) : Option ScalarLeaf :=
  match type.leaf.kind with
  | .int => some .int
  | .float => some .float
  | .id => some .id
  | .string => some .text
  | .customScalar => if stringScalars.contains type.leaf.name then some .text else none
  | _ => none

/-- Whether values of the leaf are numbers. -/
def isNumeric : ScalarLeaf → Bool
  | .int | .float => true
  | .id | .text => false

/-- An allowed value as a value of the leaf; none if it cannot be one. -/
def coerce? : ScalarLeaf → Scalar → Option Scalar
  | .int, .int n => some (.int n)
  | .float, .float x => some (.float x)
  | .float, .int n => some (.float (.ofInt n.toInt))
  | .id, .string s => some (.string s)
  | .id, .int n => some (.string (toString n.toInt))
  | .text, .string s => some (.string s)
  | _, _ => none

/-- An allowed value as a value of the leaf if it can be one, and as it is otherwise. -/
def coerce (leaf : ScalarLeaf) (entry : Scalar) : Scalar := (leaf.coerce? entry).getD entry

end ScalarLeaf

end SchemaConstraints
