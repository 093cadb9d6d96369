import SchemaConstraints.Binary64.Basic
import SchemaConstraints.Fields

set_option autoImplicit false

/-! # JSON values

Directive arguments and settings are JSON values. A JSON number is an integer or a floating-point number,
depending on how it was spelled, and the two are never mixed up: `1` and `1.0` are different values. -/

namespace SchemaConstraints

/-- A JSON value. The members of an object are a map in the sense of `Fields`. -/
inductive Json where
  | null
  | bool (b : Bool)
  | integer (n : Int)
  | float (x : Binary64)
  | string (s : String)
  | array (items : List Json)
  | object (members : List (String × Json))
  deriving Repr, Inhabited

namespace Json

/-- The object with the given members, where a later member replaces an earlier one of the same name. -/
def ofMembers (members : List (String × Json)) : Json := .object (Fields.ofEntries members)

/-- The value of a member of an object. -/
def member? (name : String) : Json → Option Json
  | .object members => Fields.find? name members
  | _ => none

/-- An array of strings. -/
def strings (items : List String) : Json := .array (items.map .string)

end Json

end SchemaConstraints
