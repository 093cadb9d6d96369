import SchemaConstraints.Fields
import SchemaConstraints.Number

set_option autoImplicit false

/-! # Values under validation

A value is what a constraint is checked against: a leaf, a list that may hold nulls, an object, an uploaded
file, or a reference to a request variable. Variables are resolved where a value is looked at, one step at
a time: `resolve` gives the binding of a variable, or null for an unbound one, and does not follow a
binding that is a variable itself. -/

namespace SchemaConstraints

/-- Where an object came from. -/
inductive ObjectShape where
  /-- Arguments or input fields: a field that the caller left out is simply unset. -/
  | input
  /-- A response restricted to the requested fields: a missing field was not requested. -/
  | output
  deriving DecidableEq, Repr

/-- An uploaded file. -/
structure UploadedFile where
  filename : String
  mimeType : String
  /-- Size in bytes. -/
  size : Nat
  deriving DecidableEq, Repr

/-- A runtime value. The fields of an object are a map in the sense of `Fields`. -/
inductive Value where
  | null
  | bool (b : Bool)
  | int (n : Int64)
  | float (x : Binary64)
  | string (s : String)
  /-- An enum value: its name and the value it stands for. -/
  | enum (name : String) (repr : Value)
  | list (items : List Value)
  | object (shape : ObjectShape) (fields : List (String × Value))
  | upload (file : UploadedFile)
  /-- A reference to a request variable, without the dollar sign. -/
  | variable (name : String)
  deriving Repr, Inhabited

/-- The variables of a request and their values. -/
abbrev Bindings := Fields Value

namespace Value

/-- The value that a variable is bound to, null if it is unbound; any other value is itself. -/
def resolve (bindings : Bindings) : Value → Value
  | .variable name => (Fields.find? name bindings).getD .null
  | value => value

/-- What constraints look at: an enum value gives way to what it stands for. -/
def underlying : Value → Value
  | .enum _ repr => repr.underlying
  | value => value

/-- Whether this is the null value itself. -/
def isNull : Value → Bool
  | .null => true
  | _ => false

/-- A number as a value. -/
def ofNumber : Number → Value
  | .int n => .int n
  | .float x => .float x

/-- The number that a value is. -/
def number? : Value → Option Number
  | .int n => some (.int n)
  | .float x => some (.float x)
  | _ => none

mutual

/-- A JSON value as a runtime value; its objects have input shape. -/
def ofJson : Json → Value
  | .null => .null
  | .bool b => .bool b
  | .integer n => ofNumber (.ofInt n)
  | .float x => .float x
  | .string s => .string s
  | .array items => .list (ofJsonItems items)
  | .object members => .object .input (ofJsonMembers members)

/-- The items of a JSON array as runtime values. -/
def ofJsonItems : List Json → List Value
  | [] => []
  | item :: items => ofJson item :: ofJsonItems items

/-- The members of a JSON object as fields. -/
def ofJsonMembers : List (String × Json) → List (String × Value)
  | [] => []
  | (name, member) :: members => (name, ofJson member) :: ofJsonMembers members

end

end Value

end SchemaConstraints
