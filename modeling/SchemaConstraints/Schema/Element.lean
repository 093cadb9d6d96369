import SchemaConstraints.Schema.Coordinate
import SchemaConstraints.Schema.Type

set_option autoImplicit false

/-! # Schema elements

The element that a constraint decorates, as the schema describes it: its coordinate, its kind, its type,
and the names of its members, which are the fields of a type and the arguments of a field. -/

namespace SchemaConstraints

/-- What kind of element a constraint decorates. -/
inductive ElementKind where
  /-- An output field. -/
  | field
  /-- An argument of a field. -/
  | argument
  /-- A variable of an operation. -/
  | variable
  /-- An object or interface type. -/
  | objectType
  /-- An input object type. -/
  | inputType
  /-- A field of an input object type. -/
  | inputField
  deriving DecidableEq, Repr

namespace ElementKind

/-- Whether values come in through an element of this kind. -/
def isInput : ElementKind → Bool
  | .argument | .variable | .inputType | .inputField => true
  | .field | .objectType => false

/-- Whether an element of this kind is a type of its own. -/
def isType : ElementKind → Bool
  | .objectType | .inputType => true
  | _ => false

end ElementKind

/-- A schema element. -/
structure SchemaElement where
  coordinate : Coordinate
  kind : ElementKind
  type : TypeRef
  members : List String := []
  deriving DecidableEq, Repr

namespace SchemaElement

/-- A field of a type. -/
def field (owner name : String) (type : TypeRef) : SchemaElement :=
  { coordinate := .field owner name, kind := .field, type := type }

/-- An argument of a field. -/
def argument (owner fieldName name : String) (type : TypeRef) : SchemaElement :=
  { coordinate := .argument owner fieldName name, kind := .argument, type := type }

/-- A variable of an operation. -/
def operationVariable (name : String) (type : TypeRef) : SchemaElement :=
  { coordinate := .variable name, kind := .variable, type := type }

/-- An object type with its fields. -/
def objectType (name : String) (fields : List String) : SchemaElement :=
  { coordinate := .type name, kind := .objectType, type := .object name, members := fields }

/-- An input object type with its fields. -/
def inputType (name : String) (fields : List String) : SchemaElement :=
  { coordinate := .type name, kind := .inputType, type := .inputObject name, members := fields }

/-- Whether the element has a member of this name. -/
def hasMember (element : SchemaElement) (name : String) : Bool := element.members.contains name

end SchemaElement

end SchemaConstraints
