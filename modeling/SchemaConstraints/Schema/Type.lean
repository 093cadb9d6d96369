set_option autoImplicit false

/-! # Types of schema elements

A type is a named type with any number of list and non-null wrappers around it. Non-null adds nothing to a
type that is non-null already, so types built by `named`, `list` and `required` never have two such
wrappers in a row. -/

namespace SchemaConstraints

/-- The kind of a named type. -/
inductive TypeKind where
  | int
  | float
  | string
  | boolean
  | id
  | enum
  | upload
  /-- A scalar that the schema defines. -/
  | customScalar
  | object
  | interface
  | inputObject
  deriving DecidableEq, Repr

/-- Whether a type of this kind has no further structure: scalars and enums. -/
def TypeKind.isLeaf : TypeKind → Bool
  | .object | .interface | .inputObject => false
  | _ => true

/-- A named type. -/
structure NamedType where
  name : String
  kind : TypeKind
  deriving DecidableEq, Repr

/-- A type with its wrappers. -/
inductive TypeRef where
  | named (type : NamedType)
  | list (inner : TypeRef)
  | nonNull (inner : TypeRef)
  deriving DecidableEq, Repr

namespace TypeRef

/-! ## Building types -/

/-- A named type without wrappers. -/
def ofName (name : String) (kind : TypeKind) : TypeRef := .named ⟨name, kind⟩

/-- Integers. -/
def int : TypeRef := ofName "Int" .int

/-- Floating-point numbers. -/
def float : TypeRef := ofName "Float" .float

/-- Strings. -/
def string : TypeRef := ofName "String" .string

/-- Truth values. -/
def boolean : TypeRef := ofName "Boolean" .boolean

/-- Identifiers, which are written as strings or integers. -/
def id : TypeRef := ofName "ID" .id

/-- Uploaded files. -/
def upload : TypeRef := ofName "Upload" .upload

/-- An object type. -/
def object (name : String) : TypeRef := ofName name .object

/-- An input object type. -/
def inputObject (name : String) : TypeRef := ofName name .inputObject

/-- The type without null, which is itself if it is non-null already. -/
def required : TypeRef → TypeRef
  | .nonNull inner => .nonNull inner
  | type => .nonNull type

/-! ## Looking at types -/

/-- The type without an outer non-null wrapper. -/
def nullable : TypeRef → TypeRef
  | .nonNull inner => inner
  | type => type

/-- Whether the type is a list, apart from non-null. -/
def isList (type : TypeRef) : Bool :=
  match type.nullable with
  | .list _ => true
  | _ => false

/-- The number of list wrappers. -/
def listDepth : TypeRef → Nat
  | .named _ => 0
  | .list inner => inner.listDepth + 1
  | .nonNull inner => inner.listDepth

/-- The named type inside all wrappers. -/
def leaf : TypeRef → NamedType
  | .named type => type
  | .list inner | .nonNull inner => inner.leaf

/-- The type as it is written in a schema. -/
def text : TypeRef → String
  | .named type => type.name
  | .list inner => "[" ++ inner.text ++ "]"
  | .nonNull inner => inner.text ++ "!"

end TypeRef

end SchemaConstraints
