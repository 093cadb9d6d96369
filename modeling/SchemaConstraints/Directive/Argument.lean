import SchemaConstraints.Constraint
import SchemaConstraints.Schema.Type

set_option autoImplicit false

/-! # Arguments of the directives

Every family has a directive, and the arguments of a directive are themselves constrained: counts must not
be negative, and lists of alternatives must not be empty. Two arguments have an input shape for their type.
The shape of list options has the arguments of the list directive for its fields, one of which has that
shape again. -/

namespace SchemaConstraints

/-- An argument of a directive, or a field of an input shape. -/
structure ArgumentDefinition where
  name : String
  type : TypeRef
  /-- What the argument's value must satisfy. -/
  constraint : Option Constraint := none

/-- An input object type for arguments. -/
structure InputShape where
  name : String
  fields : List ArgumentDefinition

namespace InputShape

/-- The type that the shape describes. -/
def type (shape : InputShape) : TypeRef := .inputObject shape.name

end InputShape

namespace ArgumentDefinition

/-- A number must not be negative. -/
def nonNegative : Constraint := .scalar { min := some (.int 0) }

/-- A list must have an item. -/
def nonEmpty : Constraint := .list { outer := { minItems := some 1 } }

/-- A list of names. -/
def namesType : TypeRef := .list TypeRef.string.required

/-- The arguments of the scalar directive. -/
def ofScalar : List ArgumentDefinition :=
  [⟨"min", .float, none⟩,
   ⟨"max", .float, none⟩,
   ⟨"oneOf", .list (TypeRef.ofName "ConstraintScalar" .customScalar).required, some nonEmpty⟩,
   ⟨"minLength", .int, some nonNegative⟩,
   ⟨"maxLength", .int, some nonNegative⟩,
   ⟨"regex", .string, none⟩]

/-- The name of the shape of list options. -/
def listShapeName : String := "ListConstraintInput"

/-- The arguments of the list directive. -/
def ofList : List ArgumentDefinition :=
  [⟨"minItems", .int, some nonNegative⟩,
   ⟨"maxItems", .int, some nonNegative⟩,
   ⟨"unique", .boolean, none⟩,
   ⟨"innerList", .inputObject listShapeName, none⟩]

/-- The name of the shape of a quota. -/
def quotaShapeName : String := "CountFromInput"

/-- The arguments of the presence directive. -/
def ofObject : List ArgumentDefinition :=
  [⟨"atLeastOne", namesType, some nonEmpty⟩,
   ⟨"atMostOne", namesType, some nonEmpty⟩,
   ⟨"exactlyOne", namesType, some nonEmpty⟩,
   ⟨"atLeast", .inputObject quotaShapeName, none⟩,
   ⟨"atMost", .inputObject quotaShapeName, none⟩,
   ⟨"exactly", .inputObject quotaShapeName, none⟩]

/-- The arguments of the upload directive. -/
def ofUpload : List ArgumentDefinition :=
  [⟨"maxSize", .int, some nonNegative⟩,
   ⟨"mimeType", namesType, some nonEmpty⟩]

end ArgumentDefinition

namespace InputShape

/-- List options, one level deeper. -/
def listOptions : InputShape := ⟨ArgumentDefinition.listShapeName, ArgumentDefinition.ofList⟩

/-- A quota over field names. -/
def quota : InputShape where
  name := ArgumentDefinition.quotaShapeName
  fields :=
    [⟨"count", TypeRef.int.required, some ArgumentDefinition.nonNegative⟩,
     ⟨"from", ArgumentDefinition.namesType.required, some ArgumentDefinition.nonEmpty⟩]

/-- The shape with a name. -/
def ofName? (name : String) : Option InputShape :=
  [listOptions, quota].find? (·.name = name)

end InputShape

namespace Family

/-- The arguments of a family's directive. -/
def arguments : Family → List ArgumentDefinition
  | .scalar => ArgumentDefinition.ofScalar
  | .list => ArgumentDefinition.ofList
  | .object => ArgumentDefinition.ofObject
  | .upload => ArgumentDefinition.ofUpload

/-- The shapes that a family's directive brings with it. -/
def inputShapes : Family → List InputShape
  | .list => [.listOptions]
  | .object => [.quota]
  | .scalar | .upload => []

end Family

end SchemaConstraints
