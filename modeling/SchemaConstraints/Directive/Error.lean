import SchemaConstraints.Json.Decode
import SchemaConstraints.Check
import SchemaConstraints.Position
import SchemaConstraints.Schema.Element

set_option autoImplicit false

/-! # What can be wrong with directives -/

namespace SchemaConstraints

/-- Why the arguments of a directive are no arguments at all. -/
inductive MalformedArguments where
  | notObject
  | undecodable (error : DecodeError)

/-- The wording of a fault in arguments. -/
def MalformedArguments.message : MalformedArguments → String
  | notObject => "arguments must be an object"
  | undecodable error => error.message

/-- Why directives were rejected. -/
inductive DirectiveError where
  /-- Two families have directives of one name. -/
  | duplicateName (name : String)
  | unknownDirective (name : String)
  /-- A second directive of a family on one element. -/
  | duplicateDirective (directive : String) (coordinate : Coordinate)
  | malformedArguments (directive : String) (fault : MalformedArguments)
  /-- An argument, given by the path to it, whose value fails a check. -/
  | invalidArgument (directive : String) (path : List String) (check : Check)
  | incompatibleType (directive : String) (coordinate : Coordinate) (type : TypeRef)
  | incompatibleArgument (directive argument : String) (coordinate : Coordinate) (type : TypeRef)
  | unknownMember (directive : String) (coordinate : Coordinate) (member : String)
  | uniqueOnNonLeaf (coordinate : Coordinate) (type : TypeRef)
  | listTooDeep (coordinate : Coordinate) (depth typeDepth : Nat)
  /-- An override that its position does not allow. -/
  | weakened (directive : String) (parent child : Coordinate)

namespace DirectiveError

/-- The wording of an error. -/
def message : DirectiveError → String
  | duplicateName name => "Duplicate directive name: " ++ name
  | unknownDirective name => "Unknown constraint directive: @" ++ name
  | duplicateDirective directive coordinate =>
    "Directive @" ++ directive ++ " is attached more than once to " ++ coordinate.text
  | malformedArguments directive fault =>
    "Malformed arguments for @" ++ directive ++ ": " ++ fault.message
  | invalidArgument directive path check =>
    "Invalid argument " ++ ".".intercalate path ++ " for @" ++ directive ++ ": " ++ check.message
  | incompatibleType directive coordinate type =>
    "Directive @" ++ directive ++ " cannot be used on " ++ coordinate.text ++ " of type " ++ type.text
  | incompatibleArgument directive argument coordinate type =>
    "Argument " ++ argument ++ " of @" ++ directive ++ " does not apply to " ++ coordinate.text ++
      " of type " ++ type.text
  | unknownMember directive coordinate member =>
    "Directive @" ++ directive ++ " on " ++ coordinate.text ++ " references unknown member: " ++ member
  | uniqueOnNonLeaf coordinate type =>
    "Unique constraint on " ++ coordinate.text ++ " requires leaf items, got " ++ type.text
  | listTooDeep coordinate depth typeDepth =>
    "List options on " ++ coordinate.text ++ " nest " ++ toString depth ++
      " levels but the type has " ++ toString typeDepth
  | weakened directive parent child =>
    "Constraint @" ++ directive ++ " on " ++ child.text ++ " weakens the constraint on " ++ parent.text

end DirectiveError

end SchemaConstraints
