set_option autoImplicit false

/-! # Schema coordinates

A coordinate names the place in a schema that a constraint is attached to. It is written `User`,
`User.email`, `Query.users(first:)` or `$limit`. -/

namespace SchemaConstraints

/-- The name of a schema element. -/
inductive Coordinate where
  /-- An object, interface or input object type. -/
  | type (name : String)
  /-- A field of such a type. -/
  | field (owner name : String)
  /-- An argument of a field. -/
  | argument (owner fieldName name : String)
  /-- A variable of an operation. -/
  | variable (name : String)
  deriving DecidableEq, Repr

namespace Coordinate

/-- The type that a coordinate belongs to; variables belong to none. -/
def typeName? : Coordinate → Option String
  | .type name | .field name _ | .argument name _ _ => some name
  | .variable _ => none

/-- Whether a coordinate names an argument. -/
def isArgument : Coordinate → Bool
  | .argument _ _ _ => true
  | _ => false

/-- The coordinate as it is written. -/
def text : Coordinate → String
  | .type name => name
  | .field owner name => owner ++ "." ++ name
  | .argument owner fieldName name => owner ++ "." ++ fieldName ++ "(" ++ name ++ ":)"
  | .variable name => "$" ++ name

/-! ## Order -/

/-- The place of a coordinate's form in the order of coordinates. -/
def rank : Coordinate → Nat
  | .type _ => 0
  | .field _ _ => 1
  | .argument _ _ _ => 2
  | .variable _ => 3

/-- The names in a coordinate, from the outside to the inside. -/
def names : Coordinate → List String
  | .type name | .variable name => [name]
  | .field owner name => [owner, name]
  | .argument owner fieldName name => [owner, fieldName, name]

/-- Coordinates are ordered by their form and then name by name. -/
def le (a b : Coordinate) : Bool :=
  decide (a.rank < b.rank) || (a.rank == b.rank && !List.lex b.names a.names fun m n => decide (m < n))

/-- Keep one of several equal neighbours. -/
def dropRepeated : List Coordinate → List Coordinate
  | a :: b :: rest => if a = b then dropRepeated (b :: rest) else a :: dropRepeated (b :: rest)
  | short => short

/-- The coordinates in order, each once. -/
def sortedUnique (coordinates : List Coordinate) : List Coordinate :=
  dropRepeated (coordinates.mergeSort le)

end Coordinate

end SchemaConstraints
