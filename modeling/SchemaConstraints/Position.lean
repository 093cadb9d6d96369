import SchemaConstraints.Narrowing
import SchemaConstraints.Schema.Element

set_option autoImplicit false

/-! # Positions

An overriding element may only narrow what it gives out, and only widen what it takes in. In an output
position the child must narrow the parent, in an input position the parent must narrow the child. A missing
constraint accepts everything, so nothing has to narrow it and it narrows no other. -/

namespace SchemaConstraints

/-- The direction of an override. -/
inductive Position where
  | output
  | input
  deriving DecidableEq, Repr

/-- The second of two constraints is at least as strict as the first. -/
def covariant (parent child : Option Constraint) : Bool := narrowsAxis Constraint.narrows child parent

/-- The first of two constraints is at least as strict as the second. -/
def contravariant (parent child : Option Constraint) : Bool := covariant child parent

namespace Position

/-- The position of elements of a kind. -/
def ofKind (kind : ElementKind) : Position := if kind.isInput then .input else .output

/-- Whether a child's constraint may take the place of its parent's. -/
def allows (position : Position) (parent child : Option Constraint) : Bool :=
  match position with
  | .output => covariant parent child
  | .input => contravariant parent child

/-- What is wrong with an override that a position does not allow. -/
def violation : String :=
  "Constraint on the overriding element is weaker than the constraint it overrides"

end Position

end SchemaConstraints
