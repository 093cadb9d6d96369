import SchemaConstraints.Registry

set_option autoImplicit false

/-! # Sites

A site is a schema element with the constraints that are attached to it, at most one per family. Values
that flow through the element are checked against all of them, and a site that overrides another must not
weaken any. -/

namespace SchemaConstraints

/-- A failed check at a place of the schema. -/
structure Violation where
  check : Check
  coordinate : Coordinate
  deriving DecidableEq, Repr

namespace Violation

/-- The text of a violation. -/
def text (violation : Violation) : String :=
  violation.coordinate.text ++ ": " ++ violation.check.message

end Violation

/-- An element and its constraints. -/
structure Site where
  element : SchemaElement
  constraints : ConstraintSet := .empty

namespace Site

/-- The name of the element. -/
def coordinate (site : Site) : Coordinate := site.element.coordinate

/-- Whether any constraint is attached. -/
def isConstrained (site : Site) : Bool := !site.constraints.isEmpty

/-- The direction in which a family's constraints are overridden. The presence rules of a field speak of its
    arguments, which are inputs. -/
def position (site : Site) (family : Family) : Position :=
  if family = .object ∧ site.element.kind = .field then .input else .ofKind site.element.kind

/-- Equality of sites. -/
def equals (a b : Site) : Bool := decide (a.element = b.element) && a.constraints.equals b.constraints

/-- The first check that a value fails, family by family. -/
def verdict (site : Site) (bindings : Bindings) (value : Value) : Verdict :=
  site.constraints.toList.findSome? fun constraint => constraint.verdict bindings value

/-- The first check that a value fails, at the place of the site. -/
def violation? (site : Site) (bindings : Bindings) (value : Value) : Option Violation :=
  (site.verdict bindings value).map fun check => ⟨check, site.coordinate⟩

end Site

namespace Registry

/-- Attach one more directive to a site. -/
def attachTo (registry : Registry) (site : Site) (directive : String × Json) : Except DirectiveError Site := do
  let constraint ← registry.attach site.element directive.1 directive.2
  match site.constraints.insert? constraint with
  | some constraints => return { site with constraints := constraints }
  | none => .error (.duplicateDirective directive.1 site.coordinate)

/-- The site of an element with all its directives, in the order in which they are written. -/
def site (registry : Registry) (element : SchemaElement) (directives : List (String × Json)) :
    Except DirectiveError Site :=
  directives.foldlM registry.attachTo { element := element }

/-- Whether the constraints of a family may be overridden from one site to another. -/
def allowsOverride (parent child : Site) (family : Family) : Bool :=
  (child.position family).allows (parent.constraints.get? family) (child.constraints.get? family)

/-- Check that a site overrides another without weakening its constraints, family by family. -/
def checkOverride (registry : Registry) (parent child : Site) : Except DirectiveError Unit :=
  match Family.all.find? fun family => !allowsOverride parent child family with
  | some family => .error (.weakened (registry.names.get family) parent.coordinate child.coordinate)
  | none => .ok ()

end Registry

end SchemaConstraints
