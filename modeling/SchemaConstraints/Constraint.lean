import SchemaConstraints.Evaluate.List
import SchemaConstraints.Evaluate.Presence
import SchemaConstraints.Evaluate.Scalar
import SchemaConstraints.Evaluate.Upload

set_option autoImplicit false

/-! # Constraints

A constraint is the options of one of four families. A set of constraints holds at most one per family. -/

namespace SchemaConstraints

/-- The families of constraints. -/
inductive Family where
  | scalar
  | list
  | object
  | upload
  deriving DecidableEq, Repr

namespace Family

/-- Every family, in the order in which they are checked. -/
def all : List Family := [.scalar, .list, .object, .upload]

/-- The name of a family. -/
def name : Family → String
  | .scalar => "scalar"
  | .list => "list"
  | .object => "object"
  | .upload => "upload"

end Family

/-- A constraint of one of the families. -/
inductive Constraint where
  | scalar (options : ScalarOptions)
  | list (options : ListOptions)
  | object (options : PresenceOptions)
  | upload (options : UploadOptions)

namespace Constraint

/-- The family of a constraint. -/
def family : Constraint → Family
  | .scalar _ => .scalar
  | .list _ => .list
  | .object _ => .object
  | .upload _ => .upload

/-- Equality of constraints; those of different families differ. -/
def equals : Constraint → Constraint → Bool
  | .scalar a, .scalar b => a.equals b
  | .list a, .list b => decide (a = b)
  | .object a, .object b => decide (a = b)
  | .upload a, .upload b => decide (a = b)
  | _, _ => false

/-- The verdict of a constraint on a value. -/
def verdict (constraint : Constraint) (bindings : Bindings) (value : Value) : Verdict :=
  match constraint with
  | .scalar options => options.verdict bindings value
  | .list options => options.verdict bindings value
  | .object options => options.verdict bindings value
  | .upload options => options.verdict bindings value

end Constraint

/-- At most one constraint per family. -/
structure ConstraintSet where
  scalar : Option ScalarOptions := none
  list : Option ListOptions := none
  object : Option PresenceOptions := none
  upload : Option UploadOptions := none

namespace ConstraintSet

/-- The set without constraints. -/
def empty : ConstraintSet := {}

/-- The constraint of a family, if the set has one. -/
def get? (set : ConstraintSet) : Family → Option Constraint
  | .scalar => set.scalar.map .scalar
  | .list => set.list.map .list
  | .object => set.object.map .object
  | .upload => set.upload.map .upload

/-- Whether the set has a constraint of a family. -/
def contains (set : ConstraintSet) (family : Family) : Bool := (set.get? family).isSome

/-- The constraints of the set, in family order. -/
def toList (set : ConstraintSet) : List Constraint := Family.all.filterMap set.get?

/-- Whether the set has no constraint. -/
def isEmpty (set : ConstraintSet) : Bool := Family.all.all fun family => !set.contains family

/-- The set with the options of a constraint in place of those of its family. -/
def put (set : ConstraintSet) : Constraint → ConstraintSet
  | .scalar options => { set with scalar := some options }
  | .list options => { set with list := some options }
  | .object options => { set with object := some options }
  | .upload options => { set with upload := some options }

/-- The set with one more constraint; none if its family is there already. -/
def insert? (set : ConstraintSet) (constraint : Constraint) : Option ConstraintSet :=
  if set.contains constraint.family then none else some (set.put constraint)

/-- Equality of sets, family by family. -/
def equals (a b : ConstraintSet) : Bool :=
  Family.all.all fun family => optionEquals Constraint.equals (a.get? family) (b.get? family)

theorem get?_put_self (set : ConstraintSet) (constraint : Constraint) :
    (set.put constraint).get? constraint.family = some constraint := by
  cases constraint <;> rfl

theorem get?_put_of_ne {set : ConstraintSet} {constraint : Constraint} {family : Family}
    (h : family ≠ constraint.family) : (set.put constraint).get? family = set.get? family := by
  cases constraint with
  | scalar =>
    cases family with
    | scalar => exact absurd rfl h
    | list | object | upload => rfl
  | list =>
    cases family with
    | list => exact absurd rfl h
    | scalar | object | upload => rfl
  | object =>
    cases family with
    | object => exact absurd rfl h
    | scalar | list | upload => rfl
  | upload =>
    cases family with
    | upload => exact absurd rfl h
    | scalar | list | object => rfl

end ConstraintSet

end SchemaConstraints
