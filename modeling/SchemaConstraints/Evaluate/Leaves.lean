import SchemaConstraints.Check
import SchemaConstraints.Value.Basic

set_option autoImplicit false

/-! # Checking the leaves of a value

Most constraints apply to every item of a list, at any depth. `checkLeaves` looks through variables and
lists, from left to right, and stops at the first leaf that fails. A leaf is anything that is not a list,
null included; a variable that is bound to a variable is a leaf, too.

Inside the list that a variable is bound to, the variable itself is unbound. Bindings that do not lead back
to themselves through lists never notice, and the recursion always ends. -/

namespace SchemaConstraints

namespace Value

mutual

/-- The verdict on the first leaf of a value that fails a check. -/
def checkLeaves (check : Value → Verdict) (bindings : Bindings) : Value → Verdict
  | .list items => checkItems check bindings items
  | .variable name =>
    match h : Fields.find? name bindings with
    | none => check .null
    | some (.list items) =>
      have := Fields.length_erase_lt h
      checkItems check (Fields.erase name bindings) items
    | some value => check value
  | value => check value
  termination_by value => (bindings.length, sizeOf value)

/-- The verdict on the first leaf of several values that fails a check. -/
def checkItems (check : Value → Verdict) (bindings : Bindings) : List Value → Verdict
  | [] => none
  | item :: items =>
    match checkLeaves check bindings item with
    | some failed => some failed
    | none => checkItems check bindings items
  termination_by items => (bindings.length, sizeOf items)

end

end Value

end SchemaConstraints
