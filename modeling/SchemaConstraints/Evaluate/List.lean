import SchemaConstraints.Check
import SchemaConstraints.Options.List
import SchemaConstraints.Value.Identity

set_option autoImplicit false

/-! # Checking values against the list constraint

A list faces the checks of its level and then hands each of its items to the next level. Whatever is not a
list, null included, has no items to count and passes. Going down a level uses up one level of the options,
so deeper lists are left alone. -/

namespace SchemaConstraints

/-- Whether no two of the identities are the same. -/
def Identity.allDistinct : List Identity → Bool
  | [] => true
  | identity :: rest => !rest.contains identity && allDistinct rest

/-- The verdict on the items of one list, without what is inside them. -/
def ListLevel.check (level : ListLevel) (bindings : Bindings) (items : List Value) : Verdict :=
  ((Check.require .minItems (level.minItems.all fun min => decide (min ≤ items.length))).or
    (Check.require .maxItems (level.maxItems.all fun max => decide (items.length ≤ max)))).or
    (Check.require .unique (!level.unique || Identity.allDistinct (Identity.ofItems bindings items)))

namespace ListOptions

/-- The verdict on a value by the levels that are left. -/
def checkLevels (bindings : Bindings) : List ListLevel → Value → Verdict
  | [], _ => none
  | level :: inner, value =>
    match value.resolve bindings with
    | .list items => (level.check bindings items).or (items.findSome? (checkLevels bindings inner))
    | _ => none

/-- The verdict on the items of a list. -/
def verdictOfItems (options : ListOptions) (bindings : Bindings) (items : List Value) : Verdict :=
  (options.outer.check bindings items).or (items.findSome? (checkLevels bindings options.inner))

/-- The verdict on a value. -/
def verdict (options : ListOptions) (bindings : Bindings) (value : Value) : Verdict :=
  checkLevels bindings options.levels value

end ListOptions

end SchemaConstraints
