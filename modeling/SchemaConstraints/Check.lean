set_option autoImplicit false

/-! # Checks

A check is one thing that a constraint may demand of a value. Checking a value gives a verdict: nothing if
the value passes, and otherwise the first check that it fails. Verdicts are combined with `Option.or`,
which keeps the first failure. -/

namespace SchemaConstraints

/-- The check that a value failed. -/
inductive Check where
  | min
  | max
  | oneOf
  | minLength
  | maxLength
  | regex
  | minItems
  | maxItems
  | unique
  | atLeast
  | atLeastOne
  | atMost
  | atMostOne
  | exactly
  | exactlyOne
  | maxSize
  | mimeType
  deriving DecidableEq, Repr

namespace Check

/-- The identifier of a check in error reports. -/
def name : Check → String
  | min => "MinConstraintNotSatisfied"
  | max => "MaxConstraintNotSatisfied"
  | oneOf => "OneOfConstraintNotSatisfied"
  | minLength => "MinLengthConstraintNotSatisfied"
  | maxLength => "MaxLengthConstraintNotSatisfied"
  | regex => "RegexConstraintNotSatisfied"
  | minItems => "MinItemsConstraintNotSatisfied"
  | maxItems => "MaxItemsConstraintNotSatisfied"
  | unique => "UniqueConstraintNotSatisfied"
  | atLeast => "AtLeastConstraintNotSatisfied"
  | atLeastOne => "AtLeastOneConstraintNotSatisfied"
  | atMost => "AtMostConstraintNotSatisfied"
  | atMostOne => "AtMostOneConstraintNotSatisfied"
  | exactly => "ExactlyConstraintNotSatisfied"
  | exactlyOne => "ExactlyOneConstraintNotSatisfied"
  | maxSize => "MaxSizeConstraintNotSatisfied"
  | mimeType => "MimeTypeConstraintNotSatisfied"

/-- The wording of a failed check. -/
def message : Check → String
  | min => "Value is below the allowed minimum"
  | max => "Value is above the allowed maximum"
  | oneOf => "Value is not one of the allowed values"
  | minLength => "Value is shorter than the allowed minimum length"
  | maxLength => "Value is longer than the allowed maximum length"
  | regex => "Value does not match the required pattern"
  | minItems => "List has fewer items than the allowed minimum"
  | maxItems => "List has more items than the allowed maximum"
  | unique => "List contains duplicate items"
  | atLeast => "Too few of the listed fields are set"
  | atLeastOne => "At least one of the listed fields must be set"
  | atMost => "Too many of the listed fields are set"
  | atMostOne => "At most one of the listed fields may be set"
  | exactly => "The number of listed fields that are set is not the required number"
  | exactlyOne => "Exactly one of the listed fields must be set"
  | maxSize => "Uploaded file exceeds the allowed size"
  | mimeType => "Uploaded file type is not allowed"

end Check

/-- The first check that a value fails; none if it passes. -/
abbrev Verdict := Option Check

/-- Passes if a condition holds, and fails the check otherwise. -/
def Check.require (check : Check) (ok : Bool) : Verdict := if ok then none else some check

@[simp] theorem Check.require_eq_none_iff {check : Check} {ok : Bool} :
    Check.require check ok = none ↔ ok = true := by
  cases ok <;> simp [Check.require]

/-- Checks that agree on every item agree on what fails first. -/
theorem findSome?_congr {α β : Type} {items : List α} {check check' : α → Option β}
    (h : ∀ item ∈ items, check item = check' item) : items.findSome? check = items.findSome? check' := by
  induction items with
  | nil => rfl
  | cons item items ih =>
    obtain ⟨hitem, hitems⟩ := List.forall_mem_cons.1 h
    rw [List.findSome?_cons, List.findSome?_cons, hitem, ih hitems]

/-- A search looks at the first item, and at the others only if it finds nothing there. -/
theorem findSome?_cons_eq_or {α β : Type} (item : α) (items : List α) (check : α → Option β) :
    (item :: items).findSome? check = (check item).or (items.findSome? check) := by
  rw [List.findSome?_cons]
  cases check item <;> rfl

end SchemaConstraints
