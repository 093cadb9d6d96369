import SchemaConstraints.Evaluate.Leaves

set_option autoImplicit false

/-! # The leaves of a value

`Value.leaves` lists the leaves that `Value.checkLeaves` visits, from left to right. Checking the leaves
of a value is looking for the first one in that list that fails, so a value passes exactly if each of its
leaves does. -/

namespace SchemaConstraints

namespace Value

/-! ## One step into a value -/

/-- What a value shows once its variable is replaced. -/
inductive View where
  | leaf (value : Value)
  /-- A list, with the bindings that hold inside it. -/
  | list (bindings : Bindings) (items : List Value)

/-- One step into a value. Inside the list that a variable is bound to, the variable is unbound. -/
def view (bindings : Bindings) : Value → View
  | .list items => .list bindings items
  | .variable name =>
    match Fields.find? name bindings with
    | none => .leaf .null
    | some (.list items) => .list (Fields.erase name bindings) items
    | some value => .leaf value
  | value => .leaf value

/-- A step into a list goes down: the bindings get fewer, or they stay and the value gets smaller. -/
theorem view_list_lt {bindings inside : Bindings} {value : Value} {items : List Value}
    (h : value.view bindings = .list inside items) :
    Prod.Lex (· < ·) (· < ·) (inside.length, sizeOf items) (bindings.length, sizeOf value) := by
  cases value with
  | list own =>
    obtain ⟨rfl, rfl⟩ : bindings = inside ∧ own = items := by simpa [view] using h
    exact Prod.Lex.right _ (by simp)
  | «variable» name =>
    rw [view] at h
    split at h
    · simp at h
    · next hf =>
      obtain ⟨rfl, rfl⟩ := View.list.inj h
      exact Prod.Lex.left _ _ (Fields.length_erase_lt hf)
    · simp at h
  | _ => simp [view] at h

mutual

/-- The leaves of a value, from left to right. -/
def leaves (bindings : Bindings) (value : Value) : List Value :=
  match _h : value.view bindings with
  | .leaf leaf => [leaf]
  | .list inside items => leavesOfItems inside items
  termination_by (bindings.length, sizeOf value)
  decreasing_by exact view_list_lt _h

/-- The leaves of several values. -/
def leavesOfItems (bindings : Bindings) : List Value → List Value
  | [] => []
  | item :: items => leaves bindings item ++ leavesOfItems bindings items
  termination_by items => (bindings.length, sizeOf items)

end

theorem leaves_eq_view (bindings : Bindings) (value : Value) :
    value.leaves bindings =
      match value.view bindings with
      | .leaf leaf => [leaf]
      | .list inside items => leavesOfItems inside items := by
  rw [leaves]
  cases value.view bindings <;> rfl

theorem checkLeaves_eq_view (check : Value → Verdict) (bindings : Bindings) (value : Value) :
    value.checkLeaves check bindings =
      match value.view bindings with
      | .leaf leaf => check leaf
      | .list inside items => checkItems check inside items := by
  cases value with
  | «variable» name =>
    rw [checkLeaves, view]
    split <;> simp_all
  | _ => simp [checkLeaves, view]

mutual

theorem checkLeaves_eq_findSome? (check : Value → Verdict) (bindings : Bindings) (value : Value) :
    value.checkLeaves check bindings = (value.leaves bindings).findSome? check := by
  rw [checkLeaves_eq_view, leaves_eq_view]
  cases h : value.view bindings with
  | leaf leaf => simp
  | list inside items => exact checkItems_eq_findSome? check inside items
  termination_by (bindings.length, sizeOf value)
  decreasing_by exact view_list_lt h

theorem checkItems_eq_findSome? (check : Value → Verdict) (bindings : Bindings) (items : List Value) :
    checkItems check bindings items = (leavesOfItems bindings items).findSome? check := by
  cases items with
  | nil => simp [checkItems, leavesOfItems]
  | cons item items =>
    rw [checkItems, leavesOfItems, List.findSome?_append, ← checkLeaves_eq_findSome? check bindings item,
      ← checkItems_eq_findSome? check bindings items]
    cases checkLeaves check bindings item <;> rfl
  termination_by (bindings.length, sizeOf items)

end

/-- A value passes if and only if each of its leaves does. -/
theorem checkLeaves_eq_none_iff {check : Value → Verdict} {bindings : Bindings} {value : Value} :
    value.checkLeaves check bindings = none ↔ ∀ leaf ∈ value.leaves bindings, check leaf = none := by
  rw [checkLeaves_eq_findSome?, List.findSome?_eq_none_iff]

theorem checkItems_eq_none_iff {check : Value → Verdict} {bindings : Bindings} {items : List Value} :
    checkItems check bindings items = none ↔ ∀ item ∈ items, item.checkLeaves check bindings = none := by
  induction items with
  | nil => simp [checkItems]
  | cons item items ih =>
    rw [checkItems, List.forall_mem_cons, ← ih]
    cases item.checkLeaves check bindings <;> simp

end Value

end SchemaConstraints
