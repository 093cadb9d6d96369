import SchemaConstraints.Constraint
import SchemaConstraints.Proofs.Evaluate.Depth
import SchemaConstraints.Proofs.Evaluate.Identity

set_option autoImplicit false

/-! # Evaluation within a depth

Evaluation as it stands leaves a variable unbound inside its own value, so it ends whatever the bindings. The
plain recursion keeps all bindings all the way down. It is written here with a bound on how deep it may go,
and gives up where that is not enough: a value is resolved, and then its items, its fields or the value that
an enum value stands for are gone into, one deeper. On acyclic bindings the bound that
`Value.depthBound` computes is never hit, and from there on the answer is the verdict
(`verdictWithin_of_depthBound_le`). A variable that leads back to itself is never done
(`checkLeavesWithin_of_loop`). -/

namespace SchemaConstraints

/-! ## Searches that may give up -/

/-- A search that nowhere gives up finds what it would find without giving up. -/
theorem findSomeM?_eq_some {α β : Type} {items : List α} {check : α → Option (Option β)} {found : α → Option β}
    (h : ∀ item ∈ items, check item = some (found item)) :
    items.findSomeM? check = some (items.findSome? found) := by
  induction items with
  | nil => rfl
  | cons item items ih =>
    obtain ⟨hitem, hitems⟩ := List.forall_mem_cons.1 h
    rw [List.findSomeM?_cons, hitem, List.findSome?_cons, ih hitems]
    cases found item <;> rfl

theorem mapM_eq_some {α β : Type} {items : List α} {f : α → Option β} {g : α → β}
    (h : ∀ item ∈ items, f item = some (g item)) : items.mapM f = some (items.map g) := by
  induction items with
  | nil => rfl
  | cons item items ih =>
    obtain ⟨hitem, hitems⟩ := List.forall_mem_cons.1 h
    rw [List.mapM_cons, hitem, ih hitems]
    rfl

/-! ## The bounded recursions -/

namespace Value

/-- What constraints look at, within a depth. -/
def underlyingWithin : Nat → Value → Option Value
  | 0, _ => none
  | depth + 1, .enum _ repr => underlyingWithin depth repr
  | _ + 1, value => some value

/-- The verdict on the first leaf that fails, within a depth. The check of a leaf is told how deep it may go. -/
def checkLeavesWithin (check : Nat → Value → Option Verdict) (bindings : Bindings) : Nat → Value → Option Verdict
  | 0, _ => none
  | depth + 1, value =>
    match value.resolve bindings with
    | .list items => items.findSomeM? (checkLeavesWithin check bindings depth)
    | leaf => check (depth + 1) leaf

end Value

/-- The identity of a value, within a depth. -/
def Identity.ofValueWithin (bindings : Bindings) : Nat → Value → Option Identity
  | 0, _ => none
  | depth + 1, value =>
    match value.resolve bindings with
    | .null | .variable _ => some .null
    | .bool b => some (.bool b)
    | .int n => some (.int n)
    | .float x => some (.float x.foldZero)
    | .string s => some (.string s)
    | .enum _ repr => ofValueWithin bindings depth repr
    | .list items => (items.mapM (ofValueWithin bindings depth)).map .list
    | .object _ fields =>
      (fields.mapM fun field => (ofValueWithin bindings depth field.2).map (field.1, ·)).map fun identities =>
        .object (Fields.sorted identities)
    | .upload file => some (.upload file)

/-- The verdict on the items of one list, within a depth. Identities are needed only where duplicates are
    forbidden and the number of items is allowed. -/
def ListLevel.checkWithin (level : ListLevel) (bindings : Bindings) (depth : Nat) (items : List Value) :
    Option Verdict :=
  match ListLevel.check { level with unique := false } bindings items with
  | some failed => some (some failed)
  | none =>
    if level.unique then
      (items.mapM (Identity.ofValueWithin bindings depth)).map fun identities =>
        Check.require .unique (Identity.allDistinct identities)
    else some none

/-- The verdict by the levels that are left, within a depth. -/
def ListOptions.checkLevelsWithin (bindings : Bindings) : Nat → List ListLevel → Value → Option Verdict
  | _, [], _ => some none
  | 0, _ :: _, _ => none
  | depth + 1, level :: inner, value =>
    match value.resolve bindings with
    | .list items =>
      match level.checkWithin bindings depth items with
      | none => none
      | some (some failed) => some (some failed)
      | some none => items.findSomeM? (checkLevelsWithin bindings depth inner)
    | _ => some none

/-- The verdict on a value that is not a list, within a depth. -/
def ScalarOptions.checkLeafWithin (options : ScalarOptions) (depth : Nat) : Value → Option Verdict
  | .null => some none
  | value => (value.underlyingWithin depth).map fun shown => (options.checkKind shown).or (options.checkOneOf shown)

/-- The verdict of a constraint on a value, within a depth. -/
def Constraint.verdictWithin (constraint : Constraint) (bindings : Bindings) (depth : Nat) (value : Value) :
    Option Verdict :=
  match constraint with
  | .scalar options => value.checkLeavesWithin options.checkLeafWithin bindings depth
  | .list options => ListOptions.checkLevelsWithin bindings depth options.levels value
  | .object options => value.checkLeavesWithin (fun _ leaf => some (options.checkLeaf bindings leaf)) bindings depth
  | .upload options => value.checkLeavesWithin (fun _ leaf => some (options.checkLeaf leaf)) bindings depth

/-! ## Enough depth -/

open Value

section

variable {bindings : Bindings} {depth : Nat} {value : Value}

theorem Value.underlyingWithin_eq (hnests : NestsWithin bindings depth value) :
    value.underlyingWithin depth = some value.underlying := by
  induction hnests with
  | @of_parts depth value _ ih =>
    cases value with
    | enum name repr => exact ih repr (List.mem_singleton_self repr)
    | _ => rfl

/-- A leaf is gone into only where it is an enum value. -/
theorem ScalarOptions.checkLeafWithin_eq (options : ScalarOptions)
    (hparts : ∀ part ∈ value.parts, NestsWithin bindings depth part) :
    options.checkLeafWithin (depth + 1) value = some (options.checkLeaf value) := by
  cases value with
  | enum name repr =>
    rw [checkLeafWithin, underlyingWithin, underlyingWithin_eq (hparts repr (List.mem_singleton_self repr))]
    · rfl
    · simp
  | _ => rfl

variable (hacyclic : bindings.Acyclic)
include hacyclic

/-- Inside a list the depth goes down by one, and what is left is enough for the leaves. -/
theorem Value.checkLeavesWithin_eq {check : Nat → Value → Option Verdict} {checkLeaf : Value → Verdict}
    (hleaf : ∀ depth leaf, (∀ part ∈ leaf.parts, NestsWithin bindings depth part) →
      check (depth + 1) leaf = some (checkLeaf leaf))
    (hnests : NestsWithin bindings depth value) :
    value.checkLeavesWithin check bindings depth = some (value.checkLeaves checkLeaf bindings) := by
  induction hnests with
  | @of_parts depth value hparts ih =>
    rw [checkLeavesWithin, checkLeaves_of_acyclic hacyclic]
    cases hresolve : value.resolve bindings with
    | list items =>
      rw [hresolve] at ih
      exact findSomeM?_eq_some ih
    | _ =>
      rw [hresolve] at hparts
      exact hleaf depth _ hparts

/-- What a value resolves to has the identity of the value, unless it is a variable, which is not followed. -/
theorem Identity.ofValue_resolve (hdirect : ∀ name, value.resolve bindings ≠ .variable name) :
    ofValue bindings (value.resolve bindings) = ofValue bindings value := by
  cases value with
  | «variable» name =>
    rw [ofValue_variable hacyclic, standIn]
    rw [resolve] at hdirect ⊢
    cases hfind : Fields.find? name bindings with
    | none => rfl
    | some bound =>
      rw [hfind] at hdirect
      cases bound with
      | «variable» other => exact absurd rfl (hdirect other)
      | _ => rfl
  | _ => rfl

omit hacyclic in
theorem Identity.ofValue_of_resolve_variable {name : String} (h : value.resolve bindings = .variable name) :
    ofValue bindings value = .null := by
  cases value with
  | «variable» own =>
    rw [resolve] at h
    cases hfind : Fields.find? own bindings with
    | none => simp [hfind] at h
    | some bound =>
      rw [hfind, Option.getD_some] at h
      exact ofValue_of_indirect (h ▸ hfind)
  | _ => simp [resolve] at h

/-- The depth is enough for the identity, too, for which enum values and objects are gone into. -/
theorem Identity.ofValueWithin_eq (hnests : NestsWithin bindings depth value) :
    ofValueWithin bindings depth value = some (ofValue bindings value) := by
  induction hnests with
  | @of_parts depth value hparts ih =>
    rw [ofValueWithin]
    have hshown := @ofValue_resolve bindings value hacyclic
    cases hresolve : value.resolve bindings with
    | «variable» name => rw [ofValue_of_resolve_variable hresolve]
    | enum name repr =>
      rw [hresolve] at ih hshown
      rw [← hshown (by simp), ofValue]
      exact ih repr (List.mem_singleton_self repr)
    | list items =>
      rw [hresolve] at ih hshown
      have hitems : items.mapM (ofValueWithin bindings depth) = some (items.map (ofValue bindings)) := mapM_eq_some ih
      rw [← hshown (by simp), ofValue, ofItems_eq_map]
      simp only [hitems, Option.map_some]
    | object shape fields =>
      rw [hresolve] at ih hshown
      have hfields : fields.mapM (fun field => (ofValueWithin bindings depth field.2).map (field.1, ·)) =
          some (Fields.mapValues (ofValue bindings) fields) :=
        mapM_eq_some fun field hfield => by rw [ih field.2 (List.mem_map_of_mem hfield), Option.map_some]
      rw [← hshown (by simp), ofValue, ofFields_eq_mapValues]
      simp only [hfields, Option.map_some]
    | _ =>
      rw [hresolve] at hshown
      rw [← hshown (by simp), ofValue]

omit hacyclic in
/-- Duplicates are looked for last. -/
theorem ListLevel.check_eq_or (level : ListLevel) (bindings : Bindings) (items : List Value) :
    level.check bindings items =
      (ListLevel.check { level with unique := false } bindings items).or
        (if level.unique then Check.require .unique (Identity.allDistinct (Identity.ofItems bindings items))
        else none) := by
  cases h : level.unique <;> simp [ListLevel.check, h, Check.require]

theorem ListLevel.checkWithin_eq (level : ListLevel) {items : List Value}
    (hitems : ∀ item ∈ items, NestsWithin bindings depth item) :
    level.checkWithin bindings depth items = some (level.check bindings items) := by
  have hidentities : items.mapM (Identity.ofValueWithin bindings depth) = some (Identity.ofItems bindings items) := by
    rw [Identity.ofItems_eq_map]
    exact mapM_eq_some fun item hitem => Identity.ofValueWithin_eq hacyclic (hitems item hitem)
  rw [checkWithin, level.check_eq_or, hidentities]
  cases ListLevel.check { level with unique := false } bindings items with
  | some failed => rfl
  | none => cases level.unique <;> rfl

theorem ListOptions.checkLevelsWithin_eq (levels : List ListLevel) (hnests : NestsWithin bindings depth value) :
    checkLevelsWithin bindings depth levels value = some (checkLevels bindings levels value) := by
  induction hnests generalizing levels with
  | @of_parts depth value hparts ih =>
    cases levels with
    | nil => rw [checkLevelsWithin, checkLevels]
    | cons level inner =>
      rw [checkLevelsWithin, checkLevels]
      cases hresolve : value.resolve bindings with
      | list items =>
        rw [hresolve] at hparts ih
        have hlevel : level.checkWithin bindings depth items = some (level.check bindings items) :=
          level.checkWithin_eq hacyclic hparts
        have hinner : items.findSomeM? (checkLevelsWithin bindings depth inner) =
            some (items.findSome? (checkLevels bindings inner)) := findSomeM?_eq_some fun item hitem => ih item hitem inner
        simp only [hlevel, hinner]
        cases level.check bindings items <;> rfl
      | _ => rfl

end

namespace Constraint

/-- **Evaluation ends on acyclic bindings.** Going from values to the parts of what they resolve to is well-founded.
    Whatever the constraint, a depth that is computed from the value and the bindings alone is never hit, and it
    makes no difference how much greater the depth is: the answer is the verdict, and the same is true of the
    identity by which items of lists are compared. -/
theorem verdictWithin_of_depthBound_le {bindings : Bindings} (hacyclic : bindings.Acyclic) (constraint : Constraint)
    (value : Value) :
    (WellFounded fun part value : Value => part ∈ (value.resolve bindings).parts) ∧
      ∀ depth, value.depthBound bindings ≤ depth →
        constraint.verdictWithin bindings depth value = some (constraint.verdict bindings value) ∧
          Identity.ofValueWithin bindings depth value = some (Identity.ofValue bindings value) := by
  refine ⟨wellFounded_parts_resolve hacyclic, fun depth hdepth => ?_⟩
  have hnests : NestsWithin bindings depth value := (nestsWithin_depthBound hacyclic value).mono hdepth
  refine ⟨?_, Identity.ofValueWithin_eq hacyclic hnests⟩
  cases constraint with
  | scalar options =>
    exact checkLeavesWithin_eq hacyclic (fun _ _ hparts => options.checkLeafWithin_eq hparts) hnests
  | list options => exact ListOptions.checkLevelsWithin_eq hacyclic options.levels hnests
  | object options => exact checkLeavesWithin_eq hacyclic (fun _ _ _ => rfl) hnests
  | upload options => exact checkLeavesWithin_eq hacyclic (fun _ _ _ => rfl) hnests

/-- Rows that are compared as duplicates: six values deep is enough, and three are not. -/
theorem verdictWithin_of_rows :
    let bindings : Bindings :=
      [("rows", .list [.variable "row", .variable "row"]), ("row", .list [.int 1, .enum "ONE" (.int 1)])]
    let constraint : Constraint := .list ⟨{ unique := true }, []⟩
    bindings.Acyclic ∧ (Value.variable "rows").depthBound bindings = 6 ∧
      constraint.verdictWithin bindings 3 (.variable "rows") = none ∧
      constraint.verdictWithin bindings 6 (.variable "rows") = some (some .unique) ∧
      constraint.verdictWithin bindings 100 (.variable "rows") = some (some .unique) := by
  intro bindings constraint
  have hacyclic : bindings.Acyclic :=
    Bindings.acyclic_of_rank (fun name => if name = "rows" then 1 else 0)
      (by simp [bindings, Value.variableNames, Value.variableNamesOfItems])
  have hbound : (Value.variable "rows").depthBound bindings = 6 := rfl
  have hdepth := (verdictWithin_of_depthBound_le hacyclic constraint (.variable "rows")).2
  have hsix : constraint.verdictWithin bindings 6 (.variable "rows") = some (some .unique) := rfl
  refine ⟨hacyclic, hbound, rfl, hsix, ?_⟩
  rw [(hdepth 100 (hbound ▸ by decide)).1, ← (hdepth 6 (hbound ▸ Nat.le_refl 6)).1, hsix]

end Constraint

/-! ## Depth that is never enough -/

/-- A variable that stands first in its own list is looked into without end. -/
theorem Value.checkLeavesWithin_of_loop {check : Nat → Value → Option Verdict} {bindings : Bindings} {name : String}
    {rest : List Value} (h : Fields.find? name bindings = some (.list (.variable name :: rest))) (depth : Nat) :
    (Value.variable name).checkLeavesWithin check bindings depth = none := by
  induction depth with
  | zero => rfl
  | succ depth ih =>
    have hresolve : (Value.variable name).resolve bindings = .list (.variable name :: rest) := by simp [resolve, h]
    rw [checkLeavesWithin, hresolve]
    simp only [List.findSomeM?_cons, ih]
    rfl

end SchemaConstraints
