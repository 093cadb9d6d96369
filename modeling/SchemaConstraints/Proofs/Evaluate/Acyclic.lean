import Mathlib.Logic.Relation
import SchemaConstraints.Proofs.Evaluate.Leaves

set_option autoImplicit false

/-! # Bindings without cycles

Evaluation leaves a variable unbound inside the list that it is bound to, so it ends on all bindings. Where
no variable leads back to itself this makes no difference: the names that matter inside the list are other
names (`leaves_congr`), and evaluation is the plain recursion that resolves a value and goes on with its
items under the same bindings. -/

namespace SchemaConstraints

namespace Value

mutual

/-- The variables that occur in a value. -/
def variableNames : Value → List String
  | .enum _ repr => variableNames repr
  | .list items => variableNamesOfItems items
  | .object _ fields => variableNamesOfFields fields
  | .variable name => [name]
  | _ => []

/-- The variables that occur in several values. -/
def variableNamesOfItems : List Value → List String
  | [] => []
  | item :: items => variableNames item ++ variableNamesOfItems items

/-- The variables that occur in the fields of an object. -/
def variableNamesOfFields : List (String × Value) → List String
  | [] => []
  | (_, value) :: fields => variableNames value ++ variableNamesOfFields fields

end

end Value

namespace Bindings

/-- A variable is bound to a value in which another one occurs. -/
def Leads (bindings : Bindings) (name other : String) : Prop :=
  ∃ value, Fields.find? name bindings = some value ∧ other ∈ value.variableNames

/-- No variable leads back to itself. -/
def Acyclic (bindings : Bindings) : Prop := ∀ name, ¬ Relation.TransGen bindings.Leads name name

/-- The variables that a list of names leads to, those names included. -/
def Reaches (bindings : Bindings) (names : List String) (other : String) : Prop :=
  ∃ name ∈ names, Relation.ReflTransGen bindings.Leads name other

variable {bindings : Bindings} {names : List String} {name other : String}

theorem Leads.of_erase {erased : String} (h : Leads (Fields.erase erased bindings) name other) :
    bindings.Leads name other := by
  obtain ⟨value, hfind, hother⟩ := h
  by_cases hne : name = erased
  · rw [hne, Fields.find?_erase_self] at hfind
    simp at hfind
  · rw [Fields.find?_erase_of_ne hne] at hfind
    exact ⟨value, hfind, hother⟩

theorem Reaches.of_erase {erased : String} (h : Reaches (Fields.erase erased bindings) names other) :
    bindings.Reaches names other := by
  obtain ⟨name, hname, hreach⟩ := h
  exact ⟨name, hname, hreach.lift id fun _ _ => Leads.of_erase⟩

/-- Whatever the value of a variable reaches, the variable reaches in at least one step. -/
theorem Reaches.transGen (value : Value) (hfind : Fields.find? name bindings = some value)
    (h : bindings.Reaches value.variableNames other) : Relation.TransGen bindings.Leads name other := by
  obtain ⟨next, hnext, hreach⟩ := h
  exact Relation.TransGen.head' ⟨value, hfind, hnext⟩ hreach

/-- On acyclic bindings, what the value of a variable reaches is another variable, and the variable reaches it. -/
theorem Reaches.of_bound {value : Value} (h : bindings.Reaches value.variableNames other)
    (hacyclic : bindings.Acyclic) (hfind : Fields.find? name bindings = some value) :
    other ≠ name ∧ bindings.Reaches (Value.variable name).variableNames other := by
  have hlater : Relation.TransGen bindings.Leads name other := Reaches.transGen value hfind h
  exact ⟨fun heq => hacyclic name (heq ▸ hlater), name, by simp [Value.variableNames], hlater.to_reflTransGen⟩

/-- Bindings are acyclic if the variables in the value of a variable all have a lower rank than the variable. -/
theorem acyclic_of_rank (rank : String → Nat)
    (h : ∀ entry ∈ bindings, ∀ other ∈ entry.2.variableNames, rank other < rank entry.1) : bindings.Acyclic := by
  have hstep : ∀ {name other}, bindings.Leads name other → rank other < rank name := by
    rintro name other ⟨value, hfind, hother⟩
    exact h (name, value) (Fields.mem_of_find? hfind) other hother
  intro name hcycle
  have hdescends : ∀ {other}, Relation.TransGen bindings.Leads name other → rank other < rank name := by
    intro other hlater
    induction hlater with
    | single hleads => exact hstep hleads
    | tail _ hleads ih => exact Nat.lt_trans (hstep hleads) ih
  exact Nat.lt_irrefl _ (hdescends hcycle)

end Bindings

namespace Value

open Bindings

/-! ## The names that matter -/

mutual

/-- Bindings of names that a value does not reach do not matter to it. -/
theorem leaves_congr (bindings bindings' : Bindings) (value : Value)
    (hagree : ∀ name, bindings.Reaches value.variableNames name →
      Fields.find? name bindings = Fields.find? name bindings') :
    value.leaves bindings = value.leaves bindings' := by
  cases value with
  | list items =>
    rw [leaves_eq_view, leaves_eq_view]
    exact leavesOfItems_congr bindings bindings' items hagree
  | «variable» name =>
    have hname := hagree name ⟨name, by simp [variableNames], .refl⟩
    rw [leaves_eq_view, leaves_eq_view, view, view, ← hname]
    cases hfind : Fields.find? name bindings with
    | none => rfl
    | some value =>
      cases value with
      | list items =>
        -- both sides leave the variable out, and what the items reach it reaches as well
        have := Fields.length_erase_lt hfind
        refine leavesOfItems_congr (Fields.erase name bindings) (Fields.erase name bindings') items ?_
        intro other hreach
        by_cases hne : other = name
        · rw [hne, Fields.find?_erase_self, Fields.find?_erase_self]
        · rw [Fields.find?_erase_of_ne hne, Fields.find?_erase_of_ne hne]
          have hlater : Relation.TransGen bindings.Leads name other :=
            Reaches.transGen (.list items) hfind hreach.of_erase
          exact hagree other ⟨name, by simp [variableNames], hlater.to_reflTransGen⟩
      | _ => rfl
  | _ => simp [leaves_eq_view, view]
  termination_by (bindings.length, sizeOf value)

theorem leavesOfItems_congr (bindings bindings' : Bindings) (items : List Value)
    (hagree : ∀ name, bindings.Reaches (variableNamesOfItems items) name →
      Fields.find? name bindings = Fields.find? name bindings') :
    leavesOfItems bindings items = leavesOfItems bindings' items := by
  cases items with
  | nil => simp [leavesOfItems]
  | cons item items =>
    rw [leavesOfItems, leavesOfItems]
    congr 1
    · refine leaves_congr bindings bindings' item fun name hreach => ?_
      obtain ⟨first, hfirst, hreach⟩ := hreach
      exact hagree name ⟨first, List.mem_append_left _ hfirst, hreach⟩
    · refine leavesOfItems_congr bindings bindings' items fun name hreach => ?_
      obtain ⟨first, hfirst, hreach⟩ := hreach
      exact hagree name ⟨first, List.mem_append_right _ hfirst, hreach⟩
  termination_by (bindings.length, sizeOf items)

end

/-! ## The plain recursion -/

section

variable {bindings : Bindings} (h : bindings.Acyclic)
include h

/-- Inside the list that a variable is bound to, the variable does not matter. -/
theorem leavesOfItems_erase {name : String} {items : List Value}
    (hfind : Fields.find? name bindings = some (.list items)) :
    leavesOfItems (Fields.erase name bindings) items = leavesOfItems bindings items := by
  refine (leavesOfItems_congr bindings (Fields.erase name bindings) items fun other hreach => ?_).symm
  -- a name that the list reaches is another one, or the variable would lead back to itself
  rw [Fields.find?_erase_of_ne (Reaches.of_bound hreach h hfind).1]

/-- On acyclic bindings the leaves of a value are those of the items that it resolves to. -/
theorem leaves_of_acyclic (value : Value) :
    value.leaves bindings =
      match value.resolve bindings with
      | .list items => leavesOfItems bindings items
      | leaf => [leaf] := by
  cases value with
  | «variable» name =>
    rw [leaves_eq_view, view, resolve]
    cases hfind : Fields.find? name bindings with
    | none => rfl
    | some value =>
      cases value with
      | list items => exact leavesOfItems_erase h hfind
      | _ => rfl
  | _ => simp [leaves_eq_view, view, resolve]

/-- **Evaluation on acyclic bindings is the plain recursion:** resolve the value, and check the items of a
    list under the same bindings, or the leaf. -/
theorem checkLeaves_of_acyclic (check : Value → Verdict) (value : Value) :
    value.checkLeaves check bindings =
      match value.resolve bindings with
      | .list items => items.findSome? (checkLeaves check bindings)
      | leaf => check leaf := by
  have hitems : ∀ items, (leavesOfItems bindings items).findSome? check =
      items.findSome? (checkLeaves check bindings) := by
    intro items
    induction items with
    | nil => simp [leavesOfItems]
    | cons item items ih =>
      rw [leavesOfItems, List.findSome?_append, findSome?_cons_eq_or, ih, ← checkLeaves_eq_findSome?]
  rw [checkLeaves_eq_findSome?, leaves_of_acyclic h]
  split
  · next items _ => exact hitems items
  · simp

end

/-! ## Induction along bindings -/

/-- The values that a value is directly made of. -/
def parts : Value → List Value
  | .enum _ repr => [repr]
  | .list items => items
  | .object _ fields => fields.map (·.2)
  | _ => []

theorem sizeOf_lt_of_mem_parts {value part : Value} (h : part ∈ value.parts) : sizeOf part < sizeOf value := by
  cases value with
  | enum name repr =>
    obtain rfl := List.mem_singleton.1 h
    simp only [enum.sizeOf_spec]
    omega
  | list items =>
    have hitem : sizeOf part < sizeOf items := List.sizeOf_lt_of_mem h
    simp only [list.sizeOf_spec]
    omega
  | object shape fields =>
    obtain ⟨⟨name, value⟩, hfield, rfl⟩ := List.mem_map.1 h
    have := List.sizeOf_lt_of_mem hfield
    simp only [object.sizeOf_spec, Prod.mk.sizeOf_spec] at this ⊢
    omega
  | _ => simp [parts] at h

/-- What holds of a value as soon as it holds of its parts holds of every value. -/
theorem induction_of_parts {P : Value → Prop} (step : ∀ value, (∀ part ∈ value.parts, P part) → P value)
    (value : Value) : P value :=
  step value fun part hpart =>
    have := sizeOf_lt_of_mem_parts hpart
    induction_of_parts step part
  termination_by sizeOf value

theorem resolve_eq_self {bindings : Bindings} {value : Value} (h : ¬∃ name, value = .variable name) :
    value.resolve bindings = value := by
  cases value with
  | «variable» name => exact absurd ⟨name, rfl⟩ h
  | _ => rfl

theorem variableNamesOfItems_eq_flatMap (items : List Value) :
    variableNamesOfItems items = items.flatMap variableNames := by
  induction items with
  | nil => rfl
  | cons item items ih => rw [variableNamesOfItems, ih, List.flatMap_cons]

theorem variableNamesOfFields_eq_flatMap (fields : List (String × Value)) :
    variableNamesOfFields fields = fields.flatMap fun field => field.2.variableNames := by
  induction fields with
  | nil => rfl
  | cons field fields ih => rw [variableNamesOfFields, ih, List.flatMap_cons]

theorem variableNames_subset_of_mem_parts {value part : Value} (h : part ∈ value.parts) :
    part.variableNames ⊆ value.variableNames := by
  intro name hname
  cases value with
  | enum _ repr =>
    obtain rfl := List.mem_singleton.1 h
    exact hname
  | list items =>
    rw [variableNames, variableNamesOfItems_eq_flatMap]
    exact List.mem_flatMap.2 ⟨part, h, hname⟩
  | object _ fields =>
    obtain ⟨field, hfield, rfl⟩ := List.mem_map.1 h
    rw [variableNames, variableNamesOfFields_eq_flatMap]
    exact List.mem_flatMap.2 ⟨field, hfield, hname⟩
  | _ => simp [parts] at h

/-- What a part of a value reaches, the value reaches. -/
theorem reaches_of_mem_parts {bindings : Bindings} {value part : Value} {other : String} (hpart : part ∈ value.parts)
    (h : bindings.Reaches part.variableNames other) : bindings.Reaches value.variableNames other := by
  obtain ⟨first, hfirst, hreach⟩ := h
  exact ⟨first, variableNames_subset_of_mem_parts hpart hfirst, hreach⟩

section

variable {bindings : Bindings} (h : bindings.Acyclic) {P : Value → Prop}
  (step : ∀ value, (∀ part ∈ (value.resolve bindings).parts, P part) → P value)
include h step

/-- The names that have been passed on the way to a value are left out of `inner`; it still has all names
    that the value leads to. -/
theorem induction_of_agree (inner : Bindings) (value : Value)
    (hagree : ∀ name, bindings.Reaches value.variableNames name →
      Fields.find? name inner = Fields.find? name bindings) : P value := by
  refine step value fun part hpart => ?_
  by_cases hvariable : ∃ name, value = .variable name
  · obtain ⟨name, rfl⟩ := hvariable
    rw [resolve] at hpart
    cases hfind : Fields.find? name bindings with
    | none => simp [hfind, parts] at hpart
    | some value =>
      rw [hfind, Option.getD_some] at hpart
      have := Fields.length_erase_lt ((hagree name ⟨name, by simp [variableNames], .refl⟩).trans hfind)
      refine induction_of_agree (Fields.erase name inner) part fun other hreach => ?_
      have hother := (reaches_of_mem_parts hpart hreach).of_bound h hfind
      rw [Fields.find?_erase_of_ne hother.1]
      exact hagree other hother.2
  · rw [resolve_eq_self hvariable] at hpart
    have := sizeOf_lt_of_mem_parts hpart
    exact induction_of_agree inner part fun other hreach => hagree other (reaches_of_mem_parts hpart hreach)
  termination_by (inner.length, sizeOf value)

/-- **Induction along acyclic bindings:** what holds of a value as soon as it holds of all parts of what the
    value resolves to holds of every value. -/
theorem induction_of_acyclic (value : Value) : P value :=
  induction_of_agree h step bindings value fun _ _ => rfl

end

end Value

end SchemaConstraints
