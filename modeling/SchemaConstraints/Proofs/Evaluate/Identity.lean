import SchemaConstraints.Evaluate.List
import SchemaConstraints.Proofs.Evaluate.Acyclic

set_option autoImplicit false

/-! # Identities along bindings

The identity of a value is put together from those of its parts (`ofValue_eq_of_parts`), and bindings come
in only where a part is a variable. On acyclic bindings a variable has the identity of what stands in for it
under the same bindings (`ofValue_variable`), although its own binding is left out on the way. -/

namespace SchemaConstraints

namespace Identity

variable {bindings bindings' : Bindings} {name : String}

/-! ## Lists of identities -/

theorem allDistinct_iff {identities : List Identity} : allDistinct identities = true ↔ identities.Nodup := by
  induction identities with
  | nil => simp [allDistinct]
  | cons identity rest ih => simp [allDistinct, ih]

theorem ofItems_eq_map (bindings : Bindings) (items : List Value) :
    ofItems bindings items = items.map (ofValue bindings) := by
  induction items with
  | nil => simp [ofItems]
  | cons item items ih => simp [ofItems, ih]

theorem ofFields_eq_mapValues (bindings : Bindings) (fields : List (String × Value)) :
    ofFields bindings fields = Fields.mapValues (ofValue bindings) fields := by
  induction fields with
  | nil => simp [ofFields, Fields.mapValues]
  | cons field fields ih =>
    rw [ofFields, ih]
    rfl

/-! ## One step into a value -/

theorem ofValue_of_unbound (h : Fields.find? name bindings = none) : ofValue bindings (.variable name) = .null := by
  rw [ofValue]
  split <;> simp_all

theorem ofValue_of_indirect {other : String} (h : Fields.find? name bindings = some (.variable other)) :
    ofValue bindings (.variable name) = .null := by
  rw [ofValue]
  split <;> simp_all

theorem ofValue_of_bound {value : Value} (h : Fields.find? name bindings = some value)
    (hdirect : ∀ other, value ≠ .variable other) :
    ofValue bindings (.variable name) = ofValue (Fields.erase name bindings) value := by
  rw [ofValue]
  split
  · next hnone => simp [h] at hnone
  · next other hother => exact absurd (Option.some.inj (h.symm.trans hother)) (hdirect other)
  · next found _ hfound => rw [Option.some.inj (h.symm.trans hfound)]

/-- A value that is no variable has the same identity under all bindings under which its parts have. -/
theorem ofValue_eq_of_parts {value : Value} (hdirect : ∀ name, value ≠ .variable name)
    (hparts : ∀ part ∈ value.parts, ofValue bindings part = ofValue bindings' part) :
    ofValue bindings value = ofValue bindings' value := by
  cases value with
  | enum name repr =>
    rw [ofValue, ofValue]
    exact hparts repr (List.mem_singleton_self repr)
  | list items =>
    have hitems : items.map (ofValue bindings) = items.map (ofValue bindings') := List.map_congr_left hparts
    rw [ofValue, ofValue, ofItems_eq_map, ofItems_eq_map, hitems]
  | object shape fields =>
    have hfields : Fields.mapValues (ofValue bindings) fields = Fields.mapValues (ofValue bindings') fields :=
      List.map_congr_left fun field hfield => by rw [hparts field.2 (List.mem_map_of_mem hfield)]
    rw [ofValue, ofValue, ofFields_eq_mapValues, ofFields_eq_mapValues, hfields]
  | «variable» name => exact absurd rfl (hdirect name)
  | _ => rw [ofValue, ofValue]

/-- A value without variables has one identity. -/
theorem ofValue_of_closed (bindings bindings' : Bindings) (value : Value) (h : value.variableNames = []) :
    ofValue bindings value = ofValue bindings' value := by
  induction value using Value.induction_of_parts with
  | step value ih =>
    have hdirect : ∀ name, value ≠ .variable name := by
      rintro name rfl
      simp [Value.variableNames] at h
    refine ofValue_eq_of_parts hdirect fun part hpart => ih part hpart ?_
    exact List.subset_nil.1 (h ▸ Value.variableNames_subset_of_mem_parts hpart)

end Identity

/-! ## What stands in for a variable -/

namespace Value

/-- The value that stands in for a variable where values are compared: the one that it is bound to, or null if
    it is unbound or bound to a variable. -/
def standIn (bindings : Bindings) (name : String) : Value :=
  match Fields.find? name bindings with
  | none | some (.variable _) => .null
  | some value => value

variable {bindings : Bindings} {name : String}

theorem standIn_ne_variable (other : String) : standIn bindings name ≠ .variable other := by
  rw [standIn]
  split
  · simp
  · simp
  · next value hdirect _ =>
    rintro rfl
    exact hdirect other rfl

theorem mem_parts_resolve_of_standIn {part : Value} (h : part ∈ (standIn bindings name).parts) :
    part ∈ ((Value.variable name).resolve bindings).parts := by
  rw [standIn] at h
  rw [resolve]
  split at h
  · simp [parts] at h
  · simp [parts] at h
  · next hfind => rwa [hfind, Option.getD_some]

/-- **Induction along acyclic bindings, through what stands in for variables:** what holds of a variable as soon
    as it holds of what stands in for it, and of any other value as soon as it holds of its parts, holds of
    every value. -/
theorem induction_of_standIn (h : bindings.Acyclic) {P : Value → Prop}
    (direct : ∀ value, (∀ name, value ≠ .variable name) → (∀ part ∈ value.parts, P part) → P value)
    (indirect : ∀ name, P (standIn bindings name) → P (.variable name)) (value : Value) : P value := by
  refine induction_of_acyclic h (fun value ih => ?_) value
  by_cases hvariable : ∃ name, value = .variable name
  · obtain ⟨name, rfl⟩ := hvariable
    refine indirect name (direct _ standIn_ne_variable fun part hpart => ?_)
    exact ih part (mem_parts_resolve_of_standIn hpart)
  · rw [resolve_eq_self hvariable] at ih
    exact direct value (fun name heq => hvariable ⟨name, heq⟩) ih

end Value

namespace Identity

variable {bindings : Bindings} (h : bindings.Acyclic)
include h

/-- Bindings of names that a value does not reach do not matter to its identity. -/
theorem ofValue_of_agree (value : Value) (inner : Bindings)
    (hagree : ∀ name, bindings.Reaches value.variableNames name →
      Fields.find? name inner = Fields.find? name bindings) :
    ofValue inner value = ofValue bindings value := by
  revert inner
  refine Value.induction_of_acyclic h (P := fun value => ∀ inner : Bindings,
    (∀ name, bindings.Reaches value.variableNames name → Fields.find? name inner = Fields.find? name bindings) →
    ofValue inner value = ofValue bindings value) (fun value ih inner hagree => ?_) value
  by_cases hvariable : ∃ name, value = .variable name
  · obtain ⟨name, rfl⟩ := hvariable
    have hname := hagree name ⟨name, by simp [Value.variableNames], .refl⟩
    cases hfind : Fields.find? name bindings with
    | none => rw [ofValue_of_unbound hfind, ofValue_of_unbound (hname.trans hfind)]
    | some value =>
      by_cases hdirect : ∃ other, value = .variable other
      · obtain ⟨other, rfl⟩ := hdirect
        rw [ofValue_of_indirect hfind, ofValue_of_indirect (hname.trans hfind)]
      · have hdirect : ∀ other, value ≠ .variable other := fun other heq => hdirect ⟨other, heq⟩
        rw [ofValue_of_bound hfind hdirect, ofValue_of_bound (hname.trans hfind) hdirect]
        rw [Value.resolve, hfind, Option.getD_some] at ih
        refine ofValue_eq_of_parts hdirect fun part hpart => ?_
        -- the variable is not reached from its own value, so leaving it out changes nothing on either side
        have hother : ∀ other, bindings.Reaches part.variableNames other →
            other ≠ name ∧ bindings.Reaches (Value.variable name).variableNames other :=
          fun other hreach => (Value.reaches_of_mem_parts hpart hreach).of_bound h hfind
        have hinner := ih part hpart (Fields.erase name inner) fun other hreach => by
          rw [Fields.find?_erase_of_ne (hother other hreach).1, hagree other (hother other hreach).2]
        have houter := ih part hpart (Fields.erase name bindings) fun other hreach => by
          rw [Fields.find?_erase_of_ne (hother other hreach).1]
        exact hinner.trans houter.symm
  · rw [Value.resolve_eq_self hvariable] at ih
    refine ofValue_eq_of_parts (fun name heq => hvariable ⟨name, heq⟩) fun part hpart => ?_
    exact ih part hpart inner fun other hreach => hagree other (Value.reaches_of_mem_parts hpart hreach)

/-- A variable has the identity of what stands in for it. -/
theorem ofValue_variable (name : String) :
    ofValue bindings (.variable name) = ofValue bindings (Value.standIn bindings name) := by
  rw [Value.standIn]
  split
  · next hfind => rw [ofValue_of_unbound hfind, ofValue]
  · next hfind => rw [ofValue_of_indirect hfind, ofValue]
  · next value hdirect hfind =>
    rw [ofValue_of_bound hfind hdirect]
    exact ofValue_of_agree h value _ fun other hreach => Fields.find?_erase_of_ne (hreach.of_bound h hfind).1 _

end Identity

end SchemaConstraints
