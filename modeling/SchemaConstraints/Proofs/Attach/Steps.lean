import Mathlib.Data.List.Nodup
import SchemaConstraints.Proofs.Json.Record
import SchemaConstraints.Registry

set_option autoImplicit false

/-! # The steps of attaching a directive

A directive is attached in a fixed order of steps, and it is attached only if each of them succeeds:
its name belongs to a family, its arguments pass their own constraints and spell options, the options
apply to the element and fit it. What is attached are those options, coerced. `attach_eq_ok_iff` says this
once, so that no proof about attached constraints has to look inside `Registry.attach`. -/

namespace SchemaConstraints

namespace Constraint

theorem family_of_decode {family : Family} {json : Json} {constraint : Constraint}
    (h : decode family json = .ok constraint) : constraint.family = family := by
  cases family <;>
    · obtain ⟨_, _, rfl⟩ := Except.map_eq_ok_iff.1 h
      rfl

@[simp] theorem family_coerce (constraint : Constraint) (stringScalars : List String)
    (element : SchemaElement) : (constraint.coerce stringScalars element).family = constraint.family := by
  cases constraint <;> rfl

end Constraint

namespace ArgumentDefinition

/-- What is wrong inside an argument with a shape. -/
def invalidInside (path : List String) (fields : List ArgumentDefinition) : Json → Option (List String × Check)
  | .object members => firstInvalid path members fields
  | _ => none

/-- What is wrong with an argument, if it is written. -/
def fault (definition : ArgumentDefinition) (path : List String) (written : Option Json) :
    Option (List String × Check) :=
  match written with
  | none | some .null => none
  | some json =>
    match definition.check json with
    | some failed => some (path ++ [definition.name], failed)
    | none =>
      match InputShape.ofName? definition.type.leaf.name with
      | some shape => invalidInside (path ++ [definition.name]) shape.fields json
      | none => none

theorem fault_of_ne_null {definition : ArgumentDefinition} {path : List String} {json : Json} (hnull : json ≠ .null) :
    definition.fault path (some json) =
      match definition.check json with
      | some failed => some (path ++ [definition.name], failed)
      | none =>
        match InputShape.ofName? definition.type.leaf.name with
        | some shape => invalidInside (path ++ [definition.name]) shape.fields json
        | none => none := by
  cases json with
  | null => exact absurd rfl hnull
  | _ => rfl

/-- The first argument with a fault is reported. -/
theorem firstInvalid_eq_findSome? (path : List String) (members : List (String × Json))
    (definitions : List ArgumentDefinition) :
    firstInvalid path members definitions =
      definitions.findSome? fun definition => definition.fault path (Fields.find? definition.name members) := by
  induction definitions with
  | nil => simp [firstInvalid]
  | cons definition definitions ih =>
    rw [firstInvalid, List.findSome?_cons, ← ih]
    split
    · next hfind => rw [hfind]; rfl
    · next hfind => rw [hfind]; rfl
    · next json hnull hfind =>
      have hfault : definition.fault path (Fields.find? definition.name members) = _ :=
        (congrArg (definition.fault path) hfind).trans (fault_of_ne_null hnull)
      rw [hfault]
      cases definition.check json with
      | some failed => rfl
      | none =>
        cases InputShape.ofName? definition.type.leaf.name with
        | none => cases json <;> rfl
        | some shape =>
          cases json with
          | object inner =>
            dsimp only [invalidInside]
            cases firstInvalid (path ++ [definition.name]) inner shape.fields <;> rfl
          | _ => rfl

theorem fault_eq_none_iff {definition : ArgumentDefinition} {path : List String} {written : Option Json} :
    definition.fault path written = none ↔ ∀ json, written = some json → json ≠ .null →
      definition.check json = none ∧
      ∀ shape inner, InputShape.ofName? definition.type.leaf.name = some shape → json = .object inner →
        firstInvalid (path ++ [definition.name]) inner shape.fields = none := by
  cases written with
  | none => simp [fault]
  | some json =>
    by_cases hnull : json = .null
    · simp [fault, hnull]
    · simp only [fault_of_ne_null hnull, Option.some.injEq, forall_eq', ne_eq, hnull, not_false_eq_true, true_implies]
      cases definition.check json with
      | some failed => simp
      | none =>
        cases InputShape.ofName? definition.type.leaf.name <;> cases json <;> simp [invalidInside]

/-- Arguments pass if each that is there and not null passes its own check and, where it is an object and
    its type is an input shape, passes inside. -/
theorem firstInvalid_eq_none_iff {path : List String} {members : List (String × Json)}
    {definitions : List ArgumentDefinition} :
    firstInvalid path members definitions = none ↔
      ∀ definition ∈ definitions, ∀ json, Fields.find? definition.name members = some json → json ≠ .null →
        definition.check json = none ∧
        ∀ shape inner, InputShape.ofName? definition.type.leaf.name = some shape → json = .object inner →
          firstInvalid (path ++ [definition.name]) inner shape.fields = none := by
  rw [firstInvalid_eq_findSome?, List.findSome?_eq_none_iff]
  exact forall₂_congr fun _ _ => fault_eq_none_iff

end ArgumentDefinition

namespace Registry

variable {registry : Registry} {element : SchemaElement} {directive : String} {arguments : Json}
  {family : Family} {constraint : Constraint}

/-- A family is found by the name of its directive, which it shares with no other family. -/
theorem familyOf?_eq_some_iff :
    registry.familyOf? directive = some family ↔ registry.names.get family = directive := by
  constructor
  · intro h
    simpa using List.find?_some h
  · intro h
    obtain ⟨other, hother⟩ : ∃ other, registry.familyOf? directive = some other := by
      rw [familyOf?, ← Option.isSome_iff_exists, List.find?_isSome]
      exact ⟨family, by cases family <;> decide, by simpa using h⟩
    have hname : registry.names.get other = registry.names.get family := by
      rw [h]
      simpa using List.find?_some hother
    obtain rfl : other = family :=
      List.inj_on_of_nodup_map registry.names_nodup (by cases other <;> decide) (by cases family <;> decide) hname
    exact hother

theorem readArguments_eq_ok_iff :
    readArguments family directive arguments = .ok constraint ↔
      ∃ members, arguments = .object members ∧
        ArgumentDefinition.firstInvalid [] members family.arguments = none ∧
        Constraint.decode family arguments = .ok constraint := by
  cases arguments with
  | object members =>
    simp only [readArguments, Json.object.injEq, exists_eq_left']
    cases ArgumentDefinition.firstInvalid [] members family.arguments with
    | some failed => simp
    | none => cases Constraint.decode family (.object members) <;> simp
  | _ => simp [readArguments]

/-- **A directive is attached exactly if all steps succeed.** -/
theorem attach_eq_ok_iff :
    registry.attach element directive arguments = .ok constraint ↔
      ∃ family read, registry.familyOf? directive = some family ∧
        readArguments family directive arguments = .ok read ∧
        read.appliesTo registry.stringScalars element = true ∧
        read.checkFit registry.stringScalars directive element = .ok () ∧
        read.coerce registry.stringScalars element = constraint := by
  rw [attach]
  cases registry.familyOf? directive with
  | none => simp
  | some family =>
    simp only [Option.some.injEq, exists_and_left, exists_eq_left']
    rw [Except.bind_eq_ok_iff]
    refine exists_congr fun read => and_congr_right fun _ => ?_
    cases happlies : read.appliesTo registry.stringScalars element with
    | false => simp [bind, Except.bind]
    | true =>
      rw [if_neg (by simp), Except.bind_eq_ok_iff]
      constructor
      · rintro ⟨_, hfit, h⟩
        exact ⟨rfl, hfit, Except.ok.inj h⟩
      · rintro ⟨-, hfit, rfl⟩
        exact ⟨(), hfit, rfl⟩

/-- What is attached is of the family that the directive names. -/
theorem familyOf?_of_attach (h : registry.attach element directive arguments = .ok constraint) :
    registry.familyOf? directive = some constraint.family := by
  obtain ⟨family, read, hfamily, hread, -, -, rfl⟩ := attach_eq_ok_iff.1 h
  obtain ⟨_, -, -, hdecode⟩ := readArguments_eq_ok_iff.1 hread
  rw [hfamily, Constraint.family_coerce, Constraint.family_of_decode hdecode]

end Registry

end SchemaConstraints
