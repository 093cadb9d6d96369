import SchemaConstraints.Directive.Argument

set_option autoImplicit false

/-! # Checking the arguments of a directive against their own constraints

Before arguments are read as options, each of them is checked as a value against the constraint of its
definition, in the order of the definitions. Arguments that are missing or null are skipped. An argument
that is written as an object and has an input shape for its type is then checked inside, field by field.

The shapes refer to each other in a cycle, but each visit inside an argument is a visit to a smaller JSON
value. -/

namespace SchemaConstraints

theorem Fields.sizeOf_find?_lt {name : String} {json : Json} {members : List (String × Json)}
    (h : Fields.find? name members = some json) : sizeOf json < sizeOf members := by
  induction members with
  | nil => simp at h
  | cons entry rest ih =>
    obtain ⟨key, value⟩ := entry
    simp only [Fields.find?] at h
    split at h
    · obtain rfl := Option.some.inj h
      simp only [List.cons.sizeOf_spec, Prod.mk.sizeOf_spec]
      omega
    · have := ih h
      simp only [List.cons.sizeOf_spec]
      omega

namespace ArgumentDefinition

/-- The check that an argument's own value fails. -/
def check (definition : ArgumentDefinition) (json : Json) : Verdict :=
  definition.constraint.bind fun constraint => constraint.verdict [] (.ofJson json)

/-- The first argument whose value fails a check, with the path to it. -/
def firstInvalid (path : List String) (members : List (String × Json)) :
    List ArgumentDefinition → Option (List String × Check)
  | [] => none
  | definition :: definitions =>
    match h : Fields.find? definition.name members with
    | none | some .null => firstInvalid path members definitions
    | some json =>
      let here := path ++ [definition.name]
      match definition.check json with
      | some failed => some (here, failed)
      | none =>
        let inside :=
          match InputShape.ofName? definition.type.leaf.name, hj : json with
          | some shape, .object inner =>
            have : sizeOf inner < sizeOf members := by
              have := Fields.sizeOf_find?_lt h
              subst hj
              simp only [Json.object.sizeOf_spec] at this
              omega
            firstInvalid here inner shape.fields
          | _, _ => none
        match inside with
        | some found => some found
        | none => firstInvalid path members definitions
  termination_by definitions => (sizeOf members, definitions.length)

end ArgumentDefinition

end SchemaConstraints
