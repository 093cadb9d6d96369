import SchemaConstraints.Proofs.Attach.Steps
import SchemaConstraints.Proofs.Evaluate.Scalar
import SchemaConstraints.Proofs.Number.Order

set_option autoImplicit false

/-! # Which arguments are visited

Before arguments are read as options, each of them is checked against the constraint of its definition. Which ones
are looked at, and in which order, does not depend on what the constraints say: `HasVisits` lists them, in the
order of the definitions, with what is inside an argument right after it. Although an input shape may have fields
of its own type, there is always exactly one such list, because what is inside an argument is smaller JSON
(`exists_hasVisits`, `HasVisits.unique`).

Arguments are accepted if each visited one passes, and otherwise rejected with the path to the first that does not
(`arguments_checked_in_order`). In particular no level of list options gets by with a negative number of items. -/

namespace SchemaConstraints

/-! ## Visits -/

/-- A visit to an argument that is written and not null: the path to it, its definition and its value. -/
structure ArgumentVisit where
  path : List String
  definition : ArgumentDefinition
  json : Json

namespace ArgumentVisit

/-- The value satisfies what the definition asks for, if it asks for anything. -/
def Passes (visit : ArgumentVisit) : Prop :=
  ∀ constraint, visit.definition.constraint = some constraint → constraint.verdict [] (.ofJson visit.json) = none

/-- The value fails a check of the definition's constraint. -/
def Fails (visit : ArgumentVisit) (check : Check) : Prop :=
  ∃ constraint, visit.definition.constraint = some constraint ∧ constraint.verdict [] (.ofJson visit.json) = some check

/-- The visit that ends at a path is the first one that fails, and it fails this check. -/
def FirstFails (visits : List ArgumentVisit) (path : List String) (check : Check) : Prop :=
  ∃ before visit after, visits = before ++ visit :: after ∧ (∀ earlier ∈ before, earlier.Passes) ∧
    visit.path = path ∧ visit.Fails check

/-- The verdict of a visit, together with the path. -/
def failure (visit : ArgumentVisit) : Option (List String × Check) :=
  (visit.definition.check visit.json).map (visit.path, ·)

variable {visit : ArgumentVisit} {visits : List ArgumentVisit} {path : List String} {check : Check}

theorem failure_eq_none_iff : visit.failure = none ↔ visit.Passes := by
  rw [failure, Option.map_eq_none_iff, ArgumentDefinition.check, Option.bind_eq_none_iff]
  rfl

theorem failure_eq_some_iff : visit.failure = some (path, check) ↔ visit.path = path ∧ visit.Fails check := by
  rw [failure, Option.map_eq_some_iff]
  constructor
  · rintro ⟨failed, hfailed, heq⟩
    obtain ⟨rfl, rfl⟩ := Prod.mk.inj heq
    exact ⟨rfl, Option.bind_eq_some_iff.1 hfailed⟩
  · rintro ⟨rfl, hfails⟩
    exact ⟨check, Option.bind_eq_some_iff.2 hfails, rfl⟩

theorem findSome?_failure_eq_none_iff : visits.findSome? failure = none ↔ ∀ visit ∈ visits, visit.Passes := by
  rw [List.findSome?_eq_none_iff]
  exact forall₂_congr fun _ _ => failure_eq_none_iff

theorem findSome?_failure_eq_some_iff : visits.findSome? failure = some (path, check) ↔ FirstFails visits path check := by
  rw [List.findSome?_eq_some_iff]
  constructor
  · rintro ⟨before, visit, after, hsplit, hfails, hbefore⟩
    exact ⟨before, visit, after, hsplit, fun earlier hearlier => failure_eq_none_iff.1 (hbefore earlier hearlier),
      failure_eq_some_iff.1 hfails⟩
  · rintro ⟨before, visit, after, hsplit, hbefore, hfails⟩
    exact ⟨before, visit, after, hsplit, failure_eq_some_iff.2 hfails,
      fun earlier hearlier => failure_eq_none_iff.2 (hbefore earlier hearlier)⟩

end ArgumentVisit

/-- The visits to the arguments among the members of an object, at the end of a path. -/
inductive HasVisits : List String → List (String × Json) → List ArgumentDefinition → List ArgumentVisit → Prop
  | nil {path : List String} {members : List (String × Json)} : HasVisits path members [] []
  /-- An argument that is missing or null is not visited. -/
  | skip {path : List String} {members : List (String × Json)} {definition : ArgumentDefinition}
    {definitions : List ArgumentDefinition} {rest : List ArgumentVisit}
    (hfind : Fields.find? definition.name members = none ∨ Fields.find? definition.name members = some .null)
    (hrest : HasVisits path members definitions rest) : HasVisits path members (definition :: definitions) rest
  /-- An argument that is no object, or one whose type is no input shape. -/
  | plain {path : List String} {members : List (String × Json)} {definition : ArgumentDefinition}
    {definitions : List ArgumentDefinition} {rest : List ArgumentVisit} {json : Json}
    (hfind : Fields.find? definition.name members = some json) (hnull : json ≠ .null)
    (hplain : ∀ shape inner, InputShape.ofName? definition.type.leaf.name = some shape → json ≠ .object inner)
    (hrest : HasVisits path members definitions rest) :
    HasVisits path members (definition :: definitions) (⟨path ++ [definition.name], definition, json⟩ :: rest)
  /-- An argument that is an object and has an input shape: the fields of the shape come next. -/
  | shaped {path : List String} {members : List (String × Json)} {definition : ArgumentDefinition}
    {definitions : List ArgumentDefinition} {inside rest : List ArgumentVisit} {inner : List (String × Json)}
    {shape : InputShape} (hfind : Fields.find? definition.name members = some (.object inner))
    (hshape : InputShape.ofName? definition.type.leaf.name = some shape)
    (hinside : HasVisits (path ++ [definition.name]) inner shape.fields inside)
    (hrest : HasVisits path members definitions rest) :
    HasVisits path members (definition :: definitions)
      (⟨path ++ [definition.name], definition, .object inner⟩ :: (inside ++ rest))

theorem Fields.sizeOf_find?_object_lt {name : String} {inner members : List (String × Json)}
    (h : Fields.find? name members = some (.object inner)) : sizeOf inner < sizeOf members := by
  have hlt := Fields.sizeOf_find?_lt h
  rw [Json.object.sizeOf_spec] at hlt
  omega

/-- The shapes may refer to each other in a cycle, but the JSON inside an argument ends. -/
theorem exists_hasVisits (path : List String) (members : List (String × Json)) :
    ∀ definitions, ∃ visits, HasVisits path members definitions visits
  | [] => ⟨[], .nil⟩
  | definition :: definitions => by
    obtain ⟨rest, hrest⟩ := exists_hasVisits path members definitions
    cases hfind : Fields.find? definition.name members with
    | none => exact ⟨rest, .skip (.inl hfind) hrest⟩
    | some json =>
      by_cases hnull : json = .null
      · exact ⟨rest, .skip (.inr (hnull ▸ hfind)) hrest⟩
      by_cases hshaped : ∃ shape inner,
          InputShape.ofName? definition.type.leaf.name = some shape ∧ json = .object inner
      · obtain ⟨shape, inner, hshape, rfl⟩ := hshaped
        have hlt : sizeOf inner < sizeOf members := Fields.sizeOf_find?_object_lt hfind
        obtain ⟨inside, hinside⟩ := exists_hasVisits (path ++ [definition.name]) inner shape.fields
        exact ⟨_, .shaped hfind hshape hinside hrest⟩
      · refine ⟨_, .plain hfind hnull (fun shape inner hshape hjson => ?_) hrest⟩
        exact hshaped ⟨shape, inner, hshape, hjson⟩
  termination_by definitions => (sizeOf members, definitions.length)

namespace HasVisits

variable {path : List String} {members : List (String × Json)} {definitions : List ArgumentDefinition}
  {visits others : List ArgumentVisit}

theorem not_skipped {written : Option Json} {json : Json} (hwritten : written = some json) (hnull : json ≠ .null) :
    ¬(written = none ∨ written = some .null) := by
  rintro (h | h)
  · exact Option.some_ne_none json (hwritten.symm.trans h)
  · exact hnull (Option.some.inj (hwritten.symm.trans h))

theorem unique (h : HasVisits path members definitions visits) (hothers : HasVisits path members definitions others) :
    visits = others := by
  -- what is written for the first definition decides which rule applies, so both lists come from the same one
  induction h generalizing others with
  | nil =>
    cases hothers
    rfl
  | skip hfind _ ih =>
    cases hothers with
    | skip _ hrest' => exact ih hrest'
    | plain hfind' hnull' => exact absurd hfind (not_skipped hfind' hnull')
    | shaped hfind' => exact absurd hfind (not_skipped hfind' (by simp))
  | plain hfind hnull hplain _ ih =>
    cases hothers with
    | skip hfind' => exact absurd hfind' (not_skipped hfind hnull)
    | plain hfind' _ _ hrest' =>
      obtain rfl := Option.some.inj (hfind.symm.trans hfind')
      rw [ih hrest']
    | shaped hfind' hshape' => exact absurd (Option.some.inj (hfind.symm.trans hfind')) (hplain _ _ hshape')
  | shaped hfind hshape _ _ ihinside ihrest =>
    cases hothers with
    | skip hfind' => exact absurd hfind' (not_skipped hfind (by simp))
    | plain hfind' _ hplain' => exact absurd (Option.some.inj (hfind'.symm.trans hfind)) (hplain' _ _ hshape)
    | shaped hfind' hshape' hinside' hrest' =>
      obtain rfl := Json.object.inj (Option.some.inj (hfind.symm.trans hfind'))
      obtain rfl := Option.some.inj (hshape.symm.trans hshape')
      rw [ihinside hinside', ihrest hrest']

end HasVisits

/-! ## What the visits find -/

namespace ArgumentDefinition

variable {definition : ArgumentDefinition} {path : List String}

theorem firstInvalid_cons (members : List (String × Json)) (definitions : List ArgumentDefinition) :
    firstInvalid path members (definition :: definitions) =
      (definition.fault path (Fields.find? definition.name members)).or (firstInvalid path members definitions) := by
  rw [firstInvalid_eq_findSome?, firstInvalid_eq_findSome?, findSome?_cons_eq_or]

theorem fault_of_plain {json : Json} (hnull : json ≠ .null)
    (hplain : ∀ shape inner, InputShape.ofName? definition.type.leaf.name = some shape → json ≠ .object inner) :
    definition.fault path (some json) = ArgumentVisit.failure ⟨path ++ [definition.name], definition, json⟩ := by
  rw [fault_of_ne_null hnull, ArgumentVisit.failure]
  cases definition.check json with
  | some failed => rfl
  | none =>
    cases hshape : InputShape.ofName? definition.type.leaf.name with
    | none => rfl
    | some shape =>
      cases json with
      | object inner => exact absurd rfl (hplain shape inner hshape)
      | _ => rfl

theorem fault_of_shaped {inner : List (String × Json)} {shape : InputShape}
    (hshape : InputShape.ofName? definition.type.leaf.name = some shape) :
    definition.fault path (some (.object inner)) =
      (ArgumentVisit.failure ⟨path ++ [definition.name], definition, .object inner⟩).or
        (firstInvalid (path ++ [definition.name]) inner shape.fields) := by
  rw [fault_of_ne_null (by simp), ArgumentVisit.failure, hshape]
  cases definition.check (.object inner) <;> rfl

/-- The argument that is reported is the first visited one that fails. -/
theorem firstInvalid_eq_findSome?_failure {members : List (String × Json)} {definitions : List ArgumentDefinition}
    {visits : List ArgumentVisit} (h : HasVisits path members definitions visits) :
    firstInvalid path members definitions = visits.findSome? ArgumentVisit.failure := by
  induction h with
  | nil => simp [firstInvalid]
  | skip hfind _ ih =>
    rw [firstInvalid_cons, ih]
    rcases hfind with hfind | hfind <;>
      · rw [hfind]
        rfl
  | plain hfind hnull hplain _ ih =>
    rw [firstInvalid_cons, hfind, fault_of_plain hnull hplain, ih, findSome?_cons_eq_or]
  | shaped hfind hshape _ _ ihinside ihrest =>
    rw [firstInvalid_cons, hfind, fault_of_shaped hshape, ihinside, ihrest, findSome?_cons_eq_or,
      List.findSome?_append, Option.or_assoc]

end ArgumentDefinition

/-! ## Negative numbers of items -/

/-- A JSON number below zero. -/
def Json.IsNegative : Json → Prop
  | .integer n => n < 0
  | .float x => (Number.float x).less (.int 0) = true
  | _ => False

theorem Json.IsNegative.exists_number {json : Json} (h : json.IsNegative) :
    ∃ number, Number.ofJson? json = some number ∧ number.less (.int 0) = true := by
  cases json with
  | integer n => exact ⟨.ofInt n, rfl, Number.ofInt_less_zero_iff.2 h⟩
  | float x => exact ⟨.float x, rfl, h⟩
  | _ => exact h.elim

theorem Value.ofJson_of_ofJson? {json : Json} {number : Number} (h : Number.ofJson? json = some number) :
    ofJson json = (Scalar.ofNumber number).toValue := by
  cases json with
  | integer n =>
    obtain rfl := Option.some.inj h
    rw [ofJson]
    cases Number.ofInt n <;> rfl
  | float x =>
    obtain rfl := Option.some.inj h
    rw [ofJson]
    rfl
  | _ => simp [Number.ofJson?] at h

namespace ArgumentDefinition

/-- All that is asked of a number that must not be negative. -/
theorem verdict_nonNegative {json : Json} {number : Number} (h : Number.ofJson? json = some number) :
    nonNegative.verdict [] (.ofJson json) = Check.min.require (!number.less (.int 0)) := by
  rw [Value.ofJson_of_ofJson? h, nonNegative, Constraint.verdict, ScalarOptions.verdict_toValue]
  cases number <;> simp [Scalar.ofNumber, Scalar.toValue, ScalarOptions.checkKind, ScalarOptions.checkNumber,
    ScalarOptions.checkOneOf, Check.require]

theorem verdict_nonNegative_of_isNegative {json : Json} (h : json.IsNegative) :
    nonNegative.verdict [] (.ofJson json) = some .min := by
  obtain ⟨number, hnumber, hless⟩ := h.exists_number
  rw [verdict_nonNegative hnumber, hless]
  rfl

/-- The options of a deeper level of a list, where each level on the way is an object inside `innerList`. -/
inductive IsLevel (members : List (String × Json)) : Nat → List (String × Json) → Prop
  | outer : IsLevel members 0 members
  | deeper {depth : Nat} {level inner : List (String × Json)} (hlevel : IsLevel members depth level)
    (hinner : Fields.find? "innerList" level = some (.object inner)) : IsLevel members (depth + 1) inner

end ArgumentDefinition

namespace HasVisits

variable {path : List String} {members inner : List (String × Json)} {definitions : List ArgumentDefinition}
  {definition : ArgumentDefinition} {visits : List ArgumentVisit} {shape : InputShape} {json : Json}

/-- The visits to one of the arguments are among those to all of them. -/
theorem exists_part (h : HasVisits path members definitions visits) (hmem : definition ∈ definitions) :
    ∃ part, HasVisits path members [definition] part ∧ part ⊆ visits := by
  induction h with
  | nil => simp at hmem
  | skip hfind _ ih =>
    rcases List.mem_cons.1 hmem with rfl | hmem
    · exact ⟨[], .skip hfind .nil, List.nil_subset _⟩
    · exact ih hmem
  | plain hfind hnull hplain _ ih =>
    rcases List.mem_cons.1 hmem with rfl | hmem
    · exact ⟨_, .plain hfind hnull hplain .nil, List.cons_subset_cons _ (List.nil_subset _)⟩
    · obtain ⟨part, hpart, hsubset⟩ := ih hmem
      exact ⟨part, hpart, List.subset_cons_of_subset _ hsubset⟩
  | @shaped _ _ _ _ inside _ _ _ hfind hshape hinside _ _ ih =>
    rcases List.mem_cons.1 hmem with rfl | hmem
    · refine ⟨_, .shaped hfind hshape hinside .nil, List.cons_subset_cons _ ?_⟩
      rw [List.append_nil]
      exact List.subset_append_left inside _
    · obtain ⟨part, hpart, hsubset⟩ := ih hmem
      exact ⟨part, hpart, List.subset_cons_of_subset _ (List.subset_append_of_subset_right _ hsubset)⟩

theorem mem (h : HasVisits path members definitions visits) (hmem : definition ∈ definitions)
    (hfind : Fields.find? definition.name members = some json) (hnull : json ≠ .null) :
    ⟨path ++ [definition.name], definition, json⟩ ∈ visits := by
  obtain ⟨part, hpart, hsubset⟩ := h.exists_part hmem
  refine hsubset ?_
  cases hpart with
  | skip hfind' => exact absurd hfind' (not_skipped hfind hnull)
  | plain hfind' | shaped hfind' =>
    obtain rfl := Option.some.inj (hfind.symm.trans hfind')
    exact List.mem_cons_self

theorem exists_inside (h : HasVisits path members definitions visits) (hmem : definition ∈ definitions)
    (hfind : Fields.find? definition.name members = some (.object inner))
    (hshape : InputShape.ofName? definition.type.leaf.name = some shape) :
    ∃ inside, HasVisits (path ++ [definition.name]) inner shape.fields inside ∧ inside ⊆ visits := by
  obtain ⟨part, hpart, hsubset⟩ := h.exists_part hmem
  cases hpart with
  | skip hfind' => exact absurd hfind' (not_skipped hfind (by simp))
  | plain hfind' _ hplain => exact absurd (Option.some.inj (hfind'.symm.trans hfind)) (hplain _ _ hshape)
  | shaped hfind' hshape' hinside =>
    obtain rfl := Json.object.inj (Option.some.inj (hfind.symm.trans hfind'))
    obtain rfl := Option.some.inj (hshape.symm.trans hshape')
    refine ⟨_, hinside, fun visit hvisit => hsubset ?_⟩
    exact List.mem_cons_of_mem _ (List.mem_append_left _ hvisit)

open ArgumentDefinition

/-- Each level of list options is visited with the path that leads to it. -/
theorem exists_level {depth : Nat} (h : HasVisits [] members ofList visits) (hlevel : IsLevel members depth inner) :
    ∃ inside, HasVisits (List.replicate depth "innerList") inner ofList inside ∧ inside ⊆ visits := by
  induction hlevel with
  | outer => exact ⟨visits, h, List.Subset.refl _⟩
  | deeper _ hinner ih =>
    obtain ⟨outside, houtside, hsubset⟩ := ih
    have hmem : ⟨"innerList", .inputObject listShapeName, none⟩ ∈ ofList := by simp [ofList]
    have hshape : InputShape.ofName? (TypeRef.inputObject listShapeName).leaf.name = some .listOptions := rfl
    obtain ⟨inside, hinside, hsubset'⟩ := houtside.exists_inside hmem hinner hshape
    rw [← List.replicate_succ'] at hinside
    exact ⟨inside, hinside, List.Subset.trans hsubset' hsubset⟩

/-- A negative number of items fails wherever it is written. -/
theorem exists_negative {depth : Nat} {name : String} (h : HasVisits [] members ofList visits)
    (hlevel : IsLevel members depth inner) (hname : name ∈ ["minItems", "maxItems"])
    (hfind : Fields.find? name inner = some json) (hnegative : json.IsNegative) :
    ∃ visit ∈ visits, visit.path = List.replicate depth "innerList" ++ [name] ∧ visit.json = json ∧
      visit.Fails .min := by
  obtain ⟨inside, hinside, hsubset⟩ := h.exists_level hlevel
  have hmem : ⟨name, .int, some nonNegative⟩ ∈ ofList := by
    simp only [List.mem_cons, List.not_mem_nil, or_false] at hname
    rcases hname with rfl | rfl <;> simp [ofList]
  have hnull : json ≠ .null := by
    rintro rfl
    exact hnegative
  exact ⟨_, hsubset (hinside.mem hmem hfind hnull), rfl, rfl, nonNegative, rfl,
    verdict_nonNegative_of_isNegative hnegative⟩

end HasVisits

/-! ## Attaching -/

theorem Constraint.checkFit_ne_invalidArgument (constraint : Constraint) (stringScalars : List String)
    (directive name : String) (element : SchemaElement) (path : List String) (check : Check) :
    constraint.checkFit stringScalars directive element ≠ .error (.invalidArgument name path check) := by
  cases constraint with
  | scalar options =>
    unfold checkFit ScalarOptions.checkFit
    dsimp only
    split
    · simp
    · split <;> simp
  | list options =>
    unfold checkFit ListOptions.checkFit
    dsimp only
    split
    · simp
    · split <;> simp
  | object options =>
    unfold checkFit PresenceOptions.checkFit
    dsimp only
    split <;> simp
  | upload options => simp [checkFit]

namespace Registry

variable {registry : Registry} {element : SchemaElement} {family : Family} {members : List (String × Json)}
  {path : List String} {check : Check}

/-- No later step complains about an argument that fails its own check. -/
theorem attach_eq_invalidArgument_iff :
    registry.attach element (registry.names.get family) (.object members) =
        .error (.invalidArgument (registry.names.get family) path check) ↔
      ArgumentDefinition.firstInvalid [] members family.arguments = some (path, check) := by
  rw [attach, familyOf?_eq_some_iff.2 rfl]
  simp only [readArguments, bind, Except.bind, pure, Except.pure]
  cases ArgumentDefinition.firstInvalid [] members family.arguments with
  | some failed => simp [Prod.ext_iff]
  | none =>
    cases Constraint.decode family (.object members) with
    | error e => simp
    | ok constraint =>
      have hfit := constraint.checkFit_ne_invalidArgument registry.stringScalars (registry.names.get family)
        (registry.names.get family) element path check
      cases happlies : constraint.appliesTo registry.stringScalars element with
      | false => simp [happlies]
      | true =>
        cases hresult : constraint.checkFit registry.stringScalars (registry.names.get family) element with
        | error e =>
          rw [hresult] at hfit
          simpa [happlies, hresult] using hfit
        | ok => simp [happlies, hresult]

/-- **Arguments are rejected for the first visited one that fails, and accepted if there is none,** in the order of
    the definitions and at every depth. A negative number of items is never accepted, however deep the options of
    the list are that it is written in. -/
theorem arguments_checked_in_order (registry : Registry) (family : Family) (element : SchemaElement)
    (members : List (String × Json)) :
    ∃ visits, (∀ others, HasVisits [] members family.arguments others ↔ others = visits) ∧
      (ArgumentDefinition.firstInvalid [] members family.arguments = none ↔ ∀ visit ∈ visits, visit.Passes) ∧
      (∀ path check, ArgumentDefinition.firstInvalid [] members family.arguments = some (path, check) ↔
        ArgumentVisit.FirstFails visits path check) ∧
      (∀ path check, registry.attach element (registry.names.get family) (.object members) =
          .error (.invalidArgument (registry.names.get family) path check) ↔
        ArgumentVisit.FirstFails visits path check) ∧
      (family = .list → ∀ depth level name json, ArgumentDefinition.IsLevel members depth level →
        name ∈ ["minItems", "maxItems"] → Fields.find? name level = some json → json.IsNegative →
        ∃ before visit after, visits = before ++ visit :: after ∧
          visit.path = List.replicate depth "innerList" ++ [name] ∧ visit.json = json ∧
          (∃ path check, registry.attach element (registry.names.get family) (.object members) =
            .error (.invalidArgument (registry.names.get family) path check)) ∧
          ((∀ earlier ∈ before, earlier.Passes) →
            registry.attach element (registry.names.get family) (.object members) =
              .error (.invalidArgument (registry.names.get family) visit.path .min))) := by
  obtain ⟨visits, hvisits⟩ := exists_hasVisits [] members family.arguments
  have hfirst := ArgumentDefinition.firstInvalid_eq_findSome?_failure hvisits
  have hnone : ArgumentDefinition.firstInvalid [] members family.arguments = none ↔ ∀ visit ∈ visits, visit.Passes := by
    rw [hfirst, ArgumentVisit.findSome?_failure_eq_none_iff]
  have hsome : ∀ path check, ArgumentDefinition.firstInvalid [] members family.arguments = some (path, check) ↔
      ArgumentVisit.FirstFails visits path check := by
    intro path check
    rw [hfirst, ArgumentVisit.findSome?_failure_eq_some_iff]
  have hattach : ∀ path check, registry.attach element (registry.names.get family) (.object members) =
      .error (.invalidArgument (registry.names.get family) path check) ↔
        ArgumentVisit.FirstFails visits path check := by
    intro path check
    rw [attach_eq_invalidArgument_iff, hsome]
  refine ⟨visits, fun others => ⟨fun h => h.unique hvisits, ?_⟩, hnone, hsome, hattach, ?_⟩
  · rintro rfl
    exact hvisits
  · -- an earlier argument may be the one that is reported, but something is
    rintro rfl depth level name json hlevel hname hfind hnegative
    obtain ⟨visit, hmem, hpath, hjson, hfails⟩ := hvisits.exists_negative hlevel hname hfind hnegative
    obtain ⟨before, after, hsplit⟩ := List.append_of_mem hmem
    refine ⟨before, visit, after, hsplit, hpath, hjson, ?_, fun hbefore => ?_⟩
    · cases hresult : ArgumentDefinition.firstInvalid [] members (Family.arguments .list) with
      | none =>
        obtain ⟨constraint, hconstraint, hverdict⟩ := hfails
        exact absurd ((hnone.1 hresult visit hmem constraint hconstraint).symm.trans hverdict) (by simp)
      | some failed => exact ⟨failed.1, failed.2, attach_eq_invalidArgument_iff.2 hresult⟩
    · exact (hattach visit.path .min).2 ⟨before, visit, after, hsplit, hbefore, rfl, hfails⟩

/-- A negative number two levels down: the outermost level passes, the level between has no numbers of items, and of
    the two that fail in the deepest one the one that is defined first is reported. -/
theorem negative_minItems_reported_with_path :
    let cells := SchemaElement.field "Grid" "cells" (.list (.list TypeRef.int))
    let deepest := [("maxItems", Json.integer (-2)), ("minItems", Json.integer (-1))]
    let between := [("minItems", Json.null), ("innerList", Json.object deepest)]
    let members := [("minItems", Json.integer 1), ("innerList", Json.object between)]
    let error := DirectiveError.invalidArgument "listConstraint" ["innerList", "innerList", "minItems"] .min
    ArgumentDefinition.IsLevel members 2 deepest ∧ (Json.integer (-1)).IsNegative ∧
      default.attach cells "listConstraint" (.object members) = .error error ∧
      error.message =
        "Invalid argument innerList.innerList.minItems for @listConstraint: Value is below the allowed minimum" := by
  intro cells deepest between members error
  have hlevel : ArgumentDefinition.IsLevel members 2 deepest := .deeper (.deeper .outer rfl) rfl
  have hnegative : ∀ n < 0, (Json.integer n).IsNegative := fun _ hn => hn
  have hwritten : HasVisits [] members ArgumentDefinition.ofList
      (⟨["minItems"], ⟨"minItems", .int, some ArgumentDefinition.nonNegative⟩, .integer 1⟩ ::
       ⟨["innerList"], ⟨"innerList", .inputObject ArgumentDefinition.listShapeName, none⟩, .object between⟩ ::
        ((⟨["innerList", "innerList"], ⟨"innerList", .inputObject ArgumentDefinition.listShapeName, none⟩,
            .object deepest⟩ ::
          ([⟨["innerList", "innerList", "minItems"], ⟨"minItems", .int, some ArgumentDefinition.nonNegative⟩,
              .integer (-1)⟩,
            ⟨["innerList", "innerList", "maxItems"], ⟨"maxItems", .int, some ArgumentDefinition.nonNegative⟩,
              .integer (-2)⟩] ++ [])) ++ [])) := by
    refine .plain rfl (by simp) (by simp) (.skip (.inl rfl) (.skip (.inl rfl) (.shaped rfl rfl ?_ .nil)))
    refine .skip (.inr rfl) (.skip (.inl rfl) (.skip (.inl rfl) (.shaped rfl rfl ?_ .nil)))
    exact .plain rfl (by simp) (by simp) (.plain rfl (by simp) (by simp) (.skip (.inl rfl) (.skip (.inl rfl) .nil)))
  have hone : ArgumentDefinition.nonNegative.verdict [] (.ofJson (.integer 1)) = none := by
    rw [ArgumentDefinition.verdict_nonNegative rfl]
    decide
  obtain ⟨visits, hvisits, -, -, hattach, -⟩ := arguments_checked_in_order default .list cells members
  obtain rfl := (hvisits _).1 hwritten
  refine ⟨hlevel, hnegative _ (by decide), ?_, by decide⟩
  refine (hattach _ _).2 ⟨[_, _, _], _, _, rfl, ?_, rfl, _, rfl, ?_⟩
  · simp [ArgumentVisit.Passes, hone]
  · exact ArgumentDefinition.verdict_nonNegative_of_isNegative (hnegative _ (by decide))

end Registry

end SchemaConstraints
