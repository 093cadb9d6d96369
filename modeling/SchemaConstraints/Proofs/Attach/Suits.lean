import Mathlib.Data.List.ReduceOption
import SchemaConstraints.Proofs.Attach.Steps

set_option autoImplicit false

/-! # Attached constraints suit their element

`Constraint.Suits` says, axis by axis and without reference to any check, what it means for a constraint to
make sense on an element: bounds are for numbers, lengths and patterns for texts, allowed values are values
of the leaf, there are no more levels than lists, only leaves are told apart, and presence rules list
members. Whatever is attached suits its element (`suits_of_attach`): the checks leave nothing out, and
coercion turns every allowed value that passes them into a value of the leaf. -/

namespace SchemaConstraints

variable {stringScalars : List String} {element : SchemaElement}

/-! ## Leaves of scalar constraints -/

namespace NamedType

/-- Integers and floating-point numbers. -/
def IsNumeric (type : NamedType) : Prop := type.kind = .int ∨ type.kind = .float

/-- Identifiers, strings, and the scalars of the schema that are strings. -/
def IsTextual (stringScalars : List String) (type : NamedType) : Prop :=
  type.kind = .id ∨ type.kind = .string ∨ type.kind = .customScalar ∧ type.name ∈ stringScalars

/-- A scalar is of the kind of the type's own values. Identifiers are texts. -/
def Takes (stringScalars : List String) (type : NamedType) : Scalar → Prop
  | .bool _ => False
  | .int _ => type.kind = .int
  | .float _ => type.kind = .float
  | .string _ => type.IsTextual stringScalars

theorem not_isTextual_of_isNumeric {type : NamedType} (h : type.IsNumeric) : ¬type.IsTextual stringScalars := by
  rcases h with h | h <;> simp [IsTextual, h]

end NamedType

namespace ScalarLeaf

variable {type : TypeRef} {leaf : ScalarLeaf}

/-- The named types that a kind of leaf stands for. -/
def StandsFor (stringScalars : List String) (type : NamedType) : ScalarLeaf → Prop
  | .int => type.kind = .int
  | .float => type.kind = .float
  | .id => type.kind = .id
  | .text => type.kind = .string ∨ type.kind = .customScalar ∧ type.name ∈ stringScalars

theorem standsFor_of_ofType? (h : ofType? stringScalars type = some leaf) :
    leaf.StandsFor stringScalars type.leaf := by
  unfold ofType? at h
  split at h
  case h_5 hkind =>
    -- a scalar of the schema has to be declared as a string
    rw [Option.ite_none_right_eq_some] at h
    obtain ⟨hname, h⟩ := h
    obtain rfl := Option.some.inj h
    exact .inr ⟨hkind, by simpa using hname⟩
  case h_4 hkind =>
    obtain rfl := Option.some.inj h
    exact .inl hkind
  case h_6 => simp at h
  all_goals
    obtain rfl := Option.some.inj h
    assumption

theorem isNumeric_of_standsFor (h : leaf.StandsFor stringScalars type.leaf) (hleaf : leaf.isNumeric = true) :
    type.leaf.IsNumeric := by
  cases leaf with
  | int => exact .inl h
  | float => exact .inr h
  | id | text => simp [isNumeric] at hleaf

theorem isTextual_of_standsFor (h : leaf.StandsFor stringScalars type.leaf) (hleaf : leaf.isNumeric = false) :
    type.leaf.IsTextual stringScalars := by
  cases leaf with
  | int | float => simp [isNumeric] at hleaf
  | id => exact .inl h
  | text => exact .inr h

/-- What an allowed value is coerced to is a value of the leaf. -/
theorem takes_of_coerce? {entry coerced : Scalar} (h : leaf.StandsFor stringScalars type.leaf)
    (hcoerce : leaf.coerce? entry = some coerced) : type.leaf.Takes stringScalars coerced := by
  unfold coerce? at hcoerce
  split at hcoerce
  case h_7 => simp at hcoerce
  case h_4 | h_5 =>
    obtain rfl := Option.some.inj hcoerce
    exact .inl h
  case h_6 =>
    obtain rfl := Option.some.inj hcoerce
    exact .inr h
  all_goals
    obtain rfl := Option.some.inj hcoerce
    exact h

end ScalarLeaf

/-! ## What suits an element -/

/-- Bounds only limit numbers, lengths and patterns only texts, and every allowed value is a value of the
    leaf. -/
structure ScalarOptions.Suits (stringScalars : List String) (element : SchemaElement) (options : ScalarOptions) :
    Prop where
  kind : element.kind ≠ .objectType ∧ element.kind ≠ .inputType
  leaf : element.type.leaf.IsNumeric ∨ element.type.leaf.IsTextual stringScalars
  bounds : options.min.isSome ∨ options.max.isSome → element.type.leaf.IsNumeric
  texts : options.minLength.isSome ∨ options.maxLength.isSome ∨ options.regex.isSome →
    element.type.leaf.IsTextual stringScalars
  oneOf : ∀ allowed, options.oneOf = some allowed → ∀ entry ∈ allowed, element.type.leaf.Takes stringScalars entry

/-- The element is a list, deep enough for all levels, and where duplicates are told apart its innermost
    items are leaves. -/
structure ListOptions.Suits (element : SchemaElement) (options : ListOptions) : Prop where
  kind : element.kind ≠ .objectType ∧ element.kind ≠ .inputType
  list : element.type.isList = true
  depth : options.depth ≤ element.type.listDepth
  unique : ∀ level ∈ options.levels, level.unique = true → element.type.leaf.kind.isLeaf = true

/-- The lists of names of all six rules, as far as they are set. -/
def PresenceOptions.nameLists (options : PresenceOptions) : List (List String) :=
  List.reduceOption
    [options.atLeastOne, options.atMostOne, options.exactlyOne, options.atLeast.map (·.names),
      options.atMost.map (·.names), options.exactly.map (·.names)]

/-- The element is a type or a field with arguments, and all names that the rules list are members. -/
structure PresenceOptions.Suits (element : SchemaElement) (options : PresenceOptions) : Prop where
  kind : element.kind = .objectType ∨ element.kind = .inputType ∨ element.kind = .field ∧ element.members ≠ []
  names : ∀ names ∈ options.nameLists, names ⊆ element.members

/-- The constraint makes sense on the element. -/
def Constraint.Suits (stringScalars : List String) (element : SchemaElement) : Constraint → Prop
  | .scalar options => options.Suits stringScalars element
  | .list options => options.Suits element
  | .object options => options.Suits element
  | .upload _ => element.type.leaf.kind = .upload

/-! ## What the checks establish -/

theorem ElementKind.isType_eq_false_iff {kind : ElementKind} :
    kind.isType = false ↔ kind ≠ .objectType ∧ kind ≠ .inputType := by
  cases kind <;> simp [isType]

namespace ScalarOptions

variable {options : ScalarOptions} {leaf : ScalarLeaf}

theorem misplaced?_eq_none_iff :
    options.misplaced? leaf = none ↔
      (leaf.isNumeric = true → options.minLength = none ∧ options.maxLength = none ∧ options.regex = none) ∧
      (leaf.isNumeric = false → options.min = none ∧ options.max = none) := by
  unfold misplaced?
  cases leaf.isNumeric with
  | true => cases options.minLength <;> cases options.maxLength <;> cases options.regex <;> simp
  | false => cases options.min <;> cases options.max <;> simp

theorem foreignEntry?_eq_none_iff :
    options.foreignEntry? leaf = none ↔
      ∀ allowed, options.oneOf = some allowed → ∀ entry ∈ allowed, (leaf.coerce? entry).isSome = true := by
  unfold foreignEntry?
  cases options.oneOf with
  | none => simp
  | some allowed => simp [List.findIdx?_eq_none_iff]

theorem checkFit_eq_ok_iff {directive : String} (hleaf : ScalarLeaf.ofType? stringScalars element.type = some leaf) :
    options.checkFit stringScalars directive element = .ok () ↔
      options.misplaced? leaf = none ∧ options.foreignEntry? leaf = none := by
  simp only [checkFit, hleaf]
  cases options.misplaced? leaf <;> cases options.foreignEntry? leaf <;> simp

theorem suits_coerce {directive : String} (happlies : appliesTo stringScalars element = true)
    (hfit : options.checkFit stringScalars directive element = .ok ()) :
    (options.coerce stringScalars element).Suits stringScalars element := by
  simp only [appliesTo, Bool.and_eq_true, Bool.not_eq_true', Option.isSome_iff_exists] at happlies
  obtain ⟨hkind, leaf, hleaf⟩ := happlies
  have hstands := ScalarLeaf.standsFor_of_ofType? hleaf
  obtain ⟨hplaced, hentries⟩ := (checkFit_eq_ok_iff hleaf).1 hfit
  rw [misplaced?_eq_none_iff] at hplaced
  rw [foreignEntry?_eq_none_iff] at hentries
  have honeOf : ∀ allowed, options.oneOf.map (·.map leaf.coerce) = some allowed →
      ∀ entry ∈ allowed, element.type.leaf.Takes stringScalars entry := by
    intro allowed hallowed entry hentry
    obtain ⟨written, hwritten, rfl⟩ := Option.map_eq_some_iff.1 hallowed
    obtain ⟨source, hsource, rfl⟩ := List.mem_map.1 hentry
    obtain ⟨coerced, hcoerced⟩ := Option.isSome_iff_exists.1 (hentries written hwritten source hsource)
    rw [ScalarLeaf.coerce, hcoerced]
    exact ScalarLeaf.takes_of_coerce? hstands hcoerced
  rw [coerce, hleaf]
  cases hnumeric : leaf.isNumeric with
  | true =>
    have htype := ScalarLeaf.isNumeric_of_standsFor hstands hnumeric
    exact
      { kind := ElementKind.isType_eq_false_iff.1 hkind
        leaf := .inl htype
        bounds := fun _ => htype
        texts := by simp [hplaced.1 hnumeric]
        oneOf := honeOf }
  | false =>
    have htype := ScalarLeaf.isTextual_of_standsFor hstands hnumeric
    exact
      { kind := ElementKind.isType_eq_false_iff.1 hkind
        leaf := .inr htype
        bounds := by simp [hplaced.2 hnumeric]
        texts := fun _ => htype
        oneOf := honeOf }

end ScalarOptions

namespace ListOptions

variable {options : ListOptions}

theorem suits (happlies : appliesTo element = true) (hfit : options.checkFit element = .ok ()) :
    options.Suits element := by
  simp only [appliesTo, Bool.and_eq_true, Bool.not_eq_true'] at happlies
  rw [checkFit] at hfit
  split at hfit
  · simp at hfit
  · next hdepth =>
    split at hfit
    · simp at hfit
    · next hunique =>
      refine ⟨ElementKind.isType_eq_false_iff.1 happlies.1, happlies.2, Nat.not_lt.1 hdepth,
        fun level hlevel hlevelUnique => ?_⟩
      have hrequires : options.requiresUnique = true := List.any_eq_true.2 ⟨level, hlevel, hlevelUnique⟩
      simpa [hrequires] using hunique

end ListOptions

namespace PresenceOptions

variable {options : PresenceOptions}

theorem names_of_rules : options.rules.map (·.quota.names) = options.nameLists := by
  have hslots : options.slots.map (fun slot => slot.2.1.map (·.names)) =
      [options.atLeastOne, options.atMostOne, options.exactlyOne, options.atLeast.map (·.names),
        options.atMost.map (·.names), options.exactly.map (·.names)] := by
    simp [slots, one, Function.comp_def]
  rw [nameLists, ← hslots, List.reduceOption, List.filterMap_map, rules, List.map_filterMap]
  simp [Function.comp_def]

/-- The names that are looked up among the members are those of all six rules. -/
theorem mem_referencedFields_iff {name : String} :
    name ∈ options.referencedFields ↔ ∃ names ∈ options.nameLists, name ∈ names := by
  simp [referencedFields, ← names_of_rules]

theorem suits {directive : String} (happlies : appliesTo element = true)
    (hfit : options.checkFit directive element = .ok ()) : options.Suits element := by
  refine ⟨?_, fun names hnames name hname => ?_⟩
  · revert happlies
    cases hkind : element.kind <;> simp [appliesTo, hkind, ElementKind.isType]
  · rw [checkFit] at hfit
    split at hfit
    · simp at hfit
    · next hfind =>
      have := List.find?_eq_none.1 hfind name (mem_referencedFields_iff.2 ⟨names, hnames, hname⟩)
      simpa [SchemaElement.hasMember] using this

end PresenceOptions

namespace Constraint

variable {constraint : Constraint}

theorem suits_coerce {directive : String} (happlies : constraint.appliesTo stringScalars element = true)
    (hfit : constraint.checkFit stringScalars directive element = .ok ()) :
    (constraint.coerce stringScalars element).Suits stringScalars element := by
  cases constraint with
  | scalar options => exact ScalarOptions.suits_coerce happlies hfit
  | list options => exact ListOptions.suits happlies hfit
  | object options => exact PresenceOptions.suits happlies hfit
  | upload options =>
    change element.type.leaf.kind = .upload
    simpa [appliesTo, UploadOptions.appliesTo] using happlies

end Constraint

/-! ## Attached constraints -/

namespace Registry

variable {registry : Registry} {directive : String} {arguments : Json} {constraint : Constraint}

theorem suits_of_attach (h : registry.attach element directive arguments = .ok constraint) :
    constraint.Suits registry.stringScalars element := by
  obtain ⟨_, _, -, -, happlies, hfit, rfl⟩ := attach_eq_ok_iff.1 h
  exact Constraint.suits_coerce happlies hfit

/-- **Attached constraints are of the family that their directive names, and they suit the element.** -/
theorem attached_suits_element (h : registry.attach element directive arguments = .ok constraint) :
    (∀ family, registry.names.get family = directive ↔ family = constraint.family) ∧
      constraint.Suits registry.stringScalars element := by
  refine ⟨fun family => ?_, suits_of_attach h⟩
  rw [← familyOf?_eq_some_iff, familyOf?_of_attach h, Option.some.injEq]
  exact eq_comm

/-- Two levels of unique items are attached wherever they fit. -/
theorem attach_unique_levels (happlies : ListOptions.appliesTo element = true)
    (hfit : ListOptions.checkFit ⟨{ unique := true }, [{ unique := true }]⟩ element = .ok ()) :
    default.attach element "listConstraint"
        (.object [("innerList", .object [("unique", .bool true)]), ("unique", .bool true)]) =
      .ok (.list ⟨{ unique := true }, [{ unique := true }]⟩) := by
  have hinner : ArgumentDefinition.firstInvalid ["innerList"] [("unique", .bool true)] InputShape.listOptions.fields =
      none := by
    rw [ArgumentDefinition.firstInvalid_eq_none_iff]
    simp +decide [InputShape.listOptions, ArgumentDefinition.ofList, Fields.find?]
  have hvalid : ArgumentDefinition.firstInvalid []
      [("innerList", .object [("unique", .bool true)]), ("unique", .bool true)] Family.list.arguments = none := by
    have hshape : InputShape.ofName? (TypeRef.inputObject ArgumentDefinition.listShapeName).leaf.name =
        some .listOptions := rfl
    rw [ArgumentDefinition.firstInvalid_eq_none_iff]
    simp +decide [Family.arguments, ArgumentDefinition.ofList, Fields.find?, hshape, hinner]
  have hdecode : Constraint.decode .list
      (.object [("innerList", .object [("unique", .bool true)]), ("unique", .bool true)]) =
      .ok (.list ⟨{ unique := true }, [{ unique := true }]⟩) := by
    simp +decide only [Constraint.decode, ListOptions.decode, ListOptions.decodeMembers, if_true, if_false]
    rfl
  exact attach_eq_ok_iff.2
    ⟨.list, .list _, rfl, readArguments_eq_ok_iff.2 ⟨_, rfl, hvalid, hdecode⟩, happlies, hfit, rfl⟩

/-- Integers that are allowed in a list of floating-point numbers are attached as floating-point numbers, and two
    levels of unique items are no more than the lists of a matrix, whose leaves can be told apart. -/
theorem attached_constraints_suit :
    let prices := SchemaElement.field "Product" "prices" (.list TypeRef.float.required)
    let allowed := Constraint.scalar { min := some (.int 0), oneOf := some [.float (.ofInt 1), .float (.ofInt 2)] }
    let matrix := SchemaElement.argument "Query" "solve" "matrix" (.nonNull (.list (.nonNull (.list TypeRef.int))))
    let rows : ListOptions := ⟨{ unique := true }, [{ unique := true }]⟩
    (default.attach prices "constraint" (.object [("min", .integer 0), ("oneOf", .array [.integer 1, .integer 2])]) =
        .ok allowed ∧
      (∀ family, default.names.get family = "constraint" ↔ family = allowed.family) ∧
      allowed.Suits default.stringScalars prices) ∧
    default.attach matrix "listConstraint"
        (.object [("innerList", .object [("unique", .bool true)]), ("unique", .bool true)]) = .ok (.list rows) ∧
      (∀ family, default.names.get family = "listConstraint" ↔ family = .list) ∧
      rows.depth ≤ matrix.type.listDepth ∧
      ∀ level ∈ rows.levels, level.unique = true → matrix.type.leaf.kind.isLeaf = true := by
  intro prices allowed matrix rows
  have hprices : default.attach prices "constraint"
      (.object [("min", .integer 0), ("oneOf", .array [.integer 1, .integer 2])]) = .ok allowed := by
    refine attach_eq_ok_iff.2 ⟨.scalar, .scalar { min := some (.int 0), oneOf := some [.int 1, .int 2] }, rfl,
      readArguments_eq_ok_iff.2 ⟨_, rfl, ?_, rfl⟩, rfl, rfl, rfl⟩
    simp +decide [Family.arguments, ArgumentDefinition.ofScalar, ArgumentDefinition.firstInvalid]
  have hmatrix : default.attach matrix "listConstraint"
      (.object [("innerList", .object [("unique", .bool true)]), ("unique", .bool true)]) = .ok (.list rows) :=
    attach_unique_levels rfl rfl
  obtain ⟨hfamily, hsuits⟩ := attached_suits_element hmatrix
  exact ⟨⟨hprices, attached_suits_element hprices⟩, hmatrix, hfamily, hsuits.depth, hsuits.unique⟩

end Registry

end SchemaConstraints
