import SchemaConstraints.Directive.Fit

set_option autoImplicit false

/-! # Types that are built have no doubled wrappers

A type that is non-null twice says no more than one that is non-null once, but it looks different: `isList`
and `nullable` take off a single non-null wrapper, while `listDepth` and `leaf` look through all of them. So
the two agree on types without doubled wrappers, and those are the types that can be built
(`built_iff_normalized`). The list directive asks both questions of a type, first whether it is a list and
then whether it has enough lists, and on types that are built options of one level never pass one of the two
tests alone (`normalized_of_built`). -/

namespace SchemaConstraints

namespace TypeRef

/-- What `ofName`, `list` and `required` build, applied in any order and any number of times. -/
inductive Built : TypeRef → Prop
  | ofName (name : String) (kind : TypeKind) : Built (ofName name kind)
  | list {inner : TypeRef} (h : Built inner) : Built (.list inner)
  | required {inner : TypeRef} (h : Built inner) : Built inner.required

/-- The type and all types inside its wrappers, from the outside to the inside. -/
def nodes : TypeRef → List TypeRef
  | .named type => [.named type]
  | .list inner => .list inner :: inner.nodes
  | .nonNull inner => .nonNull inner :: inner.nodes

/-- Nowhere in the type does a non-null wrapper stand directly inside another. -/
def Normalized (type : TypeRef) : Prop := ∀ inner, .nonNull (.nonNull inner) ∉ type.nodes

variable {type inner : TypeRef}

/-! ## Normalized types -/

theorem normalized_named (type : NamedType) : (TypeRef.named type).Normalized := by
  intro inner
  simp [nodes]

theorem normalized_list_iff : (TypeRef.list inner).Normalized ↔ inner.Normalized := by
  simp [Normalized, nodes]

/-- A non-null wrapper asks for one thing more: that there is none directly inside. -/
theorem normalized_nonNull_iff :
    (TypeRef.nonNull inner).Normalized ↔ (∀ deeper, inner ≠ .nonNull deeper) ∧ inner.Normalized := by
  constructor
  · intro h
    refine ⟨?_, fun deeper hmem => h deeper (List.mem_cons_of_mem _ hmem)⟩
    rintro deeper rfl
    exact h deeper List.mem_cons_self
  · rintro ⟨hne, hinner⟩ deeper hmem
    rcases List.mem_cons.1 hmem with heq | hmem
    · exact hne deeper (nonNull.inj heq).symm
    · exact hinner deeper hmem

theorem required_eq_nonNull (h : ∀ deeper, type ≠ .nonNull deeper) : type.required = .nonNull type := by
  cases type with
  | nonNull inner => exact absurd rfl (h inner)
  | named | list => rfl

/-- `required` never doubles a wrapper. -/
theorem Normalized.required (h : type.Normalized) : type.required.Normalized := by
  by_cases hnonNull : ∃ inner, type = .nonNull inner
  · obtain ⟨inner, rfl⟩ := hnonNull
    exact h
  · have hne : ∀ deeper, type ≠ .nonNull deeper := fun deeper heq => hnonNull ⟨deeper, heq⟩
    rw [required_eq_nonNull hne]
    exact normalized_nonNull_iff.2 ⟨hne, h⟩

/-- **The types that can be built are those without doubled wrappers.** -/
theorem built_iff_normalized : type.Built ↔ type.Normalized := by
  constructor
  · intro h
    induction h with
    | ofName name kind => exact normalized_named ⟨name, kind⟩
    | list _ ih => exact normalized_list_iff.2 ih
    | required _ ih => exact ih.required
  · intro h
    induction type with
    | named type => exact .ofName type.name type.kind
    | list inner ih => exact .list (ih (normalized_list_iff.1 h))
    | nonNull inner ih =>
      obtain ⟨hne, hinner⟩ := normalized_nonNull_iff.1 h
      rw [← required_eq_nonNull hne]
      exact .required (ih hinner)

/-! ## Looking through one wrapper and through all -/

/-- `nullable` takes off nothing but non-null, so no list and not the leaf. -/
theorem listDepth_nullable (type : TypeRef) : type.nullable.listDepth = type.listDepth := by
  cases type <;> rfl

theorem leaf_nullable (type : TypeRef) : type.nullable.leaf = type.leaf := by
  cases type <;> rfl

theorem Normalized.nullable_ne_nonNull (h : type.Normalized) (inner : TypeRef) : type.nullable ≠ .nonNull inner := by
  cases type with
  | nonNull deeper => exact (normalized_nonNull_iff.1 h).1 inner
  | named | list => simp [nullable]

/-- What is not non-null is a list exactly if it has a list wrapper at all. -/
theorem isList_iff_of_ne_nonNull (h : ∀ inner, type.nullable ≠ .nonNull inner) :
    type.isList = true ↔ 0 < type.listDepth := by
  rw [isList, ← listDepth_nullable]
  cases hnullable : type.nullable with
  | named => simp [listDepth]
  | list inner => simp [listDepth]
  | nonNull inner => exact absurd hnullable (h inner)

end TypeRef

/-! ## The list directive -/

namespace ListOptions

/-- What `checkFit` looks at first: it does not report that the type has too few lists. -/
def PassesDepth (options : ListOptions) (element : SchemaElement) : Prop :=
  ∀ coordinate depth typeDepth, options.checkFit element ≠ .error (.listTooDeep coordinate depth typeDepth)

theorem passesDepth_iff {options : ListOptions} {element : SchemaElement} :
    options.PassesDepth element ↔ options.depth ≤ element.type.listDepth := by
  rw [PassesDepth, checkFit]
  split
  · next hdeep => simp [Nat.not_le.2 hdeep]
  · next hfits =>
    refine ⟨fun _ => Nat.not_lt.1 hfits, fun _ coordinate depth typeDepth => ?_⟩
    split <;> simp

theorem depth_of_one_level (outer : ListLevel) : depth ⟨outer, []⟩ = 1 := rfl

end ListOptions

namespace TypeRef

/-- **Building keeps types normalized.** In a type that is built no non-null wrapper stands directly inside
    another. So it is a list exactly if it has a list wrapper, taking off non-null leaves a type of the same
    lists and the same leaf that is not non-null, and on elements other than types the list directive applies
    exactly where options of one level are not too deep. -/
theorem normalized_of_built {type : TypeRef} (h : type.Built) :
    type.Normalized ∧
      (type.isList = true ↔ 0 < type.listDepth) ∧
      type.nullable.listDepth = type.listDepth ∧
      type.nullable.leaf = type.leaf ∧
      (∀ inner, type.nullable ≠ .nonNull inner) ∧
      ∀ element : SchemaElement, element.type = type → element.kind.isType = false → ∀ outer : ListLevel,
        (ListOptions.appliesTo element = true ↔ ListOptions.PassesDepth ⟨outer, []⟩ element) := by
  have hnormalized : type.Normalized := built_iff_normalized.1 h
  have hlist : type.isList = true ↔ 0 < type.listDepth := isList_iff_of_ne_nonNull hnormalized.nullable_ne_nonNull
  refine ⟨hnormalized, hlist, listDepth_nullable type, leaf_nullable type, hnormalized.nullable_ne_nonNull, ?_⟩
  rintro element rfl hkind outer
  rw [ListOptions.passesDepth_iff, ListOptions.depth_of_one_level, ListOptions.appliesTo, hkind, Bool.not_false,
    Bool.true_and]
  exact hlist

/-- A list of lists, made non-null at every level and twice outside: one more list than the options ask for. -/
theorem normalized_of_built_matrix :
    let type : TypeRef := (TypeRef.list (TypeRef.list TypeRef.int.required).required).required.required
    let element : SchemaElement := .argument "Query" "solve" "matrix" type
    let options : ListOptions := ⟨{ unique := true }, []⟩
    type.Built ∧ type.Normalized ∧ type = .nonNull (.list (.nonNull (.list (.nonNull TypeRef.int)))) ∧
      ListOptions.appliesTo element = true ∧ options.PassesDepth element := by
  intro type element options
  have hbuilt : type.Built := .required (.required (.list (.required (.list (.required (.ofName "Int" .int))))))
  have h := normalized_of_built hbuilt
  have hfits := h.2.2.2.2.2 element rfl rfl { unique := true }
  exact ⟨hbuilt, h.1, rfl, rfl, hfits.1 rfl⟩

end TypeRef

end SchemaConstraints
