import SchemaConstraints.Constraint
import SchemaConstraints.Proofs.Evaluate.Identity
import SchemaConstraints.Proofs.Evaluate.Presence

set_option autoImplicit false

/-! # Bindings are a substitution

Evaluation looks a variable up wherever it meets one. The other way is to replace all variables first, by
`Value.substitute`, and to evaluate what comes out without any bindings. Both give the same verdict under
every constraint (`verdict_substitute`), for bindings of which three things are asked: no variable leads
back to itself, none is bound to a variable, which evaluation would not follow, and no variable stands
inside an enum value, where substitution does not look for one.

All evaluation goes through `Value.resolve`, and substitution does too (`substitute_resolve`): what is left
of a value after substitution has the form of what the value resolves to. -/

namespace SchemaConstraints

theorem Fields.find?_of_find?_erase {α : Type} {name other : String} {value : α} {fields : Fields α}
    (h : find? name (erase other fields) = some value) : find? name fields = some value := by
  by_cases heq : name = other
  · simp [heq, find?_erase_self] at h
  · rwa [find?_erase_of_ne heq] at h

/-! ## Substitution -/

namespace Value

mutual

/-- The value with every variable replaced by the substitute of what it is bound to, or by null if it is
    unbound. Enum values are left as they are. Inside the value of a variable the variable itself is unbound. -/
def substitute (bindings : Bindings) : Value → Value
  | .list items => .list (substituteItems bindings items)
  | .object shape fields => .object shape (substituteFields bindings fields)
  | .variable name =>
    match h : Fields.find? name bindings with
    | none => .null
    | some value =>
      have := Fields.length_erase_lt h
      substitute (Fields.erase name bindings) value
  | value => value
  termination_by value => (bindings.length, sizeOf value)

/-- Substitution in the items of a list. -/
def substituteItems (bindings : Bindings) : List Value → List Value
  | [] => []
  | item :: items => substitute bindings item :: substituteItems bindings items
  termination_by items => (bindings.length, sizeOf items)

/-- Substitution in the fields of an object. -/
def substituteFields (bindings : Bindings) : List (String × Value) → List (String × Value)
  | [] => []
  | (name, value) :: fields => (name, substitute bindings value) :: substituteFields bindings fields
  termination_by fields => (bindings.length, sizeOf fields)

end

variable {bindings : Bindings}

theorem substituteItems_eq_map (items : List Value) :
    substituteItems bindings items = items.map (substitute bindings) := by
  induction items with
  | nil => rw [substituteItems, List.map_nil]
  | cons item items ih => rw [substituteItems, ih, List.map_cons]

theorem substituteFields_eq_mapValues (fields : List (String × Value)) :
    substituteFields bindings fields = Fields.mapValues (substitute bindings) fields := by
  induction fields with
  | nil => rw [substituteFields, Fields.mapValues, List.map_nil]
  | cons field fields ih => rw [substituteFields, ih, Fields.mapValues, Fields.mapValues, List.map_cons]

theorem substitute_variable_eq (name : String) :
    substitute bindings (.variable name) =
      match Fields.find? name bindings with
      | none => .null
      | some value => substitute (Fields.erase name bindings) value := by
  rw [substitute]
  split <;> simp_all

mutual

/-- Bindings of names that a value does not reach do not matter to its substitute. -/
theorem substitute_congr (bindings bindings' : Bindings) (value : Value)
    (hagree : ∀ name, bindings.Reaches value.variableNames name →
      Fields.find? name bindings = Fields.find? name bindings') :
    value.substitute bindings = value.substitute bindings' := by
  cases value with
  | list items => rw [substitute, substitute, substituteItems_congr bindings bindings' items hagree]
  | object shape fields => rw [substitute, substitute, substituteFields_congr bindings bindings' fields hagree]
  | «variable» name =>
    have hname := hagree name ⟨name, by simp [variableNames], .refl⟩
    rw [substitute_variable_eq, substitute_variable_eq, ← hname]
    cases hfind : Fields.find? name bindings with
    | none => rfl
    | some value =>
      have := Fields.length_erase_lt hfind
      refine substitute_congr (Fields.erase name bindings) (Fields.erase name bindings') value ?_
      intro other hreach
      by_cases hne : other = name
      · rw [hne, Fields.find?_erase_self, Fields.find?_erase_self]
      · rw [Fields.find?_erase_of_ne hne, Fields.find?_erase_of_ne hne]
        have hlater := Bindings.Reaches.transGen value hfind hreach.of_erase
        exact hagree other ⟨name, by simp [variableNames], hlater.to_reflTransGen⟩
  | _ => rw [substitute, substitute] <;> simp
  termination_by (bindings.length, sizeOf value)

theorem substituteItems_congr (bindings bindings' : Bindings) (items : List Value)
    (hagree : ∀ name, bindings.Reaches (variableNamesOfItems items) name →
      Fields.find? name bindings = Fields.find? name bindings') :
    substituteItems bindings items = substituteItems bindings' items := by
  cases items with
  | nil => rw [substituteItems, substituteItems]
  | cons item items =>
    rw [substituteItems, substituteItems, substitute_congr bindings bindings' item,
      substituteItems_congr bindings bindings' items]
    · rintro name ⟨first, hfirst, hreach⟩
      exact hagree name ⟨first, List.mem_append_right _ hfirst, hreach⟩
    · rintro name ⟨first, hfirst, hreach⟩
      exact hagree name ⟨first, List.mem_append_left _ hfirst, hreach⟩
  termination_by (bindings.length, sizeOf items)

theorem substituteFields_congr (bindings bindings' : Bindings) (fields : List (String × Value))
    (hagree : ∀ name, bindings.Reaches (variableNamesOfFields fields) name →
      Fields.find? name bindings = Fields.find? name bindings') :
    substituteFields bindings fields = substituteFields bindings' fields := by
  match fields with
  | [] => rw [substituteFields, substituteFields]
  | (key, value) :: fields =>
    rw [substituteFields, substituteFields, substitute_congr bindings bindings' value,
      substituteFields_congr bindings bindings' fields]
    · rintro name ⟨first, hfirst, hreach⟩
      exact hagree name ⟨first, List.mem_append_right _ hfirst, hreach⟩
    · rintro name ⟨first, hfirst, hreach⟩
      exact hagree name ⟨first, List.mem_append_left _ hfirst, hreach⟩
  termination_by (bindings.length, sizeOf fields)

end

/-- On acyclic bindings, the substitute of a value is that of what the value resolves to. -/
theorem substitute_resolve (h : bindings.Acyclic) (value : Value) :
    value.substitute bindings = (value.resolve bindings).substitute bindings := by
  by_cases hvariable : ∃ name, value = .variable name
  · obtain ⟨name, rfl⟩ := hvariable
    rw [substitute_variable_eq, resolve]
    cases hfind : Fields.find? name bindings with
    | none =>
      rw [Option.getD_none, substitute]
      all_goals simp
    | some value =>
      rw [Option.getD_some]
      refine (substitute_congr bindings (Fields.erase name bindings) value fun other hreach => ?_).symm
      -- the variable is not reached from its own value
      rw [Fields.find?_erase_of_ne (hreach.of_bound h hfind).1]
  · rw [resolve_eq_self hvariable]

/-! ## Enum values without variables -/

mutual

/-- No variable stands inside an enum value. -/
def EnumsClosed : Value → Prop
  | .enum _ repr => repr.variableNames = []
  | .list items => EnumsClosedInItems items
  | .object _ fields => EnumsClosedInFields fields
  | _ => True

/-- No variable stands inside an enum value of a list. -/
def EnumsClosedInItems : List Value → Prop
  | [] => True
  | item :: items => EnumsClosed item ∧ EnumsClosedInItems items

/-- No variable stands inside an enum value of an object. -/
def EnumsClosedInFields : List (String × Value) → Prop
  | [] => True
  | (_, value) :: fields => EnumsClosed value ∧ EnumsClosedInFields fields

end

theorem enumsClosedInItems_iff {items : List Value} : EnumsClosedInItems items ↔ ∀ item ∈ items, item.EnumsClosed := by
  induction items with
  | nil => simp [EnumsClosedInItems]
  | cons item items ih => simp [EnumsClosedInItems, ih]

end Value

namespace Bindings

/-- No variable is bound to a variable, and none stands inside an enum value that is bound. -/
structure Direct (bindings : Bindings) : Prop where
  ne_variable : ∀ name other, Fields.find? name bindings ≠ some (.variable other)
  enums : ∀ name value, Fields.find? name bindings = some value → value.EnumsClosed

theorem Direct.erase {bindings : Bindings} (h : bindings.Direct) (name : String) :
    Direct (Fields.erase name bindings) where
  ne_variable _ _ hother := h.ne_variable _ _ (Fields.find?_of_find?_erase hother)
  enums _ _ hother := h.enums _ _ (Fields.find?_of_find?_erase hother)

/-- What is asked of bindings so that they are a substitution: moreover, no variable leads back to itself. -/
structure Substitutable (bindings : Bindings) : Prop extends bindings.Direct where
  acyclic : bindings.Acyclic

end Bindings

namespace Value

variable {bindings : Bindings}

theorem resolve_ne_variable (h : bindings.Direct) (value : Value) (name : String) :
    value.resolve bindings ≠ .variable name := by
  by_cases hvariable : ∃ own, value = .variable own
  · obtain ⟨own, rfl⟩ := hvariable
    rw [resolve]
    cases hfind : Fields.find? own bindings with
    | none => simp
    | some value =>
      rintro rfl
      exact h.ne_variable own name hfind
  · rw [resolve_eq_self hvariable]
    exact fun heq => hvariable ⟨name, heq⟩

theorem EnumsClosed.resolve {value : Value} (h : value.EnumsClosed) (hbindings : bindings.Direct) :
    (value.resolve bindings).EnumsClosed := by
  cases value with
  | «variable» name =>
    rw [Value.resolve]
    cases hfind : Fields.find? name bindings with
    | none => exact trivial
    | some value => exact hbindings.enums name value hfind
  | _ => exact h

mutual

/-- Where no variable stands inside an enum value, substitution leaves no variable. -/
theorem variableNames_substitute (bindings : Bindings) (value : Value) (hbindings : bindings.Direct)
    (h : value.EnumsClosed) : (value.substitute bindings).variableNames = [] := by
  cases value with
  | enum name repr =>
    rw [substitute]
    · exact h
    all_goals simp
  | list items => rw [substitute, variableNames, variableNames_substituteItems bindings items hbindings h]
  | object shape fields => rw [substitute, variableNames, variableNames_substituteFields bindings fields hbindings h]
  | «variable» name =>
    rw [substitute_variable_eq]
    cases hfind : Fields.find? name bindings with
    | none => rfl
    | some value =>
      have := Fields.length_erase_lt hfind
      exact variableNames_substitute (Fields.erase name bindings) value (hbindings.erase name)
        (hbindings.enums name value hfind)
  | _ =>
    rw [substitute]
    · rfl
    all_goals simp
  termination_by (bindings.length, sizeOf value)

theorem variableNames_substituteItems (bindings : Bindings) (items : List Value) (hbindings : bindings.Direct)
    (h : EnumsClosedInItems items) : variableNamesOfItems (substituteItems bindings items) = [] := by
  cases items with
  | nil => rw [substituteItems, variableNamesOfItems]
  | cons item items =>
    rw [substituteItems, variableNamesOfItems, variableNames_substitute bindings item hbindings h.1,
      variableNames_substituteItems bindings items hbindings h.2, List.append_nil]
  termination_by (bindings.length, sizeOf items)

theorem variableNames_substituteFields (bindings : Bindings) (fields : List (String × Value))
    (hbindings : bindings.Direct) (h : EnumsClosedInFields fields) :
    variableNamesOfFields (substituteFields bindings fields) = [] := by
  match fields with
  | [] => rw [substituteFields, variableNamesOfFields]
  | (name, value) :: fields =>
    rw [substituteFields, variableNamesOfFields, variableNames_substitute bindings value hbindings h.1,
      variableNames_substituteFields bindings fields hbindings h.2, List.append_nil]
  termination_by (bindings.length, sizeOf fields)

end

end Value

/-! ## Identities -/

namespace Identity

mutual

/-- Replacing the variables first does not change what a value is identified by. -/
theorem ofValue_substitute (bindings : Bindings) (value : Value) (hbindings : bindings.Direct)
    (h : value.EnumsClosed) : ofValue [] (value.substitute bindings) = ofValue bindings value := by
  cases value with
  | enum name repr =>
    rw [Value.substitute, ofValue, ofValue, ofValue_of_closed [] bindings repr h]
    all_goals simp
  | list items => rw [Value.substitute, ofValue, ofValue, ofItems_substitute bindings items hbindings h]
  | object shape fields =>
    rw [Value.substitute, ofValue, ofValue, ofFields_substitute bindings fields hbindings h]
  | «variable» name =>
    rw [Value.substitute_variable_eq]
    cases hfind : Fields.find? name bindings with
    | none => rw [ofValue_of_unbound hfind, ofValue]
    | some value =>
      have := Fields.length_erase_lt hfind
      rw [ofValue_of_bound hfind fun other heq => hbindings.ne_variable name other (heq ▸ hfind)]
      exact ofValue_substitute (Fields.erase name bindings) value (hbindings.erase name)
        (hbindings.enums name value hfind)
  | _ =>
    rw [Value.substitute, ofValue, ofValue]
    all_goals simp
  termination_by (bindings.length, sizeOf value)

theorem ofItems_substitute (bindings : Bindings) (items : List Value) (hbindings : bindings.Direct)
    (h : Value.EnumsClosedInItems items) :
    ofItems [] (Value.substituteItems bindings items) = ofItems bindings items := by
  match items with
  | [] => rw [Value.substituteItems, ofItems, ofItems]
  | item :: items =>
    rw [Value.substituteItems, ofItems, ofItems, ofValue_substitute bindings item hbindings h.1,
      ofItems_substitute bindings items hbindings h.2]
  termination_by (bindings.length, sizeOf items)

theorem ofFields_substitute (bindings : Bindings) (fields : List (String × Value)) (hbindings : bindings.Direct)
    (h : Value.EnumsClosedInFields fields) :
    ofFields [] (Value.substituteFields bindings fields) = ofFields bindings fields := by
  match fields with
  | [] => rw [Value.substituteFields, ofFields, ofFields]
  | (name, value) :: fields =>
    rw [Value.substituteFields, ofFields, ofFields, ofValue_substitute bindings value hbindings h.1,
      ofFields_substitute bindings fields hbindings h.2]
  termination_by (bindings.length, sizeOf fields)

end

end Identity

/-! ## The families -/

theorem Bindings.acyclic_nil : Bindings.Acyclic [] := acyclic_of_rank (fun _ => 0) (by simp)

section

variable {bindings : Bindings} (h : bindings.Substitutable)
include h

/-- Checks that agree on the leaves before and after substitution agree on whole values. -/
theorem Value.checkLeaves_substitute {check check' : Value → Verdict}
    (hleaf : ∀ leaf : Value, (∀ items, leaf ≠ .list items) → (∀ name, leaf ≠ .variable name) →
      check' (leaf.substitute bindings) = check leaf) (value : Value) :
    (value.substitute bindings).checkLeaves check' [] = value.checkLeaves check bindings := by
  refine induction_of_acyclic h.acyclic
    (P := fun value => (value.substitute bindings).checkLeaves check' [] = value.checkLeaves check bindings)
    (fun value ih => ?_) value
  rw [checkLeaves_of_acyclic h.acyclic, substitute_resolve h.acyclic]
  have hvariable := resolve_ne_variable h.toDirect value
  cases hresolve : value.resolve bindings with
  | list items =>
    rw [hresolve] at ih
    rw [substitute, substituteItems_eq_map, checkLeaves_of_acyclic Bindings.acyclic_nil]
    simp only [Value.resolve, List.findSome?_map]
    exact findSome?_congr ih
  | «variable» name => exact absurd hresolve (hvariable name)
  | object shape fields =>
    simp only []
    rw [← hleaf (.object shape fields) (by simp) (by simp), substitute, checkLeaves_of_acyclic Bindings.acyclic_nil]
    simp only [Value.resolve]
  | _ =>
    simp only []
    rw [← hleaf _ (by simp) (by simp), substitute, checkLeaves_of_acyclic Bindings.acyclic_nil]
    all_goals simp [Value.resolve]

omit h in
/-- Only what kind of value it is matters to a scalar constraint about an object, and that stays. -/
theorem ScalarOptions.checkLeaf_substitute (options : ScalarOptions) {leaf : Value}
    (hlist : ∀ items, leaf ≠ .list items) (hvariable : ∀ name, leaf ≠ .variable name) :
    options.checkLeaf (leaf.substitute bindings) = options.checkLeaf leaf := by
  cases leaf with
  | list items => exact absurd rfl (hlist items)
  | «variable» name => exact absurd rfl (hvariable name)
  | object shape fields =>
    have hmatches : ∀ (scalar : Scalar) fields, scalar.matchesValue (.object shape fields) = false := by
      intro scalar fields
      cases scalar <;> rfl
    simp only [Value.substitute, checkLeaf, Value.underlying, checkKind, checkOneOf, hmatches]
  | _ => simp [Value.substitute]

omit h in
theorem UploadOptions.checkLeaf_substitute (options : UploadOptions) {leaf : Value}
    (hlist : ∀ items, leaf ≠ .list items) (hvariable : ∀ name, leaf ≠ .variable name) :
    options.checkLeaf (leaf.substitute bindings) = options.checkLeaf leaf := by
  cases leaf with
  | list items => exact absurd rfl (hlist items)
  | «variable» name => exact absurd rfl (hvariable name)
  | object shape fields => simp only [Value.substitute, checkLeaf]
  | _ => simp [Value.substitute]

/-- A value is null after substitution if and only if it resolves to null. -/
theorem Value.isNull_substitute (value : Value) :
    ((value.substitute bindings).resolve []).isNull = (value.resolve bindings).isNull := by
  rw [substitute_resolve h.acyclic]
  cases hresolve : value.resolve bindings with
  | «variable» name => exact absurd hresolve (resolve_ne_variable h.toDirect value name)
  | _ => simp [substitute, resolve, isNull]

theorem PresenceOptions.checkLeaf_substitute (options : PresenceOptions) {leaf : Value}
    (hlist : ∀ items, leaf ≠ .list items) (hvariable : ∀ name, leaf ≠ .variable name) :
    options.checkLeaf [] (leaf.substitute bindings) = options.checkLeaf bindings leaf := by
  cases leaf with
  | list items => exact absurd rfl (hlist items)
  | «variable» name => exact absurd rfl (hvariable name)
  | object shape fields =>
    rw [Value.substitute, Value.substituteFields_eq_mapValues]
    refine checkObject_congr fun name _ => ⟨?_, ?_⟩
    · rw [isSet, isSet, Fields.find?_mapValues]
      cases Fields.find? name fields with
      | none => rfl
      | some value => simp [value.isNull_substitute h]
    · rw [Fields.has, Fields.has, Fields.find?_mapValues, Option.isSome_map]
  | _ => simp [Value.substitute, checkLeaf]

/-- The levels of a list constraint see the same lists with the same identities. -/
theorem ListOptions.checkLevels_substitute (levels : List ListLevel) {value : Value} (hvalue : value.EnumsClosed) :
    checkLevels [] levels (value.substitute bindings) = checkLevels bindings levels value := by
  induction levels generalizing value with
  | nil => rw [checkLevels, checkLevels]
  | cons level inner ih =>
    have hresolved := hvalue.resolve h.toDirect
    rw [checkLevels, checkLevels, Value.substitute_resolve h.acyclic]
    cases hresolve : value.resolve bindings with
    | list items =>
      rw [hresolve] at hresolved
      have hitems : level.check [] (items.map (Value.substitute bindings)) = level.check bindings items := by
        rw [← Value.substituteItems_eq_map, ListLevel.check, ListLevel.check,
          Identity.ofItems_substitute bindings items h.toDirect hresolved, Value.substituteItems_eq_map,
          List.length_map]
      simp only [Value.substitute, Value.substituteItems_eq_map, Value.resolve, List.findSome?_map, hitems]
      congr 1
      exact findSome?_congr fun item hitem => ih (Value.enumsClosedInItems_iff.1 hresolved item hitem)
    | «variable» name => exact absurd hresolve (Value.resolve_ne_variable h.toDirect value name)
    | _ => simp [Value.substitute, Value.resolve]

/-- **Bindings are a substitution.** A value under bindings has the verdict that its substitute has without any,
    whatever the constraint, and no variable is left in the substitute. -/
theorem Constraint.verdict_substitute (constraint : Constraint) {value : Value} (hvalue : value.EnumsClosed) :
    (value.substitute bindings).variableNames = [] ∧
      constraint.verdict [] (value.substitute bindings) = constraint.verdict bindings value := by
  refine ⟨Value.variableNames_substitute bindings value h.toDirect hvalue, ?_⟩
  cases constraint with
  | scalar options =>
    exact Value.checkLeaves_substitute h (fun _ hlist hvariable => options.checkLeaf_substitute hlist hvariable) value
  | list options => exact ListOptions.checkLevels_substitute h options.levels hvalue
  | object options =>
    exact Value.checkLeaves_substitute h (fun _ hlist hvariable => options.checkLeaf_substitute h hlist hvariable) value
  | upload options =>
    exact Value.checkLeaves_substitute h (fun _ hlist hvariable => options.checkLeaf_substitute hlist hvariable) value

end

/-- A list that a variable stands for is a duplicate of the list that is written out. -/
theorem Constraint.verdict_substitute_of_tags :
    Bindings.Substitutable [("tags", .list [.variable "first", .string "b"]), ("first", .enum "A" (.string "a"))] ∧
      (Value.list [.variable "tags", .list [.string "a", .string "b"], .variable "more"]).EnumsClosed ∧
      (Value.list [.variable "tags", .list [.string "a", .string "b"], .variable "more"]).substitute
          [("tags", .list [.variable "first", .string "b"]), ("first", .enum "A" (.string "a"))] =
        .list [.list [.enum "A" (.string "a"), .string "b"], .list [.string "a", .string "b"], .null] ∧
      (Constraint.list ⟨⟨none, none, true⟩, []⟩).verdict
        [("tags", .list [.variable "first", .string "b"]), ("first", .enum "A" (.string "a"))]
        (.list [.variable "tags", .list [.string "a", .string "b"], .variable "more"]) = some .unique := by
  have hbindings : Bindings.Substitutable
      [("tags", .list [.variable "first", .string "b"]), ("first", .enum "A" (.string "a"))] := by
    refine ⟨⟨?_, ?_⟩, Bindings.acyclic_of_rank (fun name => if name = "tags" then 1 else 0) ?_⟩
    · intro name other
      simp only [Fields.find?]
      split_ifs <;> simp
    · intro name value hfind
      simp only [Fields.find?] at hfind
      split_ifs at hfind
      · obtain rfl := Option.some.inj hfind
        simp [Value.EnumsClosed, Value.EnumsClosedInItems]
      · obtain rfl := Option.some.inj hfind
        simp [Value.EnumsClosed, Value.variableNames]
    · simp [Value.variableNames, Value.variableNamesOfItems]
  have hvalue : (Value.list [.variable "tags", .list [.string "a", .string "b"], .variable "more"]).EnumsClosed := by
    simp [Value.EnumsClosed, Value.EnumsClosedInItems]
  have hsubstitute : (Value.list [.variable "tags", .list [.string "a", .string "b"], .variable "more"]).substitute
      [("tags", .list [.variable "first", .string "b"]), ("first", .enum "A" (.string "a"))] =
      .list [.list [.enum "A" (.string "a"), .string "b"], .list [.string "a", .string "b"], .null] := by
    simp [Value.substitute, Value.substituteItems, Value.substitute_variable_eq, Fields.find?, Fields.erase]
  refine ⟨hbindings, hvalue, hsubstitute, ?_⟩
  rw [← (Constraint.verdict_substitute hbindings _ hvalue).2, hsubstitute]
  simp [Constraint.verdict, ListOptions.verdict, ListOptions.levels, ListOptions.checkLevels, Value.resolve,
    ListLevel.check, Identity.ofItems, Identity.ofValue, Identity.allDistinct, Check.require]

end SchemaConstraints
