import SchemaConstraints.Proofs.Evaluate.FirstFailing
import SchemaConstraints.Proofs.Evaluate.Presence

set_option autoImplicit false

/-! # Presence rules by the states of their fields

An object shows of each field whether it is missing, null or set, and nothing else of the object matters to the
presence constraint. `PresenceRule.IsBroken` says what each rule means by counting states over the positions of
its list, and `checkObject_counts_states` that the verdict is that on the first rule that is set and broken.

On an input object a field that is missing and one that is null are the same to every rule, because there only
the fields that are set are counted. On an output object they are not: `exactly` takes a missing field for an
excuse, and null for none. -/

namespace SchemaConstraints

/-! ## States -/

/-- What an object shows of one of its fields. -/
inductive FieldState where
  /-- The field is not there. -/
  | missing
  /-- The field is there, and its value resolves to null. -/
  | null
  /-- The field is there, and its value resolves to anything else. -/
  | set
  deriving DecidableEq, Repr

namespace FieldState

/-- The state of a field. -/
def of (bindings : Bindings) (fields : Fields Value) (name : String) : FieldState :=
  match (Fields.find? name fields).map (Value.resolve bindings) with
  | none => .missing
  | some .null => .null
  | some _ => .set

variable {bindings : Bindings} {fields : Fields Value} {name : String}

theorem isSet_iff : PresenceOptions.isSet bindings fields name = true ↔ of bindings fields name = .set := by
  unfold PresenceOptions.isSet of
  cases Fields.find? name fields with
  | none => simp
  | some value =>
    cases hvalue : value.resolve bindings <;> simp [hvalue, Value.isNull]

theorem has_eq_false_iff : Fields.has name fields = false ↔ of bindings fields name = .missing := by
  unfold Fields.has of
  cases Fields.find? name fields with
  | none => simp
  | some value =>
    cases hvalue : value.resolve bindings <;> simp [hvalue]

end FieldState

namespace PresenceOptions

variable {bindings : Bindings} {fields : Fields Value}

/-- The states of the listed fields, position by position. -/
def states (bindings : Bindings) (fields : Fields Value) (names : List String) : List FieldState :=
  names.map (FieldState.of bindings fields)

theorem setCount_eq_count (names : List String) :
    setCount bindings fields names = (states bindings fields names).count .set := by
  rw [setCount, states, List.count_eq_countP, List.countP_map]
  refine List.countP_congr fun name _ => ?_
  rw [FieldState.isSet_iff, Function.comp_apply, beq_iff_eq]

theorem missingCount_eq_count (names : List String) :
    missingCount fields names = (states bindings fields names).count .missing := by
  rw [missingCount, states, List.count_eq_countP, List.countP_map]
  refine List.countP_congr fun name _ => ?_
  rw [Bool.not_eq_true', FieldState.has_eq_false_iff, Function.comp_apply, beq_iff_eq]

end PresenceOptions

/-! ## What breaks a rule -/

namespace PresenceRule

open PresenceOptions

/-- A rule with a count is broken by too few fields that are set, by too many, or by either. On an output object
    too few do not break `exactly` unless all listed fields are there. -/
def IsBroken (rule : PresenceRule) (count : Nat) (shape : ObjectShape) (states : List FieldState) : Prop :=
  match rule, shape with
  | .atLeast, _ => states.count .set < count
  | .atMost, _ => count < states.count .set
  | .exactly, .input => states.count .set ≠ count
  | .exactly, .output => count < states.count .set ∨ states.count .set < count ∧ states.count .missing = 0

variable {bindings bindings' : Bindings} {fields fields' : Fields Value} {quota : Quota}

theorem holds_iff_not_isBroken (rule : PresenceRule) (shape : ObjectShape) :
    rule.holds quota bindings shape fields = true ↔
      ¬rule.IsBroken quota.count shape (states bindings fields quota.names) := by
  have hset : setCount bindings fields quota.names = (states bindings fields quota.names).count .set :=
    setCount_eq_count quota.names
  have hmissing : missingCount fields quota.names = (states bindings fields quota.names).count .missing :=
    missingCount_eq_count quota.names
  cases rule with
  | atLeast =>
    rw [holds_atLeast_iff, hset]
    exact Nat.not_lt.symm
  | atMost =>
    rw [holds_atMost_iff, hset]
    exact Nat.not_lt.symm
  | exactly =>
    cases shape with
    | input =>
      rw [holds_exactly_input_iff, hset]
      exact not_not.symm
    | output =>
      rw [holds_exactly_output_iff, hset, hmissing]
      unfold IsBroken
      omega

/-- On input objects only the fields that are set matter. -/
theorem holds_input_congr (rule : PresenceRule)
    (h : ∀ name ∈ quota.names, FieldState.of bindings fields name = .set ↔ FieldState.of bindings' fields' name = .set) :
    rule.holds quota bindings .input fields = rule.holds quota bindings' .input fields' := by
  refine rule.holds_eq_of_counts rfl (List.countP_congr fun name hname => ?_) (by simp)
  rw [FieldState.isSet_iff, FieldState.isSet_iff]
  exact h name hname

end PresenceRule

/-! ## Verdicts -/

namespace PresenceOptions

/-- What the options demand of an object, given the states of any list of fields. The rules that count one are the
    rules with a count of their own, for the count one. -/
def ruleDemands (options : PresenceOptions) (shape : ObjectShape) (states : List String → List FieldState) :
    List Demand :=
  [⟨.atLeastOne, ∀ names, options.atLeastOne = some names → ¬PresenceRule.atLeast.IsBroken 1 shape (states names)⟩,
   ⟨.atMostOne, ∀ names, options.atMostOne = some names → ¬PresenceRule.atMost.IsBroken 1 shape (states names)⟩,
   ⟨.exactlyOne, ∀ names, options.exactlyOne = some names → ¬PresenceRule.exactly.IsBroken 1 shape (states names)⟩,
   ⟨.atLeast, ∀ quota, options.atLeast = some quota →
      ¬PresenceRule.atLeast.IsBroken quota.count shape (states quota.names)⟩,
   ⟨.atMost, ∀ quota, options.atMost = some quota →
      ¬PresenceRule.atMost.IsBroken quota.count shape (states quota.names)⟩,
   ⟨.exactly, ∀ quota, options.exactly = some quota →
      ¬PresenceRule.exactly.IsBroken quota.count shape (states quota.names)⟩]

variable {options : PresenceOptions}

/-- What one rule demands, if it is set. -/
def slotDemand (shape : ObjectShape) (states : List String → List FieldState)
    (slot : PresenceRule × Option Quota × Check) : Demand :=
  ⟨slot.2.2, ∀ quota, slot.2.1 = some quota → ¬slot.1.IsBroken quota.count shape (states quota.names)⟩

theorem ruleDemands_eq_map (options : PresenceOptions) (shape : ObjectShape)
    (states : List String → List FieldState) :
    options.ruleDemands shape states = options.slots.map (slotDemand shape states) := by
  simp [ruleDemands, slots, slotDemand, one]

theorem decides_slotVerdict (bindings : Bindings) (shape : ObjectShape) (fields : Fields Value)
    (slot : PresenceRule × Option Quota × Check) :
    (slotDemand shape (states bindings fields) slot).Decides (slotVerdict bindings shape fields slot) := by
  rcases slot with ⟨rule, _ | quota, check⟩
  · intro quota hquota
    cases hquota
  · refine decides_require ?_
    rw [PresenceRule.holds_iff_not_isBroken]
    simp

theorem checkObject_input_congr {bindings bindings' : Bindings} {fields fields' : Fields Value}
    (h : ∀ name ∈ options.referencedFields,
      FieldState.of bindings fields name = .set ↔ FieldState.of bindings' fields' name = .set) :
    options.checkObject bindings .input fields = options.checkObject bindings' .input fields' := by
  refine checkObject_eq_of_holds fun configured hconfigured => ?_
  refine configured.rule.holds_input_congr fun name hname => ?_
  exact h name (mem_referencedFields_of_mem hconfigured hname)

/-- **The verdict on an object is that on the first rule that is set and broken,** where a rule counts positions by
    the state of their field. On input objects it makes no difference whether a field that is not set is missing or
    null. -/
theorem checkObject_counts_states (options : PresenceOptions) :
    (∀ bindings shape fields, FirstUnmet (options.ruleDemands shape (states bindings fields))
      (options.checkObject bindings shape fields)) ∧
    ∀ bindings bindings' fields fields',
      (∀ name ∈ options.referencedFields,
        FieldState.of bindings fields name = .set ↔ FieldState.of bindings' fields' name = .set) →
      options.checkObject bindings .input fields = options.checkObject bindings' .input fields' := by
  constructor
  · intro bindings shape fields
    rw [ruleDemands_eq_map, checkObject_eq_findSome?]
    exact firstFailing_map fun slot _ => decides_slotVerdict bindings shape fields slot
  · intro bindings bindings' fields fields' h
    exact checkObject_input_congr h

/-- A field behind a variable that is null may as well be left out: two of the three fields have to be set, and one
    is, either way. -/
theorem checkObject_of_null_left_out :
    let options : PresenceOptions := { atMostOne := some ["a", "b"], exactly := some ⟨2, ["a", "b", "c"]⟩ }
    let bindings : Bindings := [("x", .null)]
    let fields : Fields Value := [("a", .int 1), ("b", .variable "x"), ("c", .null)]
    (∀ name ∈ options.referencedFields,
        FieldState.of bindings fields name = .set ↔ FieldState.of [] [("a", .bool false)] name = .set) ∧
      FirstUnmet (options.ruleDemands .input (states bindings fields)) (some .exactly) ∧
      options.checkObject bindings .input fields = some .exactly ∧
      options.checkObject [] .input [("a", .bool false)] = some .exactly := by
  intro options bindings fields
  have hstates : ∀ name ∈ options.referencedFields,
      FieldState.of bindings fields name = .set ↔ FieldState.of [] [("a", .bool false)] name = .set := by
    decide
  have hverdict : options.checkObject bindings .input fields = some .exactly := by
    decide
  obtain ⟨hcounts, hinput⟩ := checkObject_counts_states options
  refine ⟨hstates, ?_, hverdict, ?_⟩
  · rw [← hverdict]
    exact hcounts bindings .input fields
  · rw [← hinput bindings [] fields _ hstates]
    exact hverdict

-- an output object is not to blame for fields that were not requested, but it is for those that are null
example : checkObject { exactly := some ⟨2, ["a", "b"]⟩ } [] .output [("a", .int 1)] = none ∧
    checkObject { exactly := some ⟨2, ["a", "b"]⟩ } [] .output [("a", .int 1), ("b", .null)] = some .exactly := by
  decide

end PresenceOptions

end SchemaConstraints
