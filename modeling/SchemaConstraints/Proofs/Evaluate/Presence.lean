import Mathlib.Data.List.Perm.Subperm
import SchemaConstraints.Evaluate.Presence

set_option autoImplicit false

/-! # Presence rules as comparisons of counts

Every presence rule compares its count with the number of listed positions that hold a set field; the
scan that stops early (`PresenceOptions.reaches`) is no exception. An object is checked slot by slot, and
it passes if and only if it keeps every rule that is set. -/

namespace SchemaConstraints

variable {bindings : Bindings} {shape : ObjectShape} {fields : Fields Value}

/-! ## Counting -/

namespace PresenceOptions

/-- Stopping early does not change the answer. -/
theorem reaches_iff {count : Nat} {names : List String} :
    reaches bindings fields count names = true ↔ count ≤ setCount bindings fields names := by
  induction names generalizing count with
  | nil => cases count <;> simp [reaches, setCount]
  | cons name names ih =>
    cases count with
    | zero => simp [reaches]
    | succ count =>
      rw [reaches, setCount, List.countP_cons]
      by_cases hset : isSet bindings fields name = true
      · rw [if_pos hset, if_pos hset, ih, setCount]
        omega
      · rw [if_neg hset, if_neg hset, ih, setCount]
        omega

/-- Names that are listed once each have no more set fields than any list that contains them. -/
theorem setCount_le_of_subset (bindings : Bindings) (fields : Fields Value) {names names' : List String}
    (hnodup : names.Nodup) (h : names ⊆ names') :
    setCount bindings fields names ≤ setCount bindings fields names' :=
  (List.subperm_of_subset hnodup h).countP_le _

theorem setCount_eq_of_perm {names names' : List String} (h : names.Perm names') :
    setCount bindings fields names = setCount bindings fields names' :=
  h.countP_eq _

theorem missingCount_eq_of_perm {names names' : List String} (h : names.Perm names') :
    missingCount fields names = missingCount fields names' :=
  h.countP_eq _

end PresenceOptions

/-! ## What each rule demands -/

namespace PresenceRule

open PresenceOptions

variable {quota : Quota}

theorem holds_atLeast_iff :
    PresenceRule.atLeast.holds quota bindings shape fields = true ↔
      quota.count ≤ setCount bindings fields quota.names :=
  reaches_iff

theorem holds_atMost_iff :
    PresenceRule.atMost.holds quota bindings shape fields = true ↔
      setCount bindings fields quota.names ≤ quota.count :=
  decide_eq_true_iff

theorem holds_exactly_input_iff :
    PresenceRule.exactly.holds quota bindings .input fields = true ↔
      setCount bindings fields quota.names = quota.count :=
  beq_iff_eq

/-- On an output object a missing field excuses too few, but never too many. -/
theorem holds_exactly_output_iff :
    PresenceRule.exactly.holds quota bindings .output fields = true ↔
      setCount bindings fields quota.names ≤ quota.count ∧
        (setCount bindings fields quota.names = quota.count ∨ 0 < missingCount fields quota.names) := by
  simp only [holds, Bool.and_eq_true, Bool.or_eq_true, decide_eq_true_eq, beq_iff_eq]

/-- A rule sees no more of its list than its counts, and what is missing only on output objects. -/
theorem holds_eq_of_counts (rule : PresenceRule) {bindings' : Bindings} {fields' : Fields Value} {quota' : Quota}
    (hcount : quota.count = quota'.count)
    (hset : setCount bindings fields quota.names = setCount bindings' fields' quota'.names)
    (hmissing : shape = .output → missingCount fields quota.names = missingCount fields' quota'.names) :
    rule.holds quota bindings shape fields = rule.holds quota' bindings' shape fields' := by
  rw [Bool.eq_iff_iff]
  cases rule with
  | atLeast => rw [holds_atLeast_iff, holds_atLeast_iff, hcount, hset]
  | atMost => rw [holds_atMost_iff, holds_atMost_iff, hcount, hset]
  | exactly =>
    cases shape with
    | input => rw [holds_exactly_input_iff, holds_exactly_input_iff, hcount, hset]
    | output => rw [holds_exactly_output_iff, holds_exactly_output_iff, hcount, hset, hmissing rfl]

/-- The order of a list does not matter to any rule. -/
theorem holds_eq_of_perm (rule : PresenceRule) (count : Nat) {names names' : List String}
    (h : names.Perm names') :
    rule.holds ⟨count, names⟩ bindings shape fields = rule.holds ⟨count, names'⟩ bindings shape fields :=
  rule.holds_eq_of_counts rfl (setCount_eq_of_perm h) fun _ => missingCount_eq_of_perm h

end PresenceRule

namespace PresenceOptions

/-! ## Slot by slot -/

/-- The verdict of one rule, which passes if it is not set. -/
def slotVerdict (bindings : Bindings) (shape : ObjectShape) (fields : Fields Value)
    (slot : PresenceRule × Option Quota × Check) : Verdict :=
  slot.2.1.bind fun quota => slot.2.2.require (slot.1.holds quota bindings shape fields)

theorem checkObject_eq_findSome? (options : PresenceOptions) (bindings : Bindings) (shape : ObjectShape)
    (fields : Fields Value) :
    options.checkObject bindings shape fields =
      options.slots.findSome? (slotVerdict bindings shape fields) := by
  rw [checkObject, rules]
  induction options.slots with
  | nil => rfl
  | cons slot slots ih =>
    obtain ⟨rule, quota, check⟩ := slot
    cases quota with
    | none => simpa [List.findSome?_cons, slotVerdict] using ih
    | some quota => simp [List.findSome?_cons, slotVerdict, ih]

/-- An object passes if and only if it keeps every rule that is set. -/
theorem checkObject_eq_none_iff {options : PresenceOptions} :
    options.checkObject bindings shape fields = none ↔
      ∀ slot ∈ options.slots, ∀ quota, slot.2.1 = some quota →
        slot.1.holds quota bindings shape fields = true := by
  rw [checkObject_eq_findSome?, List.findSome?_eq_none_iff]
  refine forall₂_congr fun slot _ => ?_
  simp [slotVerdict, Option.bind_eq_none_iff]

/-! ## What an object shows of its fields -/

section

variable {bindings' : Bindings} {fields' : Fields Value}

/-- Only the listed fields matter to a rule, and of each only whether it is there and whether it is set. -/
theorem holds_congr (rule : PresenceRule) {quota : Quota}
    (h : ∀ name ∈ quota.names, isSet bindings fields name = isSet bindings' fields' name ∧
      Fields.has name fields = Fields.has name fields') :
    rule.holds quota bindings shape fields = rule.holds quota bindings' shape fields' := by
  refine rule.holds_eq_of_counts rfl ?_ fun _ => ?_
  · exact List.countP_congr fun name hname => by rw [(h name hname).1]
  · exact List.countP_congr fun name hname => by rw [(h name hname).2]

/-- Objects that keep the same rules have one verdict. -/
theorem checkObject_eq_of_holds {options : PresenceOptions}
    (h : ∀ configured ∈ options.rules, configured.rule.holds configured.quota bindings shape fields =
      configured.rule.holds configured.quota bindings' shape fields') :
    options.checkObject bindings shape fields = options.checkObject bindings' shape fields' := by
  rw [checkObject, checkObject]
  refine findSome?_congr fun configured hconfigured => ?_
  rw [h configured hconfigured]

theorem mem_referencedFields_of_mem {options : PresenceOptions} {configured : ConfiguredRule} {name : String}
    (hconfigured : configured ∈ options.rules) (hname : name ∈ configured.quota.names) :
    name ∈ options.referencedFields :=
  List.mem_flatMap.2 ⟨configured, hconfigured, hname⟩

/-- Objects that show the same of all fields that the rules list have one verdict. -/
theorem checkObject_congr {options : PresenceOptions}
    (h : ∀ name ∈ options.referencedFields, isSet bindings fields name = isSet bindings' fields' name ∧
      Fields.has name fields = Fields.has name fields') :
    options.checkObject bindings shape fields = options.checkObject bindings' shape fields' := by
  refine checkObject_eq_of_holds fun configured hconfigured => ?_
  exact holds_congr configured.rule fun name hname => h name (mem_referencedFields_of_mem hconfigured hname)

end

/-! ## Lists without repetitions -/

/-- No rule that is set lists a name twice. -/
def NoRepeats (options : PresenceOptions) : Prop :=
  ∀ configured ∈ options.rules, configured.quota.names.Nodup

instance (options : PresenceOptions) : Decidable options.NoRepeats :=
  inferInstanceAs (Decidable (∀ configured ∈ options.rules, configured.quota.names.Nodup))

/-- Slot by slot, no rule that is set lists a name twice. -/
theorem noRepeats_iff {options : PresenceOptions} :
    options.NoRepeats ↔ ∀ slot ∈ options.slots, ∀ quota, slot.2.1 = some quota → quota.names.Nodup := by
  constructor
  · intro h slot hslot quota hquota
    exact h ⟨slot.1, quota, slot.2.2⟩ (List.mem_filterMap.2 ⟨slot, hslot, by rw [hquota]; rfl⟩)
  · intro h configured hconfigured
    obtain ⟨slot, hslot, hmap⟩ := List.mem_filterMap.1 hconfigured
    obtain ⟨quota, hquota, rfl⟩ := Option.map_eq_some_iff.1 hmap
    exact h slot hslot quota hquota

end PresenceOptions

end SchemaConstraints
