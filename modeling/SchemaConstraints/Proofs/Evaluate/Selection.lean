import SchemaConstraints.Proofs.Evaluate.Leaves
import SchemaConstraints.Proofs.Evaluate.Presence

set_option autoImplicit false

/-! # Presence rules and the selection of fields

A response holds the fields that were requested, so the same object is seen with more or with fewer fields.
Leaving a field out lowers the number of set fields and raises the number of missing ones at the same time:
what is no longer counted as set is counted as missing (`setCount_le_select`). That is why `exactly`, which
puts up with too few fields as soon as one is missing, never fails for the fields that were left out, and
neither does `atMost`. Only a rule that asks for fields does. -/

namespace SchemaConstraints

/-! ## Selections -/

namespace Fields

variable {α : Type}

/-- The map restricted to the names that a selection keeps. -/
def select (keep : String → Bool) (fields : Fields α) : Fields α := fields.filter fun entry => keep entry.1

theorem find?_select (keep : String → Bool) (name : String) (fields : Fields α) :
    find? name (select keep fields) = if keep name then find? name fields else none := by
  induction fields with
  | nil => simp [select]
  | cons entry rest ih =>
    obtain ⟨key, value⟩ := entry
    rw [select, List.filter_cons, ← select]
    by_cases hname : key = name
    · subst hname
      cases hkeep : keep key with
      | true => simp [find?]
      | false => simpa [hkeep] using ih
    · rw [find?, if_neg hname, ← ih]
      cases keep key with
      | true => simp [find?, hname]
      | false => rfl

theorem has_select (keep : String → Bool) (name : String) (fields : Fields α) :
    has name (select keep fields) = (keep name && has name fields) := by
  rw [has, has, find?_select]
  cases keep name <;> rfl

end Fields

/-! ## Counts over a selection -/

namespace PresenceOptions

variable (keep : String → Bool) (bindings : Bindings) (fields : Fields Value) (names : List String)

theorem isSet_select (name : String) :
    isSet bindings (fields.select keep) name = (keep name && isSet bindings fields name) := by
  rw [isSet, isSet, Fields.find?_select]
  cases keep name <;> rfl

theorem setCount_select_le : setCount bindings (fields.select keep) names ≤ setCount bindings fields names := by
  refine List.countP_mono_left fun name _ hset => ?_
  rw [isSet_select, Bool.and_eq_true] at hset
  exact hset.2

theorem missingCount_le_select : missingCount fields names ≤ missingCount (fields.select keep) names := by
  refine List.countP_mono_left fun name _ hmissing => ?_
  rw [Bool.not_eq_true'] at hmissing ⊢
  rw [Fields.has_select, hmissing, Bool.and_false]

/-- A set field that is left out is missing. -/
theorem setCount_le_select :
    setCount bindings fields names ≤
      setCount bindings (fields.select keep) names + missingCount (fields.select keep) names := by
  induction names with
  | nil => exact Nat.zero_le _
  | cons name names ih =>
    simp only [setCount, missingCount, List.countP_cons, isSet_select, Fields.has_select] at ih ⊢
    cases keep name with
    | true =>
      simp only [Bool.true_and]
      omega
    | false =>
      simp only [Bool.false_and, Bool.not_false, if_true]
      split <;> omega

end PresenceOptions

/-! ## Rules over a selection -/

namespace PresenceRule

open PresenceOptions

variable {bindings : Bindings} {fields : Fields Value}

/-- A rule that asks for no field is kept by every selection of the fields that keep it. -/
theorem holds_select {rule : PresenceRule} {quota : Quota} (hrule : rule = .atLeast → quota.count = 0)
    (keep : String → Bool) (h : rule.holds quota bindings .output fields = true) :
    rule.holds quota bindings .output (fields.select keep) = true := by
  have hset := setCount_select_le keep bindings fields quota.names
  cases rule with
  | atLeast =>
    rw [holds_atLeast_iff, hrule rfl]
    exact Nat.zero_le _
  | atMost =>
    rw [holds_atMost_iff] at h ⊢
    exact Nat.le_trans hset h
  | exactly =>
    have hmissing := missingCount_le_select keep fields quota.names
    have hleft := setCount_le_select keep bindings fields quota.names
    rw [holds_exactly_output_iff] at h ⊢
    -- with nothing missing, nothing was left out, and the count is what it was
    omega

/-- Nothing is set where no field was requested. -/
theorem holds_atLeast_nil_iff {quota : Quota} {shape : ObjectShape} :
    PresenceRule.atLeast.holds quota bindings shape [] = true ↔ quota.count = 0 := by
  have hnone : setCount bindings [] quota.names = 0 := by
    rw [setCount, List.countP_eq_zero]
    intro name _
    simp [isSet]
  rw [holds_atLeast_iff, hnone, Nat.le_zero]

end PresenceRule

namespace PresenceOptions

/-- No rule asks for a field. -/
def AsksForNone (options : PresenceOptions) : Prop :=
  options.atLeastOne = none ∧ ∀ quota, options.atLeast = some quota → quota.count = 0

theorem asksForNone_iff {options : PresenceOptions} :
    options.AsksForNone ↔
      ∀ slot ∈ options.slots, ∀ quota, slot.2.1 = some quota → slot.1 = .atLeast → quota.count = 0 := by
  simp [AsksForNone, slots, one, Option.eq_none_iff_forall_ne_some]

theorem verdict_object (options : PresenceOptions) (bindings : Bindings) (shape : ObjectShape)
    (fields : Fields Value) :
    options.verdict bindings (.object shape fields) = options.checkObject bindings shape fields := by
  rw [verdict, Value.checkLeaves_eq_view]
  rfl

/-- **Selecting fewer fields breaks no rule but one that asks for fields.** All selections of the fields of an
    accepted output object are accepted exactly if no rule asks for a field. -/
theorem selections_accepted_iff {options : PresenceOptions} {bindings : Bindings} {fields : Fields Value}
    (haccepts : options.verdict bindings (.object .output fields) = none) :
    (∀ keep, options.verdict bindings (.object .output (fields.select keep)) = none) ↔ options.AsksForNone := by
  simp only [verdict_object, checkObject_eq_none_iff] at haccepts ⊢
  rw [asksForNone_iff]
  constructor
  · intro h slot hslot quota hquota hrule
    have hempty : fields.select (fun _ => false) = [] := List.filter_eq_nil_iff.2 (by simp)
    have hholds := h (fun _ => false) slot hslot quota hquota
    rw [hrule, hempty] at hholds
    exact PresenceRule.holds_atLeast_nil_iff.1 hholds
  · intro h keep slot hslot quota hquota
    exact PresenceRule.holds_select (h slot hslot quota hquota) keep (haccepts slot hslot quota hquota)

/-- Of two set fields one is left out, and the rule that wants both withholds its judgment. -/
theorem selection_accepted_of_missing :
    let options : PresenceOptions := { exactly := some ⟨2, ["a", "b"]⟩, atMostOne := some ["b", "c"] }
    let fields : Fields Value := [("a", .variable "x"), ("b", .int 1), ("c", .null)]
    let keep := fun name : String => name != "a"
    options.verdict [("x", .int 2)] (.object .output fields) = none ∧
    fields.select keep = [("b", .int 1), ("c", .null)] ∧
    options.verdict [("x", .int 2)] (.object .output (fields.select keep)) = none := by
  intro options fields keep
  have haccepts : options.verdict [("x", .int 2)] (.object .output fields) = none := by
    rw [verdict_object]
    decide
  have hasks : options.AsksForNone := ⟨rfl, by simp [options]⟩
  exact ⟨haccepts, rfl, (selections_accepted_iff haccepts).2 hasks keep⟩

end PresenceOptions

end SchemaConstraints
