import SchemaConstraints.Narrowing
import SchemaConstraints.Proofs.Evaluate.Leaves
import SchemaConstraints.Proofs.Evaluate.Presence

set_option autoImplicit false

/-! # Narrower presence rules accept less

Narrowing compares the names of two quotas as sets, evaluation counts positions. Where no rule lists a
name twice the two agree: fewer candidates never hold more set fields (`setCount_le_of_subset`), and the
same candidates hold equally many. So whatever presence options accept is then accepted by all options
that they narrow. -/

namespace SchemaConstraints

/-! ## One rule -/

namespace PresenceRule

open PresenceOptions

theorem subset_of_isSubset {small large : List String} (h : isSubset (· == ·) small large = true) :
    small ⊆ large := by
  intro name hname
  obtain ⟨other, hother, heq⟩ := List.any_eq_true.1 (List.all_eq_true.1 h name hname)
  rwa [← eq_of_beq heq]

/-- An object that keeps a quota keeps all quotas that it narrows under the same rule. -/
theorem holds_of_narrows {rule : PresenceRule} {n w : Quota} (h : rule.narrows n w = true)
    (hn : n.names.Nodup) (hw : w.names.Nodup) {bindings : Bindings} {shape : ObjectShape}
    {fields : Fields Value} (hkeeps : rule.holds n bindings shape fields = true) :
    rule.holds w bindings shape fields = true := by
  cases rule with
  | atLeast =>
    -- more candidates hold at least as many set fields
    rw [narrows, Bool.and_eq_true, decide_eq_true_eq] at h
    rw [holds_atLeast_iff] at hkeeps ⊢
    have := setCount_le_of_subset bindings fields hn (subset_of_isSubset h.2)
    omega
  | atMost =>
    -- fewer candidates hold at most as many
    rw [narrows, Bool.and_eq_true, decide_eq_true_eq] at h
    rw [holds_atMost_iff] at hkeeps ⊢
    have := setCount_le_of_subset bindings fields hw (subset_of_isSubset h.2)
    omega
  | exactly =>
    simp only [narrows, Bool.and_eq_true, beq_iff_eq] at h
    obtain ⟨⟨hcount, hnw⟩, hwn⟩ := h
    have hperm : n.names.Perm w.names :=
      (List.perm_ext_iff_of_nodup hn hw).2 fun _ =>
        ⟨fun hname => subset_of_isSubset hnw hname, fun hname => subset_of_isSubset hwn hname⟩
    rw [← hkeeps, show w = ⟨n.count, w.names⟩ by rw [hcount]]
    exact (holds_eq_of_perm .exactly n.count hperm).symm

end PresenceRule

/-! ## All rules together -/

namespace PresenceOptions

/-- The slots of two options stand side by side and belong to the same rules. -/
theorem exists_mem_zip_slots (n w : PresenceOptions) {slot : PresenceRule × Option Quota × Check}
    (h : slot ∈ w.slots) :
    ∃ slot' ∈ n.slots, (slot', slot) ∈ n.slots.zip w.slots ∧ slot'.1 = slot.1 := by
  obtain ⟨i, hw, rfl⟩ := List.getElem_of_mem h
  have hn : i < n.slots.length := hw
  have hrules : n.slots.map (·.1) = w.slots.map (·.1) := rfl
  refine ⟨n.slots[i], List.getElem_mem hn, ?_, ?_⟩
  · exact List.mem_iff_getElem.2 ⟨i, by rw [List.length_zip]; exact Nat.lt_min.2 ⟨hn, hw⟩, by simp⟩
  · have hi := congrArg (·[i]?) hrules
    simpa [hn, hw] using hi

section

variable {n w : PresenceOptions} (h : n.narrows w = true) (hn : n.NoRepeats) (hw : w.NoRepeats)
include h hn hw

theorem checkObject_of_narrows {bindings : Bindings} {shape : ObjectShape} {fields : Fields Value}
    (haccepts : n.checkObject bindings shape fields = none) : w.checkObject bindings shape fields = none := by
  rw [checkObject_eq_none_iff] at haccepts ⊢
  intro slot hslot wider hwider
  obtain ⟨slot', hslot', hzip, hrule⟩ := exists_mem_zip_slots n w hslot
  have hnarrows := List.all_eq_true.1 h _ hzip
  cases hnarrower : slot'.2.1 with
  | none => simp [narrowsAxis, hnarrower, hwider] at hnarrows
  | some narrower =>
    simp only [narrowsAxis, hnarrower, hwider] at hnarrows
    rw [← hrule]
    have hnodup : narrower.names.Nodup := noRepeats_iff.1 hn slot' hslot' narrower hnarrower
    have hnodup' : wider.names.Nodup := noRepeats_iff.1 hw slot hslot wider hwider
    exact PresenceRule.holds_of_narrows hnarrows hnodup hnodup' (haccepts slot' hslot' narrower hnarrower)

/-- Presence options accept whatever options that narrow them accept, if neither repeat a name. -/
theorem verdict_of_narrows {bindings : Bindings} {value : Value}
    (haccepts : n.verdict bindings value = none) : w.verdict bindings value = none := by
  rw [verdict, Value.checkLeaves_eq_none_iff] at haccepts ⊢
  intro leaf hleaf
  specialize haccepts leaf hleaf
  cases leaf with
  | object shape fields => exact checkObject_of_narrows h hn hw haccepts
  | _ => rfl

/-- **Narrowing keeps acceptance of objects.** If presence options without repeated names narrow others
    without repeated names, then every object that keeps the rules of the former keeps those of the latter,
    and so does every value with all the objects in it. -/
theorem objects_accepted_of_narrows :
    (∀ bindings shape fields, n.checkObject bindings shape fields = none →
      w.checkObject bindings shape fields = none) ∧
    ∀ bindings value, n.verdict bindings value = none → w.verdict bindings value = none :=
  ⟨fun _ _ _ => checkObject_of_narrows h hn hw, fun _ _ => verdict_of_narrows h hn hw⟩

end

/-- Fewer fields are asked of more candidates, and an output object may still have the missing one. -/
theorem object_accepted_by_wider_rules :
    narrows { atLeast := some ⟨2, ["a", "b"]⟩, exactly := some ⟨3, ["a", "b", "c"]⟩ }
      { atLeast := some ⟨1, ["c", "b", "a"]⟩, exactly := some ⟨3, ["c", "b", "a"]⟩ } = true ∧
    checkObject { atLeast := some ⟨2, ["a", "b"]⟩, exactly := some ⟨3, ["a", "b", "c"]⟩ }
      [("x", .int 2)] .output [("a", .int 1), ("b", .variable "x")] = none ∧
    checkObject { atLeast := some ⟨1, ["c", "b", "a"]⟩, exactly := some ⟨3, ["c", "b", "a"]⟩ }
      [("x", .int 2)] .output [("a", .int 1), ("b", .variable "x")] = none := by
  have hnarrows : narrows { atLeast := some ⟨2, ["a", "b"]⟩, exactly := some ⟨3, ["a", "b", "c"]⟩ }
      { atLeast := some ⟨1, ["c", "b", "a"]⟩, exactly := some ⟨3, ["c", "b", "a"]⟩ } = true := by decide
  have haccepts : checkObject { atLeast := some ⟨2, ["a", "b"]⟩, exactly := some ⟨3, ["a", "b", "c"]⟩ }
      [("x", .int 2)] .output [("a", .int 1), ("b", .variable "x")] = none := by decide
  exact ⟨hnarrows, haccepts,
    (objects_accepted_of_narrows hnarrows (by decide) (by decide)).1 _ _ _ haccepts⟩

end PresenceOptions

end SchemaConstraints
