import SchemaConstraints.Check

set_option autoImplicit false

/-! # The first failure

Evaluation stops at the first check that fails, and here is what that check is said to be the first of. A
`Demand` is what a check asks for, as a proposition. `FirstUnmet` relates a list of demands to the verdict
that names the first one that is not met, and `FirstFailing` does so for any parts that have verdicts of
their own. Both determine the verdict (`FirstFailing.unique`), and both follow the shape of the evaluators:
`FirstFailing.append` is for checks that are combined with `Option.or`, and `firstFailing_flatMap` for searches
through a list. -/

namespace SchemaConstraints

/-- What a check asks for. -/
structure Demand where
  /-- The check that fails if the demand is not met. -/
  check : Check
  met : Prop

/-- The verdict of a single demand. -/
def Demand.Decides (demand : Demand) : Verdict → Prop
  | none => demand.met
  | some check => ¬ demand.met ∧ demand.check = check

/-- The verdict on several parts is that on the first of them that fails on its own; none if all of them pass. -/
def FirstFailing {α : Type} (own : α → Verdict → Prop) (parts : List α) : Verdict → Prop
  | none => ∀ part ∈ parts, own part none
  | some check => ∃ before part after,
      parts = before ++ part :: after ∧ (∀ earlier ∈ before, own earlier none) ∧ own part (some check)

/-- The verdict is the check of the first demand that is not met; none if all of them are met. -/
def FirstUnmet (demands : List Demand) (verdict : Verdict) : Prop :=
  FirstFailing Demand.Decides demands verdict

section

variable {α : Type} {own : α → Verdict → Prop} {parts others : List α} {part : α} {verdict other : Verdict}

theorem firstFailing_nil : FirstFailing own [] none := by
  intro part hpart
  simp at hpart

theorem firstFailing_singleton (h : own part verdict) : FirstFailing own [part] verdict := by
  cases verdict with
  | none =>
    intro other hother
    rwa [List.mem_singleton.1 hother]
  | some check => exact ⟨[], part, [], rfl, by simp, h⟩

/-- A later part counts only if all earlier parts pass. -/
theorem FirstFailing.append (h : FirstFailing own parts verdict) (hothers : FirstFailing own others other) :
    FirstFailing own (parts ++ others) (verdict.or other) := by
  cases verdict with
  | some check =>
    obtain ⟨before, part, after, rfl, hbefore, hpart⟩ := h
    exact ⟨before, part, after ++ others, by simp, hbefore, hpart⟩
  | none =>
    cases other with
    | none =>
      intro part hpart
      rcases List.mem_append.1 hpart with hpart | hpart
      · exact h part hpart
      · exact hothers part hpart
    | some check =>
      obtain ⟨before, part, after, rfl, hbefore, hpart⟩ := hothers
      refine ⟨parts ++ before, part, after, by simp, fun earlier hearlier => ?_, hpart⟩
      rcases List.mem_append.1 hearlier with hearlier | hearlier
      · exact h earlier hearlier
      · exact hbefore earlier hearlier

/-- Searching through sources that each look for the first failure among their own parts. -/
theorem firstFailing_flatMap {β : Type} {sources : List β} {partsOf : β → List α} {check : β → Verdict}
    (h : ∀ source ∈ sources, FirstFailing own (partsOf source) (check source)) :
    FirstFailing own (sources.flatMap partsOf) (sources.findSome? check) := by
  induction sources with
  | nil => exact firstFailing_nil
  | cons source sources ih =>
    obtain ⟨hsource, hsources⟩ := List.forall_mem_cons.1 h
    rw [findSome?_cons_eq_or, List.flatMap_cons]
    exact hsource.append (ih hsources)

theorem firstFailing_map {β : Type} {sources : List β} {partOf : β → α} {check : β → Verdict}
    (h : ∀ source ∈ sources, own (partOf source) (check source)) :
    FirstFailing own (sources.map partOf) (sources.findSome? check) := by
  rw [List.map_eq_flatMap]
  exact firstFailing_flatMap fun source hsource => firstFailing_singleton (h source hsource)

theorem firstFailing_findSome? {check : α → Verdict} (h : ∀ part ∈ parts, own part (check part)) :
    FirstFailing own parts (parts.findSome? check) := by
  have hparts : FirstFailing own (parts.map fun part => part) (parts.findSome? check) := firstFailing_map h
  rwa [List.map_id'] at hparts

theorem firstFailing_cons (h : FirstFailing own (part :: parts) verdict) :
    own part none ∧ FirstFailing own parts verdict ∨ verdict ≠ none ∧ own part verdict := by
  cases verdict with
  | none =>
    obtain ⟨hpart, hparts⟩ := List.forall_mem_cons.1 h
    exact .inl ⟨hpart, hparts⟩
  | some check =>
    obtain ⟨before, first, after, hsplit, hbefore, hfirst⟩ := h
    cases before with
    | nil =>
      obtain ⟨rfl, rfl⟩ := List.cons.inj hsplit
      exact .inr ⟨Option.some_ne_none check, hfirst⟩
    | cons earlier before =>
      obtain ⟨rfl, rfl⟩ := List.cons.inj hsplit
      obtain ⟨hpart, hbefore⟩ := List.forall_mem_cons.1 hbefore
      exact .inl ⟨hpart, before, first, after, rfl, hbefore, hfirst⟩

/-- Parts that have one verdict each have one verdict together. -/
theorem FirstFailing.unique (hown : ∀ part v w, own part v → own part w → v = w)
    (h : FirstFailing own parts verdict) (hother : FirstFailing own parts other) : verdict = other := by
  induction parts with
  | nil =>
    have hnone : ∀ {v}, FirstFailing own [] v → v = none := by
      rintro (_ | check) h
      · rfl
      · obtain ⟨before, part, after, hsplit, -⟩ := h
        simp at hsplit
    rw [hnone h, hnone hother]
  | cons part parts ih =>
    rcases firstFailing_cons h with ⟨hpart, hparts⟩ | ⟨hne, hpart⟩ <;>
      rcases firstFailing_cons hother with ⟨hpart', hparts'⟩ | ⟨hne', hpart'⟩
    · exact ih hparts hparts'
    · exact absurd (hown part _ _ hpart hpart').symm hne'
    · exact absurd (hown part _ _ hpart hpart') hne
    · exact hown part _ _ hpart hpart'

end

/-! ## Demands of checks -/

variable {demands others : List Demand} {verdict other : Verdict}

theorem decides_require {check : Check} {ok : Bool} {met : Prop} (h : ok = true ↔ met) :
    Demand.Decides ⟨check, met⟩ (check.require ok) := by
  cases ok with
  | true => exact h.1 rfl
  | false => exact ⟨fun hmet => Bool.false_ne_true (h.2 hmet), rfl⟩

theorem firstUnmet_require {check : Check} {ok : Bool} {met : Prop} (h : ok = true ↔ met) :
    FirstUnmet [⟨check, met⟩] (check.require ok) :=
  firstFailing_singleton (decides_require h)

/-- A setting that is missing demands nothing. -/
theorem firstUnmet_setting {α : Type} {check : Check} {setting : Option α} {ok : α → Bool} {met : α → Prop}
    (h : ∀ bound, ok bound = true ↔ met bound) :
    FirstUnmet [⟨check, ∀ bound, setting = some bound → met bound⟩] (check.require (setting.all ok)) := by
  refine firstUnmet_require ?_
  simp only [Option.all_eq_true, h]

theorem FirstUnmet.unique (h : FirstUnmet demands verdict) (hother : FirstUnmet demands other) : verdict = other := by
  refine FirstFailing.unique (fun demand v w hv hw => ?_) h hother
  cases v <;> cases w
  · rfl
  · exact absurd hv hw.1
  · exact absurd hw hv.1
  · rw [← hv.2, ← hw.2]

theorem FirstUnmet.append (h : FirstUnmet demands verdict) (hothers : FirstUnmet others other) :
    FirstUnmet (demands ++ others) (verdict.or other) :=
  FirstFailing.append h hothers

end SchemaConstraints
