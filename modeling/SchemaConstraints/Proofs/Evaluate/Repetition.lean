import SchemaConstraints.Proofs.Evaluate.Presence

set_option autoImplicit false

/-! # Repeated names in presence rules

A presence rule counts the positions of its list, so a name that is listed twice counts twice, and two
lists of the same names are not always the same to a rule. This file says how alike they have to be:

* `atLeastOne` asks whether any listed field is set, which depends on the names alone;
* `atMostOne` and `exactlyOne` also see which names are repeated, but not how often;
* `atLeast`, `atMost` and `exactly`, as their counts vary, see how often each name is listed.

Lists in which no name is repeated are read as sets by every rule. -/

namespace SchemaConstraints

/-! ## Likeness of two lists -/

/-- The same names, in any order and with any repetitions. -/
def SameNames (names names' : List String) : Prop := ∀ name, name ∈ names ↔ name ∈ names'

/-- The same names are repeated, any number of times. -/
def SameRepeats (names names' : List String) : Prop :=
  ∀ name, names.count name ≤ 1 ↔ names'.count name ≤ 1

namespace PresenceOptions

/-- The same rules are set, with the same counts, and over lists that are alike. Which lists are alike may
    depend on the rule, for which its check stands. -/
structure Alike (like : Check → List String → List String → Prop) (a b : PresenceOptions) : Prop where
  atLeastOne : Option.Rel (like .atLeastOne) a.atLeastOne b.atLeastOne
  atMostOne : Option.Rel (like .atMostOne) a.atMostOne b.atMostOne
  exactlyOne : Option.Rel (like .exactlyOne) a.exactlyOne b.exactlyOne
  atLeast : Option.Rel (fun q q' => q.count = q'.count ∧ like .atLeast q.names q'.names) a.atLeast b.atLeast
  atMost : Option.Rel (fun q q' => q.count = q'.count ∧ like .atMost q.names q'.names) a.atMost b.atMost
  exactly : Option.Rel (fun q q' => q.count = q'.count ∧ like .exactly q.names q'.names) a.exactly b.exactly

end PresenceOptions

/-! ## Counts over lists of the same names -/

section Counts

variable {names names' : List String}

/-- At most one position satisfies a property if and only if a single name does, which is not repeated. -/
theorem countP_le_one_iff {p : String → Bool} :
    names.countP p ≤ 1 ↔
      (∀ x ∈ names, ∀ y ∈ names, p x = true → p y = true → x = y) ∧
        ∀ x ∈ names, p x = true → names.count x ≤ 1 := by
  constructor
  · intro h
    refine ⟨fun x hx y hy hpx hpy => ?_, fun x _ hpx => ?_⟩
    · -- two different names would satisfy it at two positions
      by_contra hne
      have hsub : [x, y] ⊆ names.filter p := by simp [hx, hy, hpx, hpy]
      have hlen := (List.subperm_of_subset (by simpa using hne) hsub).length_le
      rw [← List.countP_eq_length_filter] at hlen
      simp only [List.length_cons, List.length_nil] at hlen
      omega
    · -- every position of the name counts
      refine Nat.le_trans (List.countP_mono_left fun y _ hy => ?_) h
      rwa [eq_of_beq hy]
  · rintro ⟨hsingle, hcount⟩
    -- if any name satisfies it, then all positions that do hold this one name
    by_cases hpos : 0 < names.countP p
    · obtain ⟨x, hx, hpx⟩ := List.countP_pos_iff.1 hpos
      refine Nat.le_trans (List.countP_mono_left fun y hy hpy => ?_) (hcount x hx hpx)
      exact beq_iff_eq.2 (hsingle y hy x hx hpy hpx)
    · omega

theorem countP_pos_congr (h : SameNames names names') (p : String → Bool) :
    0 < names.countP p ↔ 0 < names'.countP p := by
  simp only [List.countP_pos_iff, h _]

theorem countP_le_one_congr (h : SameNames names names') (hrep : SameRepeats names names')
    (p : String → Bool) : names.countP p ≤ 1 ↔ names'.countP p ≤ 1 := by
  simp only [countP_le_one_iff, h _, hrep _]

end Counts

/-! ## What the rules see of their lists -/

namespace PresenceRule

open PresenceOptions

variable {names names' : List String} {bindings : Bindings} {shape : ObjectShape} {fields : Fields Value}

/-- Asking for one set field is asking whether there is any. -/
theorem holds_atLeast_one_congr (h : SameNames names names') :
    PresenceRule.atLeast.holds (one names) bindings shape fields =
      PresenceRule.atLeast.holds (one names') bindings shape fields := by
  rw [Bool.eq_iff_iff, holds_atLeast_iff, holds_atLeast_iff]
  exact countP_pos_congr h _

theorem holds_atMost_one_congr (h : SameNames names names') (hrep : SameRepeats names names') :
    PresenceRule.atMost.holds (one names) bindings shape fields =
      PresenceRule.atMost.holds (one names') bindings shape fields := by
  rw [Bool.eq_iff_iff, holds_atMost_iff, holds_atMost_iff]
  exact countP_le_one_congr h hrep _

theorem holds_exactly_one_congr (h : SameNames names names') (hrep : SameRepeats names names') :
    PresenceRule.exactly.holds (one names) bindings shape fields =
      PresenceRule.exactly.holds (one names') bindings shape fields := by
  have hle : setCount bindings fields names ≤ 1 ↔ setCount bindings fields names' ≤ 1 :=
    countP_le_one_congr h hrep _
  have hpos : 0 < setCount bindings fields names ↔ 0 < setCount bindings fields names' :=
    countP_pos_congr h _
  have hmissing : 0 < missingCount fields names ↔ 0 < missingCount fields names' :=
    countP_pos_congr h _
  rw [Bool.eq_iff_iff]
  cases shape with
  | input =>
    rw [holds_exactly_input_iff, holds_exactly_input_iff]
    simp only [one]
    omega
  | output =>
    rw [holds_exactly_output_iff, holds_exactly_output_iff]
    simp only [one]
    omega

end PresenceRule

namespace PresenceOptions

/-! ## Lists that are alike enough -/

/-- What the rule behind a check sees of its list, among lists of the same names. Other checks have no
    list. -/
def SeenAlike : Check → List String → List String → Prop
  | .atMostOne, names, names' | .exactlyOne, names, names' => SameRepeats names names'
  | .atLeast, names, names' | .atMost, names, names' | .exactly, names, names' => names.Perm names'
  | _, _, _ => True

section

variable {bindings : Bindings} {shape : ObjectShape} {fields : Fields Value}

theorem slotVerdict_congr {rule : PresenceRule} {check : Check} {related : Quota → Quota → Prop}
    {q q' : Option Quota} (h : Option.Rel related q q')
    (hrelated : ∀ quota quota', related quota quota' →
      rule.holds quota bindings shape fields = rule.holds quota' bindings shape fields) :
    slotVerdict bindings shape fields (rule, q, check) =
      slotVerdict bindings shape fields (rule, q', check) := by
  cases h with
  | none => rfl
  | some h => simp only [slotVerdict, Option.bind_some, hrelated _ _ h]

theorem slotVerdict_one_congr {rule : PresenceRule} {check : Check}
    {related : List String → List String → Prop} {names names' : Option (List String)}
    (h : Option.Rel related names names')
    (hrelated : ∀ names names', related names names' →
      rule.holds (one names) bindings shape fields = rule.holds (one names') bindings shape fields) :
    slotVerdict bindings shape fields (rule, names.map one, check) =
      slotVerdict bindings shape fields (rule, names'.map one, check) := by
  cases h with
  | none => rfl
  | some h => simp only [slotVerdict, Option.map_some, Option.bind_some, hrelated _ _ h]

/-- Options whose lists look the same to their rules give the same verdict on every object. -/
theorem checkObject_eq_of_alike {a b : PresenceOptions}
    (h : Alike (fun check names names' => SameNames names names' ∧ SeenAlike check names names') a b) :
    a.checkObject bindings shape fields = b.checkObject bindings shape fields := by
  -- a rule with a count of its own sees its list up to order
  have hcounted : ∀ (rule : PresenceRule) (quota quota' : Quota),
      quota.count = quota'.count → quota.names.Perm quota'.names →
      rule.holds quota bindings shape fields = rule.holds quota' bindings shape fields := by
    rintro rule ⟨count, names⟩ ⟨_, names'⟩ rfl hperm
    exact PresenceRule.holds_eq_of_perm rule count hperm
  rw [checkObject_eq_findSome?, checkObject_eq_findSome?, slots, slots]
  simp only [List.findSome?_cons, List.findSome?_nil]
  rw [slotVerdict_one_congr h.atLeastOne fun _ _ hl => PresenceRule.holds_atLeast_one_congr hl.1,
    slotVerdict_one_congr h.atMostOne fun _ _ hl => PresenceRule.holds_atMost_one_congr hl.1 hl.2,
    slotVerdict_one_congr h.exactlyOne fun _ _ hl => PresenceRule.holds_exactly_one_congr hl.1 hl.2,
    slotVerdict_congr h.atLeast fun _ _ hl => hcounted _ _ _ hl.1 hl.2.2,
    slotVerdict_congr h.atMost fun _ _ hl => hcounted _ _ _ hl.1 hl.2.2,
    slotVerdict_congr h.exactly fun _ _ hl => hcounted _ _ _ hl.1 hl.2.2]

end

/-! ## Lists that are not

An object with a single field makes every rule compare its count with the number of times that the name of
the field is listed. -/

/-- An object with a single field, which is set. -/
def singleField (name : String) : Fields Value := [(name, .bool true)]

theorem setCount_singleField (name : String) (names : List String) :
    setCount [] (singleField name) names = names.count name := by
  rw [setCount, List.count_eq_countP]
  refine List.countP_congr fun other _ => ?_
  by_cases h : name = other
  · simp [isSet, singleField, Fields.find?, Value.resolve, Value.isNull, h]
  · simp [isSet, singleField, Fields.find?, h, Ne.symm h]

section SingleField

variable {count : Nat} {names : List String} {name : String}

theorem atMostOne_singleField :
    checkObject { atMostOne := some names } [] .input (singleField name) = none ↔ names.count name ≤ 1 := by
  simp [checkObject_eq_none_iff, slots, one, PresenceRule.holds_atMost_iff, setCount_singleField]

theorem exactlyOne_singleField :
    checkObject { exactlyOne := some names } [] .input (singleField name) = none ↔ names.count name = 1 := by
  simp [checkObject_eq_none_iff, slots, one, PresenceRule.holds_exactly_input_iff, setCount_singleField]

theorem atLeast_singleField :
    checkObject { atLeast := some ⟨count, names⟩ } [] .input (singleField name) = none ↔
      count ≤ names.count name := by
  simp [checkObject_eq_none_iff, slots, PresenceRule.holds_atLeast_iff, setCount_singleField]

theorem atMost_singleField :
    checkObject { atMost := some ⟨count, names⟩ } [] .input (singleField name) = none ↔
      names.count name ≤ count := by
  simp [checkObject_eq_none_iff, slots, PresenceRule.holds_atMost_iff, setCount_singleField]

theorem exactly_singleField :
    checkObject { exactly := some ⟨count, names⟩ } [] .input (singleField name) = none ↔
      names.count name = count := by
  simp [checkObject_eq_none_iff, slots, PresenceRule.holds_exactly_input_iff, setCount_singleField]

end SingleField

/-- If options that are alike are never told apart by an object, then their lists look the same to their
    rules. Objects with a single field are enough to see it. -/
theorem seenAlike_of_interchangeable {like : Check → List String → List String → Prop}
    (h : ∀ a b, Alike (fun check names names' => SameNames names names' ∧ like check names names') a b →
      ∀ bindings shape fields, a.checkObject bindings shape fields = b.checkObject bindings shape fields)
    {check : Check} {names names' : List String} (hsame : SameNames names names')
    (hlike : like check names names') : SeenAlike check names names' := by
  have hpasses : ∀ a b,
      Alike (fun check names names' => SameNames names names' ∧ like check names names') a b →
      ∀ name, a.checkObject [] .input (singleField name) = none ↔
        b.checkObject [] .input (singleField name) = none := by
    intro a b hab name
    rw [h a b hab]
  cases check with
  | atMostOne =>
    intro name
    rw [← atMostOne_singleField, ← atMostOne_singleField]
    exact hpasses _ _ ⟨.none, .some ⟨hsame, hlike⟩, .none, .none, .none, .none⟩ name
  | exactlyOne =>
    intro name
    have hone : names.count name = 1 ↔ names'.count name = 1 := by
      rw [← exactlyOne_singleField, ← exactlyOne_singleField]
      exact hpasses _ _ ⟨.none, .none, .some ⟨hsame, hlike⟩, .none, .none, .none⟩ name
    -- a name that is not listed on one side is not listed on the other side either
    have hpos : 0 < names.count name ↔ 0 < names'.count name := by
      rw [List.count_pos_iff, List.count_pos_iff]
      exact hsame name
    omega
  | atLeast =>
    refine List.perm_iff_count.2 fun name => ?_
    have hcounts : ∀ count, count ≤ names.count name ↔ count ≤ names'.count name := by
      intro count
      rw [← atLeast_singleField, ← atLeast_singleField]
      exact hpasses _ _ ⟨.none, .none, .none, .some ⟨rfl, hsame, hlike⟩, .none, .none⟩ name
    exact Nat.le_antisymm ((hcounts _).1 (Nat.le_refl _)) ((hcounts _).2 (Nat.le_refl _))
  | atMost =>
    refine List.perm_iff_count.2 fun name => ?_
    have hcounts : ∀ count, names.count name ≤ count ↔ names'.count name ≤ count := by
      intro count
      rw [← atMost_singleField, ← atMost_singleField]
      exact hpasses _ _ ⟨.none, .none, .none, .none, .some ⟨rfl, hsame, hlike⟩, .none⟩ name
    exact Nat.le_antisymm ((hcounts _).2 (Nat.le_refl _)) ((hcounts _).1 (Nat.le_refl _))
  | exactly =>
    refine List.perm_iff_count.2 fun name => ?_
    have hcount : names.count name = names.count name ↔ names'.count name = names.count name := by
      rw [← exactly_singleField, ← exactly_singleField]
      exact hpasses _ _ ⟨.none, .none, .none, .none, .none, .some ⟨rfl, hsame, hlike⟩⟩ name
    exact (hcount.1 rfl).symm
  | _ => trivial

/-! ## How alike the lists have to be -/

section Alike

variable {like like' : Check → List String → List String → Prop} {a b : PresenceOptions}

theorem rel_imp {α : Type} {r r' : α → α → Prop} {x y : Option α} (h : Option.Rel r x y)
    (himp : ∀ c ∈ x, ∀ d ∈ y, r c d → r' c d) : Option.Rel r' x y := by
  cases h with
  | none => exact .none
  | some h => exact .some (himp _ rfl _ rfl h)

theorem Alike.mono (h : Alike like a b)
    (himp : ∀ check names names', like check names names' → like' check names names') : Alike like' a b where
  atLeastOne := rel_imp h.atLeastOne fun _ _ _ _ => himp _ _ _
  atMostOne := rel_imp h.atMostOne fun _ _ _ _ => himp _ _ _
  exactlyOne := rel_imp h.exactlyOne fun _ _ _ _ => himp _ _ _
  atLeast := rel_imp h.atLeast fun _ _ _ _ => And.imp_right (himp _ _ _)
  atMost := rel_imp h.atMost fun _ _ _ _ => And.imp_right (himp _ _ _)
  exactly := rel_imp h.exactly fun _ _ _ _ => And.imp_right (himp _ _ _)

theorem seenAlike_of_nodup (check : Check) {names names' : List String} (hsame : SameNames names names')
    (hn : names.Nodup) (hn' : names'.Nodup) : SeenAlike check names names' := by
  have hrepeats : SameRepeats names names' := fun name =>
    iff_of_true (List.nodup_iff_count.1 hn name) (List.nodup_iff_count.1 hn' name)
  have hperm : names.Perm names' := (List.perm_ext_iff_of_nodup hn hn').2 hsame
  cases check with
  | atMostOne | exactlyOne => exact hrepeats
  | atLeast | atMost | exactly => exact hperm
  | _ => trivial

/-- Lists without repetitions are alike as soon as they have the same names. -/
theorem Alike.seenAlike_of_noRepeats (h : Alike (fun _ => SameNames) a b) (ha : a.NoRepeats)
    (hb : b.NoRepeats) :
    Alike (fun check names names' => SameNames names names' ∧ SeenAlike check names names') a b := by
  have hlist : ∀ check (names names' : List String), names.Nodup → names'.Nodup → SameNames names names' →
      SameNames names names' ∧ SeenAlike check names names' :=
    fun check _ _ hn hn' hsame => ⟨hsame, seenAlike_of_nodup check hsame hn hn'⟩
  simp only [noRepeats_iff, slots, List.forall_mem_cons, Option.map_eq_some_iff] at ha hb
  obtain ⟨ha1, ha2, ha3, ha4, ha5, ha6, -⟩ := ha
  obtain ⟨hb1, hb2, hb3, hb4, hb5, hb6, -⟩ := hb
  exact
    { atLeastOne := rel_imp h.atLeastOne fun c hc d hd =>
        hlist _ c d (ha1 (one c) ⟨c, hc, rfl⟩) (hb1 (one d) ⟨d, hd, rfl⟩)
      atMostOne := rel_imp h.atMostOne fun c hc d hd =>
        hlist _ c d (ha2 (one c) ⟨c, hc, rfl⟩) (hb2 (one d) ⟨d, hd, rfl⟩)
      exactlyOne := rel_imp h.exactlyOne fun c hc d hd =>
        hlist _ c d (ha3 (one c) ⟨c, hc, rfl⟩) (hb3 (one d) ⟨d, hd, rfl⟩)
      atLeast := rel_imp h.atLeast fun c hc d hd => And.imp_right (hlist _ _ _ (ha4 c hc) (hb4 d hd))
      atMost := rel_imp h.atMost fun c hc d hd => And.imp_right (hlist _ _ _ (ha5 c hc) (hb5 d hd))
      exactly := rel_imp h.exactly fun c hc d hd => And.imp_right (hlist _ _ _ (ha6 c hc) (hb6 d hd)) }

end Alike

/-- **What presence rules see of their lists.** Take any likeness of lists, which may differ from rule to
    rule. All options whose lists have the same names and are alike give the same verdict on every object
    exactly if the likeness tells lists apart that `SeenAlike` tells apart. It is enough, in particular,
    that no rule repeats a name: then only the names of its list matter. -/
theorem checkObject_eq_iff_seenAlike (like : Check → List String → List String → Prop) :
    ((∀ a b, Alike (fun check names names' => SameNames names names' ∧ like check names names') a b →
        ∀ bindings shape fields, a.checkObject bindings shape fields = b.checkObject bindings shape fields) ↔
      ∀ check names names', SameNames names names' → like check names names' → SeenAlike check names names') ∧
    ∀ a b, Alike (fun _ => SameNames) a b → a.NoRepeats → b.NoRepeats →
      ∀ bindings shape fields, a.checkObject bindings shape fields = b.checkObject bindings shape fields := by
  refine ⟨⟨fun h check names names' => ?_, fun h a b hab bindings shape fields => ?_⟩,
    fun a b hab ha hb bindings shape fields => ?_⟩
  · exact seenAlike_of_interchangeable h
  · refine checkObject_eq_of_alike (hab.mono fun check names names' hl => ?_)
    exact ⟨hl.1, h check names names' hl.1 hl.2⟩
  · exact checkObject_eq_of_alike (hab.seenAlike_of_noRepeats ha hb)

/-- A name that is listed twice counts twice: one set field is too many for `atMostOne`. -/
theorem checkObject_repeated_name :
    Alike (fun _ => SameNames) { atMostOne := some ["a"] } { atMostOne := some ["a", "a"] } ∧
    checkObject { atMostOne := some ["a"] } [] .input [("a", .int 1)] = none ∧
    checkObject { atMostOne := some ["a", "a"] } [] .input [("a", .int 1)] = some .atMostOne := by
  refine ⟨⟨.none, .some fun name => ?_, .none, .none, .none, .none⟩, by decide, by decide⟩
  simp

end PresenceOptions

end SchemaConstraints
