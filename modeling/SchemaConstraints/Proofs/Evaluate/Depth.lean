import SchemaConstraints.Proofs.Evaluate.Acyclic

set_option autoImplicit false

/-! # How deep values nest along bindings

Replacing a variable makes a value larger, by as much as the variable is bound to, so neither the size of a
value nor its height bounds how deep evaluation goes into it. What does is that on acyclic bindings no
variable is met twice on the way down: the height of the value and the heights of all bound values together
are enough (`nestsWithin_depthBound`). The induction drops the variables that have been passed from the
bindings, and the heights that are left go down with each step. -/

namespace SchemaConstraints

namespace Value

/-! ## Heights -/

mutual

/-- The number of values that stand one inside the other, with variables left as they are. -/
def height : Value → Nat
  | .enum _ repr => height repr + 1
  | .list items => heightOfItems items + 1
  | .object _ fields => heightOfFields fields + 1
  | _ => 1

/-- The greatest height among the items of a list. -/
def heightOfItems : List Value → Nat
  | [] => 0
  | item :: items => max (height item) (heightOfItems items)

/-- The greatest height among the fields of an object. -/
def heightOfFields : List (String × Value) → Nat
  | [] => 0
  | (_, value) :: fields => max (height value) (heightOfFields fields)

end

theorem height_pos (value : Value) : 0 < value.height := by
  cases value <;> simp [height]

theorem height_le_of_mem {items : List Value} {item : Value} (h : item ∈ items) :
    item.height ≤ heightOfItems items := by
  induction items with
  | nil => simp at h
  | cons other items ih =>
    rw [heightOfItems]
    rcases List.mem_cons.1 h with rfl | h
    · exact Nat.le_max_left _ _
    · exact Nat.le_trans (ih h) (Nat.le_max_right _ _)

theorem height_le_of_mem_fields {fields : List (String × Value)} {field : String × Value} (h : field ∈ fields) :
    field.2.height ≤ heightOfFields fields := by
  induction fields with
  | nil => simp at h
  | cons other fields ih =>
    rw [heightOfFields]
    rcases List.mem_cons.1 h with rfl | h
    · exact Nat.le_max_left _ _
    · exact Nat.le_trans (ih h) (Nat.le_max_right _ _)

theorem height_lt_of_mem_parts {value part : Value} (h : part ∈ value.parts) : part.height < value.height := by
  cases value with
  | enum name repr =>
    obtain rfl := List.mem_singleton.1 h
    exact Nat.lt_succ_self _
  | list items => exact Nat.lt_succ_of_le (height_le_of_mem h)
  | object shape fields =>
    obtain ⟨field, hfield, rfl⟩ := List.mem_map.1 h
    exact Nat.lt_succ_of_le (height_le_of_mem_fields hfield)
  | _ => simp [parts] at h

end Value

namespace Bindings

/-- The heights of all bound values together. -/
def height : Bindings → Nat
  | [] => 0
  | (_, value) :: bindings => value.height + height bindings

theorem height_le_of_sublist {inner bindings : Bindings} (h : inner.Sublist bindings) :
    height inner ≤ height bindings := by
  induction h with
  | slnil => exact Nat.le_refl _
  | cons entry _ ih => exact Nat.le_trans ih (Nat.le_add_left _ _)
  | cons_cons entry _ ih => exact Nat.add_le_add_left ih _

/-- Leaving a variable out takes the height of its value away. -/
theorem height_erase_add_le {bindings : Bindings} {name : String} {value : Value}
    (h : Fields.find? name bindings = some value) :
    value.height + height (Fields.erase name bindings) ≤ bindings.height := by
  induction bindings with
  | nil => simp at h
  | cons entry rest ih =>
    obtain ⟨key, other⟩ := entry
    by_cases hkey : key = name
    · subst hkey
      obtain rfl : other = value := by simpa [Fields.find?] using h
      have hrest : height (Fields.erase key rest) ≤ height rest := height_le_of_sublist List.filter_sublist
      simpa [height, Fields.erase] using hrest
    · have hrest := ih (by simpa [Fields.find?, hkey] using h)
      simp only [height, Fields.erase, List.filter_cons, bne_iff_ne, ne_eq, hkey, not_false_eq_true, if_true]
        at hrest ⊢
      omega

end Bindings

namespace Value

/-! ## Nesting along bindings -/

/-- Going from a value to the parts of what it resolves to ends after at most so many values. -/
inductive NestsWithin (bindings : Bindings) : Nat → Value → Prop
  | of_parts {depth : Nat} {value : Value} (h : ∀ part ∈ (value.resolve bindings).parts, NestsWithin bindings depth part) :
    NestsWithin bindings (depth + 1) value

/-- Enough depth for a value: its height and the heights of all values that variables are bound to. -/
def depthBound (bindings : Bindings) (value : Value) : Nat := value.height + bindings.height

variable {bindings : Bindings} {value : Value}

theorem NestsWithin.mono {depth more : Nat} (h : NestsWithin bindings depth value) (hle : depth ≤ more) :
    NestsWithin bindings more value := by
  induction h generalizing more with
  | of_parts _ ih =>
    obtain ⟨more, rfl⟩ := Nat.exists_eq_succ_of_ne_zero (Nat.ne_of_gt (Nat.lt_of_lt_of_le (Nat.succ_pos _) hle))
    exact .of_parts fun part hpart => ih part hpart (Nat.le_of_succ_le_succ hle)

section

variable (h : bindings.Acyclic)
include h

/-- No value contains itself, whether directly or through variables. -/
theorem wellFounded_parts_resolve : WellFounded fun part value : Value => part ∈ (value.resolve bindings).parts :=
  ⟨fun value => induction_of_acyclic h (P := Acc _) (fun value ih => .intro value ih) value⟩

/-- `inner` holds what is left of the bindings below the variables that have been passed. -/
theorem nestsWithin_of_agree (value : Value) (inner : Bindings)
    (hagree : ∀ name, bindings.Reaches value.variableNames name →
      Fields.find? name inner = Fields.find? name bindings) :
    NestsWithin bindings (value.height + inner.height) value := by
  revert inner
  refine induction_of_acyclic h (P := fun value => ∀ inner : Bindings,
    (∀ name, bindings.Reaches value.variableNames name → Fields.find? name inner = Fields.find? name bindings) →
    NestsWithin bindings (value.height + inner.height) value) (fun value ih inner hagree => ?_) value
  -- it is enough to go one value less deep into the parts
  obtain ⟨depth, hdepth⟩ := Nat.exists_eq_succ_of_ne_zero (Nat.ne_of_gt value.height_pos)
  rw [hdepth, Nat.succ_add]
  refine .of_parts fun part hpart => ?_
  by_cases hvariable : ∃ name, value = .variable name
  · obtain ⟨name, rfl⟩ := hvariable
    have hinner := hagree name ⟨name, by simp [variableNames], .refl⟩
    cases hfind : Fields.find? name bindings with
    | none => simp [resolve, hfind, parts] at hpart
    | some bound =>
      have hbound : part ∈ bound.parts := by simpa [resolve, hfind] using hpart
      have hpasses := ih part hpart (Fields.erase name inner) fun other hreach => by
        have hother := (reaches_of_mem_parts hbound hreach).of_bound h hfind
        rw [Fields.find?_erase_of_ne hother.1, hagree other hother.2]
      have hlt : part.height < bound.height := height_lt_of_mem_parts hbound
      have hleft : bound.height + Bindings.height (Fields.erase name inner) ≤ inner.height :=
        Bindings.height_erase_add_le (hinner.trans hfind)
      exact hpasses.mono (by omega)
  · have hresolve : value.resolve bindings = value := resolve_eq_self hvariable
    rw [hresolve] at hpart
    have hpasses := ih part (hresolve.symm ▸ hpart) inner fun other hreach =>
      hagree other (reaches_of_mem_parts hpart hreach)
    have hlt : part.height < value.height := height_lt_of_mem_parts hpart
    exact hpasses.mono (by omega)

theorem nestsWithin_depthBound (value : Value) : NestsWithin bindings (value.depthBound bindings) value :=
  nestsWithin_of_agree h value bindings fun _ _ => rfl

end

end Value

end SchemaConstraints
