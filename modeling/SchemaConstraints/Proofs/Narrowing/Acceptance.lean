import SchemaConstraints.Narrowing
import SchemaConstraints.Proofs.Evaluate.Leaves
import SchemaConstraints.Proofs.Number.Order

set_option autoImplicit false

/-! # Narrower options accept less

Whatever scalar, list or upload options accept is accepted by all options that they narrow. The argument
goes axis by axis: `all_of_narrowsAxis` turns the comparison of one axis into an implication between the
two checks of that axis, once the comparison is known to carry acceptance from one setting to the other.
The axes of a leaf are put together at the leaf, and `Value.checkLeaves_eq_none_iff` and an induction on
levels carry the result to whole values. -/

namespace SchemaConstraints

/-! ## One axis -/

/-- If the comparison of an axis carries acceptance from the stricter setting to the laxer one, then so
    does the comparison of two options on that axis. -/
theorem all_of_narrowsAxis {α : Type} {stricter : α → α → Bool} {accepts : α → Bool}
    {n w : Option α} (h : narrowsAxis stricter n w = true)
    (hmono : ∀ a b, stricter a b = true → accepts a = true → accepts b = true)
    (hn : n.all accepts = true) : w.all accepts = true := by
  cases w with
  | none => rfl
  | some b =>
    cases n with
    | none => simp [narrowsAxis] at h
    | some a => exact hmono a b h hn

/-- What keeps a lower bound keeps every bound that lies below. -/
theorem all_of_narrowsAxis_lower {x : Nat} {n w : Option Nat}
    (h : narrowsAxis (fun n w => decide (w ≤ n)) n w = true)
    (hn : n.all (fun min => decide (min ≤ x)) = true) : w.all (fun min => decide (min ≤ x)) = true := by
  refine all_of_narrowsAxis h (fun a b hba ha => ?_) hn
  rw [decide_eq_true_eq] at hba ha ⊢
  exact Nat.le_trans hba ha

/-- What keeps an upper bound keeps every bound that lies above. -/
theorem all_of_narrowsAxis_upper {x : Nat} {n w : Option Nat}
    (h : narrowsAxis (fun n w => decide (n ≤ w)) n w = true)
    (hn : n.all (fun max => decide (x ≤ max)) = true) : w.all (fun max => decide (x ≤ max)) = true := by
  refine all_of_narrowsAxis h (fun a b hab ha => ?_) hn
  rw [decide_eq_true_eq] at hab ha ⊢
  exact Nat.le_trans ha hab

/-- A member of a list that satisfies a property has an equal in every list that contains it. -/
theorem any_of_isSubset {α : Type} {equals : α → α → Bool} {accepts : α → Bool} {small large : List α}
    (h : isSubset equals small large = true)
    (hequals : ∀ a b, equals b a = true → accepts a = true → accepts b = true)
    (hs : small.any accepts = true) : large.any accepts = true := by
  obtain ⟨a, ha, hacc⟩ := List.any_eq_true.1 hs
  obtain ⟨b, hb, hba⟩ := List.any_eq_true.1 (List.all_eq_true.1 h a ha)
  exact List.any_eq_true.2 ⟨b, hb, hequals a b hba hacc⟩

/-! ## Scalar options -/

/-- A value that matches a scalar matches all scalars that equal it. -/
theorem Scalar.matchesValue_of_equals {s t : Scalar} {value : Value} (hts : t.equals s = true)
    (hs : s.matchesValue value = true) : t.matchesValue value = true := by
  unfold matchesValue at *
  cases s <;> cases t <;> simp only [equals, Bool.false_eq_true] at hts
  case bool.bool => simp_all
  case int.int => simp_all
  case string.string => simp_all
  case float.float x y =>
    cases hv : value.underlying <;> simp only [hv, Bool.false_eq_true] at hs ⊢
    exact Binary64.numEq_trans hts hs

namespace ScalarOptions

theorem narrows_iff {n w : ScalarOptions} :
    n.narrows w = true ↔
      narrowsAxis (fun n w => Number.atMost w n) n.min w.min = true ∧
      narrowsAxis (fun n w => Number.atMost n w) n.max w.max = true ∧
      narrowsAxis (isSubset Scalar.equals) n.oneOf w.oneOf = true ∧
      narrowsAxis (fun n w => decide (w ≤ n)) n.minLength w.minLength = true ∧
      narrowsAxis (fun n w => decide (n ≤ w)) n.maxLength w.maxLength = true ∧
      narrowsAxis (fun n w => decide (n = w)) n.regex w.regex = true := by
  simp only [narrows, Bool.and_eq_true, and_assoc]

variable {n w : ScalarOptions}

theorem checkNumber_of_narrows (h : n.narrows w = true) {x : Number} (hn : n.checkNumber x = none) :
    w.checkNumber x = none := by
  obtain ⟨hmin, hmax, -⟩ := narrows_iff.1 h
  simp only [checkNumber, Option.or_eq_none_iff, Check.require_eq_none_iff] at hn ⊢
  refine ⟨all_of_narrowsAxis hmin (fun a b hba ha => ?_) hn.1,
    all_of_narrowsAxis hmax (fun a b hab ha => ?_) hn.2⟩
  · -- a number below the laxer bound would lie below the stricter one
    rw [Bool.not_eq_true', ← Bool.not_eq_true] at ha ⊢
    exact fun hxb => ha (Number.less_of_less_of_atMost hxb hba)
  · rw [Bool.not_eq_true', ← Bool.not_eq_true] at ha ⊢
    exact fun hbx => ha (Number.less_of_atMost_of_less hab hbx)

theorem checkString_of_narrows (h : n.narrows w = true) {s : String} (hn : n.checkString s = none) :
    w.checkString s = none := by
  obtain ⟨-, -, -, hmin, hmax, hregex⟩ := narrows_iff.1 h
  simp only [checkString, Option.or_eq_none_iff, Check.require_eq_none_iff] at hn ⊢
  refine ⟨⟨all_of_narrowsAxis_lower hmin hn.1.1, all_of_narrowsAxis_upper hmax hn.1.2⟩,
    all_of_narrowsAxis hregex (fun a b hab ha => ?_) hn.2⟩
  rwa [← of_decide_eq_true hab]

theorem checkOneOf_of_narrows (h : n.narrows w = true) {value : Value} (hn : n.checkOneOf value = none) :
    w.checkOneOf value = none := by
  obtain ⟨-, -, honeOf, -⟩ := narrows_iff.1 h
  rw [checkOneOf, Check.require_eq_none_iff] at hn ⊢
  exact all_of_narrowsAxis honeOf
    (fun a b hab ha => any_of_isSubset hab (fun _ _ => Scalar.matchesValue_of_equals) ha) hn

theorem checkKind_of_narrows (h : n.narrows w = true) {value : Value} (hn : n.checkKind value = none) :
    w.checkKind value = none := by
  cases value with
  | int i => exact checkNumber_of_narrows h hn
  | float x => exact checkNumber_of_narrows h hn
  | string s => exact checkString_of_narrows h hn
  | _ => rfl

theorem checkLeaf_of_narrows (h : n.narrows w = true) {value : Value} (hn : n.checkLeaf value = none) :
    w.checkLeaf value = none := by
  cases value with
  | null => rfl
  | _ =>
    simp only [checkLeaf, Option.or_eq_none_iff] at hn ⊢
    exact ⟨checkKind_of_narrows h hn.1, checkOneOf_of_narrows h hn.2⟩

/-- Scalar options accept whatever options that narrow them accept. -/
theorem verdict_of_narrows (h : n.narrows w = true) {bindings : Bindings} {value : Value}
    (hn : n.verdict bindings value = none) : w.verdict bindings value = none := by
  rw [verdict, Value.checkLeaves_eq_none_iff] at hn ⊢
  exact fun leaf hleaf => checkLeaf_of_narrows h (hn leaf hleaf)

end ScalarOptions

/-! ## Upload options -/

namespace UploadOptions

variable {n w : UploadOptions}

theorem checkFile_of_narrows (h : n.narrows w = true) {file : UploadedFile} (hn : n.checkFile file = none) :
    w.checkFile file = none := by
  rw [narrows, Bool.and_eq_true] at h
  simp only [checkFile, Option.or_eq_none_iff, Check.require_eq_none_iff] at hn ⊢
  refine ⟨all_of_narrowsAxis_upper h.1 hn.1, all_of_narrowsAxis h.2 (fun a b hab ha => ?_) hn.2⟩
  rw [List.contains_eq_any_beq] at ha ⊢
  refine any_of_isSubset hab (fun c d hdc hc => ?_) ha
  rwa [eq_of_beq hdc]

/-- Upload options accept whatever options that narrow them accept. -/
theorem verdict_of_narrows (h : n.narrows w = true) {bindings : Bindings} {value : Value}
    (hn : n.verdict bindings value = none) : w.verdict bindings value = none := by
  rw [verdict, Value.checkLeaves_eq_none_iff] at hn ⊢
  intro leaf hleaf
  specialize hn leaf hleaf
  cases leaf with
  | upload file => exact checkFile_of_narrows h hn
  | _ => rfl

end UploadOptions

/-! ## List options -/

theorem ListLevel.check_of_narrows {n w : ListLevel} (h : n.narrows w = true) {bindings : Bindings}
    {items : List Value} (hn : n.check bindings items = none) : w.check bindings items = none := by
  simp only [narrows, Bool.and_eq_true] at h
  obtain ⟨⟨hmin, hmax⟩, hunique⟩ := h
  simp only [check, Option.or_eq_none_iff, Check.require_eq_none_iff] at hn ⊢
  refine ⟨⟨all_of_narrowsAxis_lower hmin hn.1.1, all_of_narrowsAxis_upper hmax hn.1.2⟩, ?_⟩
  cases hw : w.unique with
  | false => rfl
  | true =>
    have hn' : n.unique = true := by simpa [hw] using hunique
    simpa [hw, hn'] using hn.2

namespace ListOptions

/-- Level by level; the wider options run out of levels first. -/
theorem checkLevels_of_levelsNarrow {ns ws : List ListLevel} (h : levelsNarrow ns ws = true)
    {bindings : Bindings} {value : Value} (hn : checkLevels bindings ns value = none) :
    checkLevels bindings ws value = none := by
  induction ws generalizing ns value with
  | nil => rfl
  | cons w ws ih =>
    cases ns with
    | nil => simp [levelsNarrow] at h
    | cons n ns =>
      rw [levelsNarrow, Bool.and_eq_true] at h
      rw [checkLevels] at hn ⊢
      split
      · next items hitems =>
        simp only [hitems, Option.or_eq_none_iff, List.findSome?_eq_none_iff] at hn ⊢
        exact ⟨ListLevel.check_of_narrows h.1 hn.1, fun item hitem => ih h.2 (hn.2 item hitem)⟩
      · rfl

/-- List options accept whatever options that narrow them accept. -/
theorem verdict_of_narrows {n w : ListOptions} (h : n.narrows w = true) {bindings : Bindings} {value : Value}
    (hn : n.verdict bindings value = none) : w.verdict bindings value = none :=
  checkLevels_of_levelsNarrow h hn

end ListOptions

/-! ## Constraints -/

namespace Constraint

variable {n w : Constraint}

/-- A constraint accepts whatever constraints that narrow it accept, provided that presence options do. -/
theorem verdict_of_narrows_of_object (h : n.narrows w = true) {bindings : Bindings} {value : Value}
    (hobject : ∀ n' w', n = .object n' → w = .object w' → n'.narrows w' = true →
      n'.verdict bindings value = none → w'.verdict bindings value = none)
    (hn : n.verdict bindings value = none) : w.verdict bindings value = none := by
  cases n <;> cases w <;> simp only [narrows, Bool.false_eq_true] at h
  case scalar.scalar => exact ScalarOptions.verdict_of_narrows h hn
  case list.list => exact ListOptions.verdict_of_narrows h hn
  case object.object n' w' => exact hobject n' w' rfl rfl h hn
  case upload.upload => exact UploadOptions.verdict_of_narrows h hn

/-- **Narrowing keeps acceptance.** If a scalar, list or upload constraint narrows another, every value that
    it accepts is accepted by the other one, whatever the variables are bound to. -/
theorem accepted_of_narrows (hfamily : n.family ≠ .object) (h : n.narrows w = true) (bindings : Bindings)
    (value : Value) (hn : n.verdict bindings value = none) : w.verdict bindings value = none := by
  refine verdict_of_narrows_of_object h (fun n' w' hn' _ _ _ => ?_) hn
  rw [hn'] at hfamily
  exact absurd rfl hfamily

/-- An integer bound against a floating-point one, on an enum value, a null and the list of a variable. -/
theorem accepted_of_integer_bound :
    (Constraint.scalar { min := some (.int 3) }).narrows (.scalar { min := some (.float .one) }) = true ∧
    (Constraint.scalar { min := some (.int 3) }).verdict [("x", .list [.int 7, .null])]
      (.list [.enum "THREE" (.int 3), .variable "x"]) = none ∧
    (Constraint.scalar { min := some (.float .one) }).verdict [("x", .list [.int 7, .null])]
      (.list [.enum "THREE" (.int 3), .variable "x"]) = none := by
  have hnarrows : (Constraint.scalar { min := some (.int 3) }).narrows
      (.scalar { min := some (.float .one) }) = true := by decide +kernel
  have hleaves : Value.leaves [("x", .list [.int 7, .null])] (.list [.enum "THREE" (.int 3), .variable "x"]) =
      [.enum "THREE" (.int 3), .int 7, .null] := by
    simp [Value.leaves_eq_view, Value.leavesOfItems, Value.view, Fields.find?, Fields.erase]
  have haccepts : (Constraint.scalar { min := some (.int 3) }).verdict [("x", .list [.int 7, .null])]
      (.list [.enum "THREE" (.int 3), .variable "x"]) = none := by
    rw [Constraint.verdict, ScalarOptions.verdict, Value.checkLeaves_eq_none_iff, hleaves]
    decide +kernel
  exact ⟨hnarrows, haccepts, accepted_of_narrows (by decide) hnarrows _ _ haccepts⟩

end Constraint

end SchemaConstraints
