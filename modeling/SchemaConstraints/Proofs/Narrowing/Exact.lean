import Mathlib.Data.String.Lemmas
import SchemaConstraints.Proofs.Evaluate.Scalar
import SchemaConstraints.Proofs.Narrowing.Preorder

set_option autoImplicit false

/-! # Narrowing on one axis is exact

Narrowing judges axis by axis. Where two constraints set one axis and the same one, its judgment is exact:
a constraint narrows the other if and only if it accepts nothing that the other rejects. That narrowing
keeps acceptance is known, so what is left is a value for every way in which a setting can be laxer than
another one. It is the setting itself that gives the value: the bound as a number, an allowed value that
the other list does not have, a string or a list of the allowed length, a file of the allowed size.

The axes of a list constraint may stand below any number of levels that demand nothing. The value then lies
inside as many lists of one item. -/

namespace SchemaConstraints

/-! ## Values for scalar options -/

namespace Number

theorem less_self (a : Number) : a.less a = false := by
  rw [← Bool.not_eq_true, less_iff]
  rintro ⟨p, q, hp, hq, hlt⟩
  obtain rfl : p = q := Option.some.inj (hp.symm.trans hq)
  exact lt_irrefl p hlt

/-- Of two numbers that are not NaN, one is below the other if it is not at least as great. -/
theorem less_of_atMost_eq_false {a b : Number} (ha : a.isNaN = false) (hb : b.isNaN = false)
    (h : a.atMost b = false) : b.less a = true := by
  have ⟨p, hp⟩ := isNaN_eq_false_iff.1 ha
  have ⟨q, hq⟩ := isNaN_eq_false_iff.1 hb
  rw [← Bool.not_eq_false, ← atMost_iff_not_less hp hq, h]
  simp

end Number

/-- A list that is not contained in another one has a member without an equal in it. -/
theorem exists_of_isSubset_eq_false {α : Type} {equals : α → α → Bool} {small large : List α}
    (h : isSubset equals small large = false) : ∃ item ∈ small, large.any (equals · item) = false := by
  obtain ⟨item, hitem, hnone⟩ := List.all_eq_false.1 h
  exact ⟨item, hitem, Bool.not_eq_true _ ▸ hnone⟩

namespace ScalarOptions

variable (bindings : Bindings)

theorem verdict_min (min n : Number) :
    verdict { min := some min } bindings (Scalar.ofNumber n).toValue = Check.require .min (!n.less min) := by
  rw [verdict_toValue]
  cases n <;> simp [Scalar.ofNumber, Scalar.toValue, checkKind, checkNumber, checkOneOf, Check.require]

theorem verdict_max (max n : Number) :
    verdict { max := some max } bindings (Scalar.ofNumber n).toValue = Check.require .max (!max.less n) := by
  rw [verdict_toValue]
  cases n <;> simp [Scalar.ofNumber, Scalar.toValue, checkKind, checkNumber, checkOneOf, Check.require]

theorem verdict_oneOf (allowed : List Scalar) (s : Scalar) :
    verdict { oneOf := some allowed } bindings s.toValue = Check.require .oneOf (allowed.any (·.equals s)) := by
  have hkind : checkKind { oneOf := some allowed } s.toValue = none := by cases s <;> rfl
  rw [verdict_toValue, hkind, Option.none_or, checkOneOf]
  simp only [Option.all_some, Scalar.matchesValue_toValue]

theorem verdict_minLength (min : Nat) (text : String) :
    verdict { minLength := some min } bindings (.string text) =
      Check.require .minLength (decide (min ≤ text.length)) := by
  refine (verdict_toValue _ bindings (.string text)).trans ?_
  simp [Scalar.toValue, checkKind, checkString, checkOneOf, Check.require]

theorem verdict_maxLength (max : Nat) (text : String) :
    verdict { maxLength := some max } bindings (.string text) =
      Check.require .maxLength (decide (text.length ≤ max)) := by
  refine (verdict_toValue _ bindings (.string text)).trans ?_
  simp [Scalar.toValue, checkKind, checkString, checkOneOf, Check.require]

end ScalarOptions

/-! ## Values for list options -/

namespace ListOptions

/-- A level below a number of levels that demand nothing. -/
def under : Nat → ListLevel → ListOptions
  | 0, level => nest level none
  | k + 1, level => nest {} (some (under k level))

theorem narrows_under (k : Nat) (a b : ListLevel) : (under k a).narrows (under k b) = a.narrows b := by
  induction k with
  | zero => simp [under, nest, narrows, levels, levelsNarrow]
  | succ k ih =>
    have hempty : ListLevel.narrows {} {} = true := rfl
    change (ListLevel.narrows {} {} && (under k a).narrows (under k b)) = a.narrows b
    rw [hempty, ih, Bool.true_and]

end ListOptions

/-- A value inside a number of lists of one item. -/
def Value.inLists : Nat → Value → Value
  | 0, value => value
  | k + 1, value => .list [inLists k value]

/-- Levels that demand nothing hand the one item on. -/
theorem ListOptions.verdict_under (bindings : Bindings) (k : Nat) (level : ListLevel) (items : List Value) :
    (under k level).verdict bindings (.inLists k (.list items)) = level.check bindings items := by
  induction k with
  | zero =>
    have hbelow : items.findSome? (checkLevels bindings []) = none :=
      List.findSome?_eq_none_iff.2 fun _ _ => rfl
    change (level.check bindings items).or (items.findSome? (checkLevels bindings [])) = _
    rw [hbelow, Option.or_none]
  | succ k ih =>
    have hempty : ListLevel.check {} bindings [.inLists k (.list items)] = none := by
      simp [ListLevel.check]
    change (ListLevel.check {} bindings [.inLists k (.list items)]).or
      ([Value.inLists k (.list items)].findSome? ((under k level).verdict bindings)) = _
    rw [hempty, List.findSome?_singleton, ih, Option.none_or]

namespace ListLevel

variable (bindings : Bindings) (items : List Value)

theorem check_minItems (min : Nat) :
    check { minItems := some min } bindings items = Check.require .minItems (decide (min ≤ items.length)) := by
  simp [check, Check.require]

theorem check_maxItems (max : Nat) :
    check { maxItems := some max } bindings items = Check.require .maxItems (decide (items.length ≤ max)) := by
  simp [check, Check.require]

/-- Two nulls are duplicates. -/
theorem check_unique_nulls (unique : Bool) :
    check { unique := unique } bindings [.null, .null] = Check.require .unique (!unique) := by
  cases unique <;>
    simp [check, Check.require, Identity.ofItems, Identity.ofValue, Identity.allDistinct]

end ListLevel

/-! ## Values for upload options -/

namespace UploadOptions

variable (bindings : Bindings) (file : UploadedFile)

theorem verdict_upload (options : UploadOptions) :
    options.verdict bindings (.upload file) = options.checkFile file := by
  rw [verdict, Value.checkLeaves_eq_view]
  rfl

theorem verdict_maxSize (max : Nat) :
    verdict { maxSize := some max } bindings (.upload file) = Check.require .maxSize (decide (file.size ≤ max)) := by
  simp [verdict_upload, checkFile, Check.require]

theorem verdict_mimeTypes (allowed : List String) :
    verdict { mimeTypes := some allowed } bindings (.upload file) =
      Check.require .mimeType (allowed.contains file.mimeType) := by
  simp [verdict_upload, checkFile, Check.require]

end UploadOptions

/-! ## One axis -/

namespace Constraint

/-- Two constraints that set one axis and the same one, which goes by the name of its check, and nothing
    else. The axes of a list constraint may stand below levels that demand nothing, as many on both sides. -/
inductive SetOneAxis : Check → Constraint → Constraint → Prop
  | min {a b : Number} (ha : a.isNaN = false) (hb : b.isNaN = false) :
    SetOneAxis .min (.scalar { min := some a }) (.scalar { min := some b })
  | max {a b : Number} (ha : a.isNaN = false) (hb : b.isNaN = false) :
    SetOneAxis .max (.scalar { max := some a }) (.scalar { max := some b })
  /-- NaN among the allowed values allows nothing, and yet no list contains it. -/
  | oneOf {as : List Scalar} (bs : List Scalar) (ha : ∀ s ∈ as, s.isNaN = false) :
    SetOneAxis .oneOf (.scalar { oneOf := some as }) (.scalar { oneOf := some bs })
  | minLength (a b : Nat) : SetOneAxis .minLength (.scalar { minLength := some a }) (.scalar { minLength := some b })
  | maxLength (a b : Nat) : SetOneAxis .maxLength (.scalar { maxLength := some a }) (.scalar { maxLength := some b })
  | minItems (k a b : Nat) :
    SetOneAxis .minItems (.list (.under k { minItems := some a })) (.list (.under k { minItems := some b }))
  | maxItems (k a b : Nat) :
    SetOneAxis .maxItems (.list (.under k { maxItems := some a })) (.list (.under k { maxItems := some b }))
  /-- The flag is always set, to one or the other. -/
  | unique (k : Nat) (a b : Bool) :
    SetOneAxis .unique (.list (.under k { unique := a })) (.list (.under k { unique := b }))
  | maxSize (a b : Nat) : SetOneAxis .maxSize (.upload { maxSize := some a }) (.upload { maxSize := some b })
  | mimeType (as bs : List String) :
    SetOneAxis .mimeType (.upload { mimeTypes := some as }) (.upload { mimeTypes := some bs })

/-- A value that one constraint accepts and on which the other fails a check. -/
def Separates (check : Check) (n w : Constraint) (value : Value) : Prop :=
  n.verdict [] value = none ∧ w.verdict [] value = some check

/-! ## What separates a setting from one that is not as lax -/

section Separates

variable {n w : Constraint} {check : Check} {value : Value}

/-- Where the verdict of either constraint on a value is one condition, the value separates them if the first
    condition holds and the second does not. -/
theorem separates_of_require {p q : Bool} (hn : n.verdict [] value = check.require p)
    (hw : w.verdict [] value = check.require q) (hp : p = true) (hq : q = false) : Separates check n w value := by
  subst hp hq
  exact ⟨hn, hw⟩

theorem separates_min {a b : Number} (h : a.less b = true) :
    Separates .min (.scalar { min := some a }) (.scalar { min := some b }) (Scalar.ofNumber a).toValue := by
  refine separates_of_require (ScalarOptions.verdict_min [] a a) (ScalarOptions.verdict_min [] b a) ?_ ?_
  · rw [Number.less_self, Bool.not_false]
  · rw [h, Bool.not_true]

theorem separates_max {a b : Number} (h : b.less a = true) :
    Separates .max (.scalar { max := some a }) (.scalar { max := some b }) (Scalar.ofNumber a).toValue := by
  refine separates_of_require (ScalarOptions.verdict_max [] a a) (ScalarOptions.verdict_max [] b a) ?_ ?_
  · rw [Number.less_self, Bool.not_false]
  · rw [h, Bool.not_true]

theorem separates_oneOf {as bs : List Scalar} {s : Scalar} (ha : as.any (·.equals s) = true)
    (hb : bs.any (·.equals s) = false) :
    Separates .oneOf (.scalar { oneOf := some as }) (.scalar { oneOf := some bs }) s.toValue :=
  separates_of_require (ScalarOptions.verdict_oneOf [] as s) (ScalarOptions.verdict_oneOf [] bs s) ha hb

theorem separates_minLength {a b : Nat} (h : a < b) :
    Separates .minLength (.scalar { minLength := some a }) (.scalar { minLength := some b })
      (.string (.replicate a 'x')) := by
  refine separates_of_require (ScalarOptions.verdict_minLength [] a _) (ScalarOptions.verdict_minLength [] b _)
    (decide_eq_true ?_) (decide_eq_false ?_)
  · rw [String.length_replicate]
  · rw [String.length_replicate]
    exact Nat.not_le.2 h

theorem separates_maxLength {a b : Nat} (h : b < a) :
    Separates .maxLength (.scalar { maxLength := some a }) (.scalar { maxLength := some b })
      (.string (.replicate a 'x')) := by
  refine separates_of_require (ScalarOptions.verdict_maxLength [] a _) (ScalarOptions.verdict_maxLength [] b _)
    (decide_eq_true ?_) (decide_eq_false ?_)
  · rw [String.length_replicate]
  · rw [String.length_replicate]
    exact Nat.not_le.2 h

/-- What two levels say of a list they say below levels that demand nothing. -/
theorem separates_under {a b : ListLevel} {items : List Value} {p q : Bool} (k : Nat)
    (ha : a.check [] items = check.require p) (hb : b.check [] items = check.require q) (hp : p = true)
    (hq : q = false) :
    Separates check (.list (.under k a)) (.list (.under k b)) (.inLists k (.list items)) :=
  separates_of_require ((ListOptions.verdict_under [] k a items).trans ha)
    ((ListOptions.verdict_under [] k b items).trans hb) hp hq

theorem separates_minItems (k : Nat) {a b : Nat} (h : a < b) :
    Separates .minItems (.list (.under k { minItems := some a })) (.list (.under k { minItems := some b }))
      (.inLists k (.list (.replicate a .null))) := by
  refine separates_under k (ListLevel.check_minItems [] _ a) (ListLevel.check_minItems [] _ b)
    (decide_eq_true ?_) (decide_eq_false ?_)
  · rw [List.length_replicate]
  · rw [List.length_replicate]
    exact Nat.not_le.2 h

theorem separates_maxItems (k : Nat) {a b : Nat} (h : b < a) :
    Separates .maxItems (.list (.under k { maxItems := some a })) (.list (.under k { maxItems := some b }))
      (.inLists k (.list (.replicate a .null))) := by
  refine separates_under k (ListLevel.check_maxItems [] _ a) (ListLevel.check_maxItems [] _ b)
    (decide_eq_true ?_) (decide_eq_false ?_)
  · rw [List.length_replicate]
  · rw [List.length_replicate]
    exact Nat.not_le.2 h

theorem separates_unique (k : Nat) :
    Separates .unique (.list (.under k { unique := false })) (.list (.under k { unique := true }))
      (.inLists k (.list [.null, .null])) :=
  separates_under k (ListLevel.check_unique_nulls [] false) (ListLevel.check_unique_nulls [] true) rfl rfl

theorem separates_maxSize {a b : Nat} (h : b < a) :
    Separates .maxSize (.upload { maxSize := some a }) (.upload { maxSize := some b }) (.upload ⟨"", "", a⟩) :=
  separates_of_require (UploadOptions.verdict_maxSize [] _ a) (UploadOptions.verdict_maxSize [] _ b)
    (decide_eq_true (Nat.le_refl a)) (decide_eq_false (Nat.not_le.2 h))

theorem separates_mimeType {as bs : List String} {type : String} (ha : as.contains type = true)
    (hb : bs.contains type = false) :
    Separates .mimeType (.upload { mimeTypes := some as }) (.upload { mimeTypes := some bs })
      (.upload ⟨"", type, 0⟩) :=
  separates_of_require (UploadOptions.verdict_mimeTypes [] _ as) (UploadOptions.verdict_mimeTypes [] _ bs) ha hb

/-- The setting of an axis gives a value that separates it from every setting that is not as lax. -/
theorem exists_separates (h : SetOneAxis check n w) (hnarrows : n.narrows w = false) :
    ∃ value, Separates check n w value := by
  cases h with
  | min ha hb =>
    refine ⟨_, separates_min (Number.less_of_atMost_eq_false hb ha ?_)⟩
    simpa [narrows, ScalarOptions.narrows, narrowsAxis] using hnarrows
  | max ha hb =>
    refine ⟨_, separates_max (Number.less_of_atMost_eq_false ha hb ?_)⟩
    simpa [narrows, ScalarOptions.narrows, narrowsAxis] using hnarrows
  | @oneOf as bs ha =>
    have hsubset : isSubset Scalar.equals as bs = false := by
      simpa [narrows, ScalarOptions.narrows, narrowsAxis] using hnarrows
    obtain ⟨s, hs, hnone⟩ := exists_of_isSubset_eq_false hsubset
    exact ⟨_, separates_oneOf (List.any_eq_true.2 ((Scalar.exists_equals_iff hs).2 (ha s hs))) hnone⟩
  | minLength a b =>
    refine ⟨_, separates_minLength ?_⟩
    simpa [narrows, ScalarOptions.narrows, narrowsAxis] using hnarrows
  | maxLength a b =>
    refine ⟨_, separates_maxLength ?_⟩
    simpa [narrows, ScalarOptions.narrows, narrowsAxis] using hnarrows
  | minItems k a b =>
    refine ⟨_, separates_minItems k ?_⟩
    simpa [narrows, ListOptions.narrows_under, ListLevel.narrows, narrowsAxis] using hnarrows
  | maxItems k a b =>
    refine ⟨_, separates_maxItems k ?_⟩
    simpa [narrows, ListOptions.narrows_under, ListLevel.narrows, narrowsAxis] using hnarrows
  | unique k a b =>
    have hflags : b = true ∧ a = false := by
      simpa [narrows, ListOptions.narrows_under, ListLevel.narrows, narrowsAxis] using hnarrows
    obtain ⟨rfl, rfl⟩ := hflags
    exact ⟨_, separates_unique k⟩
  | maxSize a b =>
    refine ⟨_, separates_maxSize ?_⟩
    simpa [narrows, UploadOptions.narrows, narrowsAxis] using hnarrows
  | mimeType as bs =>
    have hsubset : isSubset (· == ·) as bs = false := by
      simpa [narrows, UploadOptions.narrows, narrowsAxis] using hnarrows
    obtain ⟨type, htype, hnone⟩ := exists_of_isSubset_eq_false hsubset
    have hother : type ∉ bs := fun hmem => List.any_eq_false.1 hnone type hmem (beq_self_eq_true type)
    exact ⟨_, separates_mimeType (List.contains_iff_mem.2 htype) (by simpa using hother)⟩

theorem family_ne_object (h : SetOneAxis check n w) : n.family ≠ .object := by
  cases h <;> simp [family]

/-- **On one axis narrowing is exact.** Of two constraints that set one axis, and the same one, one narrows
    the other if and only if it accepts nothing that the other rejects. Where it does not narrow the other,
    some value is accepted by it and fails the very check of the axis under the other. -/
theorem narrows_iff_accepted (h : SetOneAxis check n w) :
    (n.narrows w = true ↔
      ∀ bindings value, n.verdict bindings value = none → w.verdict bindings value = none) ∧
    (n.narrows w = false → ∃ value, n.verdict [] value = none ∧ w.verdict [] value = some check) := by
  refine ⟨⟨fun hnarrows bindings value => ?_, fun haccepted => ?_⟩, exists_separates h⟩
  · refine verdict_of_narrows_of_object hnarrows fun _ _ hobject _ _ _ => ?_
    exact absurd (congrArg family hobject) (family_ne_object h)
  · by_contra hnarrows
    obtain ⟨value, hn, hw⟩ := exists_separates h (Bool.eq_false_of_not_eq_true hnarrows)
    rw [haccepted [] value hn] at hw
    exact Option.some_ne_none check hw.symm

end Separates

/-- An integer bound below a floating-point one, and a flag two levels down. -/
theorem narrows_iff_accepted_of_bound :
    (SetOneAxis .min (.scalar { min := some (.int 0) }) (.scalar { min := some (.float .one) }) ∧
      ∃ value, Separates .min (.scalar { min := some (.int 0) }) (.scalar { min := some (.float .one) }) value) ∧
    (SetOneAxis .unique (.list (.under 2 { unique := true })) (.list (.under 2 {})) ∧
      ∀ bindings value, (Constraint.list (.under 2 { unique := true })).verdict bindings value = none →
        (Constraint.list (.under 2 {})).verdict bindings value = none) := by
  have hbounds : SetOneAxis .min (.scalar { min := some (.int 0) }) (.scalar { min := some (.float .one) }) :=
    .min rfl (by decide)
  have hflags : SetOneAxis .unique (.list (.under 2 { unique := true })) (.list (.under 2 {})) := .unique 2 true false
  exact ⟨⟨hbounds, (narrows_iff_accepted hbounds).2 (by decide +kernel)⟩,
    hflags, (narrows_iff_accepted hflags).1.1 rfl⟩

end Constraint

end SchemaConstraints
