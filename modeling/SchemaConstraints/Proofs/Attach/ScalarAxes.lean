import SchemaConstraints.Proofs.Attach.Suits
import SchemaConstraints.Proofs.Evaluate.Scalar
import SchemaConstraints.Proofs.Json.WellFormed
import SchemaConstraints.Proofs.Number.Exact
import SchemaConstraints.Proofs.Options.Records

set_option autoImplicit false

/-! # No axis of an attached scalar constraint is skipped

Evaluation passes over the axes that are not for values of the kind at hand, and it compares allowed values
kind by kind. `ScalarOptions.Meets` does neither: an axis that is set demands a value of its own kind, and
numbers are compared by their exact values (`Number.toEReal?`). The two agree on every value of the element that
the options are attached to (`attached_scalar_verdict_eq_none_iff`), because options that suit an element have
only axes for its values, and no bound that was read from well-formed arguments is NaN. -/

namespace SchemaConstraints

/-! ## What options demand of a leaf -/

namespace Scalar

/-- The number that a scalar is. -/
def number? : Scalar → Option Number
  | .int n => some (.int n)
  | .float x => some (.float x)
  | _ => none

/-- Neither infinite nor NaN. -/
def IsFinite : Scalar → Prop
  | .float x => x.isFinite = true
  | _ => True

/-- The exact value of a scalar that is a number. -/
noncomputable def value? (s : Scalar) : Option EReal := s.number?.bind Number.toEReal?

/-- Numbers are the same if they have one value, and all else only if it is equal. -/
def SameAs (a b : Scalar) : Prop := a = b ∨ ∃ v, a.value? = some v ∧ b.value? = some v

end Scalar

/-- The scalar satisfies every axis that is set, which it can only if the axis is for its kind. Bounds are those of
    exact values. -/
structure ScalarOptions.Meets (options : ScalarOptions) (s : Scalar) : Prop where
  min : ∀ min, options.min = some min → ∃ v w, min.toEReal? = some v ∧ s.value? = some w ∧ v ≤ w
  max : ∀ max, options.max = some max → ∃ v w, s.value? = some v ∧ max.toEReal? = some w ∧ v ≤ w
  minLength : ∀ min, options.minLength = some min → ∃ text, s = .string text ∧ min ≤ text.length
  maxLength : ∀ max, options.maxLength = some max → ∃ text, s = .string text ∧ text.length ≤ max
  regex : ∀ pattern, options.regex = some pattern → ∃ text, s = .string text ∧ pattern.matchesIn text = true
  oneOf : ∀ allowed, options.oneOf = some allowed → ∃ entry ∈ allowed, entry.SameAs s

/-- The value is built from lists and nulls over scalars with a property, or enum values that stand for them. -/
inductive Value.Over (P : Scalar → Prop) : Value → Prop
  | null : Over P .null
  | leaf {value : Value} {s : Scalar} (h : value.underlying = s.toValue) (hs : P s) : Over P value
  | list {items : List Value} (h : ∀ item ∈ items, Over P item) : Over P (.list items)

/-! ## Values over scalars -/

namespace Value

variable {P : Scalar → Prop} {value : Value} {s : Scalar}

theorem over_iff_of_underlying (h : value.underlying = s.toValue) : value.Over P ↔ P s := by
  obtain ⟨hnull, hlist, -⟩ := ne_of_underlying h
  refine ⟨fun hover => ?_, .leaf h⟩
  cases hover with
  | null => exact absurd rfl hnull
  | leaf h' hs => exact Scalar.toValue_injective (h'.symm.trans h) ▸ hs
  | list => exact absurd rfl (hlist _)

theorem over_list_iff {items : List Value} : (Value.list items).Over P ↔ ∀ item ∈ items, item.Over P := by
  refine ⟨fun hover => ?_, .list⟩
  cases hover with
  | leaf h => exact absurd rfl ((ne_of_underlying h).2.1 items)
  | list h => exact h

end Value

/-! ## Allowed values -/

namespace Scalar

variable {stringScalars : List String} {type : NamedType} {s entry : Scalar}

theorem value?_of_number? {n : Number} (hn : s.number? = some n) : s.value? = n.toEReal? := by
  rw [value?, hn, Option.bind_some]

/-- What is finite has a place among the numbers. -/
theorem IsFinite.point?_eq_some (h : s.IsFinite) {n : Number} (hn : s.number? = some n) :
    ∃ p, n.point? = some p := by
  cases s with
  | bool | string => simp [number?] at hn
  | int i =>
    obtain rfl := Option.some.inj hn
    exact ⟨_, rfl⟩
  | float x =>
    obtain rfl := Option.some.inj hn
    have hcode : x.code < Binary64.infinityCode := of_decide_eq_true h
    exact Binary64.point?_eq_some (decide_eq_false (Nat.lt_asymm hcode))

theorem equals_self (h : s.IsFinite) : s.equals s = true := by
  cases s with
  | float x =>
    obtain ⟨p, hp⟩ := h.point?_eq_some rfl
    exact Binary64.numEq_iff.2 ⟨p, hp, hp⟩
  | bool | int | string => simp [equals]

/-- Among the finite values of one type it makes no difference whether numbers are compared across kinds. -/
theorem sameAs_iff (hentry : type.Takes stringScalars entry) (hs : type.Takes stringScalars s) (hfinite : s.IsFinite) :
    entry.SameAs s ↔ entry.equals s = true := by
  constructor
  · rintro (rfl | ⟨v, hentryValue, hvalue⟩)
    · exact equals_self hfinite
    · obtain ⟨m, hm, hmv⟩ := Option.bind_eq_some_iff.1 hentryValue
      obtain ⟨n, hn, hnv⟩ := Option.bind_eq_some_iff.1 hvalue
      have hmn : m.numEq n = true := Number.numEq_iff_values.2 ⟨v, hmv, hnv⟩
      cases entry <;> cases s <;> simp only [number?, Option.some.injEq, reduceCtorEq] at hm hn
      case int.int a b =>
        subst hm hn
        simpa [equals, Number.numEq_int_iff] using hmn
      case float.float x y =>
        subst hm hn
        exact hmn
      case int.float | float.int =>
        exact absurd (hentry.symm.trans hs) (by decide)
  · intro heq
    cases entry <;> cases s <;> simp only [equals, Bool.false_eq_true, beq_iff_eq] at heq
    case float.float x y =>
      have hnumbers : (Number.float x).numEq (.float y) = true := heq
      exact .inr (Number.numEq_iff_values.1 hnumbers)
    all_goals exact .inl (congrArg _ heq)

end Scalar

namespace ScalarOptions

variable {options : ScalarOptions} {stringScalars : List String} {element : SchemaElement} {s : Scalar}

/-! ## Checks of a leaf -/

/-- No bound is NaN. -/
structure BoundsHavePoints (options : ScalarOptions) : Prop where
  min : ∀ min, options.min = some min → ∃ p, min.point? = some p
  max : ∀ max, options.max = some max → ∃ p, max.point? = some p

theorem checkNumber_eq_none_iff (hbounds : options.BoundsHavePoints) {n : Number} {p : LinePoint}
    (hn : n.point? = some p) :
    options.checkNumber n = none ↔
      (∀ min, options.min = some min → min.atMost n = true) ∧ ∀ max, options.max = some max → n.atMost max = true := by
  simp only [checkNumber, Option.or_eq_none_iff, Check.require_eq_none_iff, Option.all_eq_true, Bool.not_eq_true']
  refine and_congr (forall₂_congr fun min hmin => ?_) (forall₂_congr fun max hmax => ?_)
  · obtain ⟨q, hq⟩ := hbounds.min min hmin
    exact (Number.atMost_iff_not_less hq hn).symm
  · obtain ⟨q, hq⟩ := hbounds.max max hmax
    exact (Number.atMost_iff_not_less hn hq).symm

theorem checkString_eq_none_iff {text : String} :
    options.checkString text = none ↔
      (∀ min, options.minLength = some min → min ≤ text.length) ∧
      (∀ max, options.maxLength = some max → text.length ≤ max) ∧
      ∀ pattern, options.regex = some pattern → pattern.matchesIn text = true := by
  simp only [checkString, Option.or_eq_none_iff, Check.require_eq_none_iff, Option.all_eq_true, decide_eq_true_eq,
    and_assoc]

theorem checkOneOf_eq_none_iff (hsuits : options.Suits stringScalars element)
    (htakes : element.type.leaf.Takes stringScalars s) (hfinite : s.IsFinite) :
    options.checkOneOf s.toValue = none ↔
      ∀ allowed, options.oneOf = some allowed → ∃ entry ∈ allowed, entry.SameAs s := by
  simp only [checkOneOf, Check.require_eq_none_iff, Option.all_eq_true, List.any_eq_true]
  refine forall₂_congr fun allowed hallowed => exists_congr fun entry => and_congr_right fun hentry => ?_
  rw [Scalar.matchesValue_toValue, Scalar.sameAs_iff (hsuits.oneOf allowed hallowed entry hentry) htakes hfinite]

/-! ## Axes of the other kind -/

theorem Suits.texts_eq_none (hsuits : options.Suits stringScalars element) (h : element.type.leaf.IsNumeric) :
    options.minLength = none ∧ options.maxLength = none ∧ options.regex = none := by
  have hnone := mt hsuits.texts (NamedType.not_isTextual_of_isNumeric h)
  simpa using hnone

theorem Suits.bounds_eq_none (hsuits : options.Suits stringScalars element)
    (h : element.type.leaf.IsTextual stringScalars) : options.min = none ∧ options.max = none := by
  have hnone := mt hsuits.bounds fun hnumeric => NamedType.not_isTextual_of_isNumeric hnumeric h
  simpa using hnone

theorem meets_iff_of_number (hsuits : options.Suits stringScalars element) (h : element.type.leaf.IsNumeric)
    {n : Number} (hn : s.number? = some n) :
    options.Meets s ↔
      ((∀ min, options.min = some min → min.atMost n = true) ∧ ∀ max, options.max = some max → n.atMost max = true) ∧
      ∀ allowed, options.oneOf = some allowed → ∃ entry ∈ allowed, entry.SameAs s := by
  obtain ⟨hminLength, hmaxLength, hregex⟩ := hsuits.texts_eq_none h
  have hvalue : s.value? = n.toEReal? := Scalar.value?_of_number? hn
  constructor
  · intro hmeets
    refine ⟨⟨fun min hmin => ?_, fun max hmax => ?_⟩, hmeets.oneOf⟩
    · exact Number.atMost_iff_values.2 (hvalue ▸ hmeets.min min hmin)
    · exact Number.atMost_iff_values.2 (hvalue ▸ hmeets.max max hmax)
  · rintro ⟨⟨hmin, hmax⟩, honeOf⟩
    exact
      { min := fun min h => hvalue ▸ Number.atMost_iff_values.1 (hmin min h)
        max := fun max h => hvalue ▸ Number.atMost_iff_values.1 (hmax max h)
        minLength := by simp [hminLength]
        maxLength := by simp [hmaxLength]
        regex := by simp [hregex]
        oneOf := honeOf }

theorem meets_iff_of_string (hsuits : options.Suits stringScalars element)
    (h : element.type.leaf.IsTextual stringScalars) {text : String} :
    options.Meets (.string text) ↔
      ((∀ min, options.minLength = some min → min ≤ text.length) ∧
        (∀ max, options.maxLength = some max → text.length ≤ max) ∧
        ∀ pattern, options.regex = some pattern → pattern.matchesIn text = true) ∧
      ∀ allowed, options.oneOf = some allowed → ∃ entry ∈ allowed, entry.SameAs (.string text) := by
  obtain ⟨hmin, hmax⟩ := hsuits.bounds_eq_none h
  constructor
  · intro hmeets
    refine ⟨⟨fun min h => ?_, fun max h => ?_, fun pattern h => ?_⟩, hmeets.oneOf⟩
    · simpa using hmeets.minLength min h
    · simpa using hmeets.maxLength max h
    · simpa using hmeets.regex pattern h
  · rintro ⟨⟨hminLength, hmaxLength, hregex⟩, honeOf⟩
    exact
      { min := by simp [hmin]
        max := by simp [hmax]
        minLength := fun min h => ⟨text, rfl, hminLength min h⟩
        maxLength := fun max h => ⟨text, rfl, hmaxLength max h⟩
        regex := fun pattern h => ⟨text, rfl, hregex pattern h⟩
        oneOf := honeOf }

/-- On the values of its element, a scalar constraint checks all that it demands. -/
theorem checkLeaf_eq_none_iff (hsuits : options.Suits stringScalars element) (hbounds : options.BoundsHavePoints)
    {value : Value} (hvalue : value.underlying = s.toValue) (htakes : element.type.leaf.Takes stringScalars s)
    (hfinite : s.IsFinite) : options.checkLeaf value = none ↔ options.Meets s := by
  rw [checkLeaf_of_underlying hvalue, Option.or_eq_none_iff, checkOneOf_eq_none_iff hsuits htakes hfinite]
  cases s with
  | bool b => exact htakes.elim
  | int n =>
    obtain ⟨p, hp⟩ := hfinite.point?_eq_some rfl
    rw [meets_iff_of_number hsuits (.inl htakes) rfl, ← checkNumber_eq_none_iff hbounds hp]
    rfl
  | float x =>
    obtain ⟨p, hp⟩ := hfinite.point?_eq_some rfl
    rw [meets_iff_of_number hsuits (.inr htakes) rfl, ← checkNumber_eq_none_iff hbounds hp]
    rfl
  | string text =>
    rw [meets_iff_of_string hsuits htakes, ← checkString_eq_none_iff]
    rfl

/-- So it does in all lists of such values. -/
theorem verdict_eq_none_iff_over (hsuits : options.Suits stringScalars element) (hbounds : options.BoundsHavePoints)
    {bindings : Bindings} {value : Value}
    (hvalue : value.Over fun s => element.type.leaf.Takes stringScalars s ∧ s.IsFinite) :
    options.verdict bindings value = none ↔ value.Over options.Meets := by
  rw [verdict]
  induction hvalue with
  | null => exact iff_of_true (by simp [Value.checkLeaves, checkLeaf]) .null
  | leaf h hs =>
    rw [Value.checkLeaves_of_underlying h, Value.over_iff_of_underlying h,
      checkLeaf_eq_none_iff hsuits hbounds h hs.1 hs.2]
  | list h ih =>
    rw [Value.checkLeaves, Value.checkItems_eq_none_iff, Value.over_list_iff]
    exact forall₂_congr ih

end ScalarOptions

/-! ## Bounds that are read -/

/-- A number that is read from a well-formed JSON value is not NaN. -/
theorem Number.point?_of_decode {json : Json} {n : Number} (hwell : json.WellFormed)
    (h : Decode.number json = .ok n) : ∃ p, n.point? = some p := by
  cases hwell with
  | integer i =>
    obtain rfl := Except.ok.inj h
    rw [ofInt]
    split
    · exact ⟨_, rfl⟩
    · exact Binary64.point?_eq_some (Binary64.isNaN_ofInt i)
  | float hnan =>
    obtain rfl := Except.ok.inj h
    exact Binary64.point?_eq_some hnan
  | _ => simp [Decode.number, ofJson?] at h

namespace ScalarOptions

open Decode

theorem boundsHavePoints_of_decode {members : List (String × Json)} {options : ScalarOptions}
    (hwell : (Json.object members).WellFormed) (h : decode (.object members) = .ok options) :
    options.BoundsHavePoints := by
  obtain ⟨hnodup, hmembers⟩ := Json.wellFormed_object_iff.1 hwell
  have hbound : ∀ {name : String} {bound : ScalarOptions → Option Number},
      record.Fills name (orNull number) bound → bound {} = none →
      ∀ n, bound options = some n → ∃ p, n.point? = some p := by
    intro name bound hfills hinitial n hn
    have hsetting := Record.setting_of_read hfills hinitial hnodup h
    rw [hn] at hsetting
    obtain ⟨json, hfind, -, hnumber⟩ := hsetting
    exact Number.point?_of_decode (hmembers _ (Fields.mem_of_find? hfind)) hnumber
  exact ⟨hbound record_fills.1.1 rfl, hbound record_fills.1.2 rfl⟩

/-- Coercion leaves the bounds alone. -/
theorem BoundsHavePoints.coerce {options : ScalarOptions} (h : options.BoundsHavePoints) (stringScalars : List String)
    (element : SchemaElement) : (options.coerce stringScalars element).BoundsHavePoints := by
  rw [ScalarOptions.coerce]
  split
  · exact h
  · exact ⟨h.min, h.max⟩

end ScalarOptions

/-! ## Attached constraints -/

namespace Registry

variable {registry : Registry} {element : SchemaElement} {directive : String} {arguments : Json}
  {options : ScalarOptions}

theorem boundsHavePoints_of_attach (hwell : arguments.WellFormed)
    (h : registry.attach element directive arguments = .ok (.scalar options)) : options.BoundsHavePoints := by
  obtain ⟨family, read, -, hread, -, -, hcoerce⟩ := attach_eq_ok_iff.1 h
  obtain ⟨members, rfl, -, hdecode⟩ := readArguments_eq_ok_iff.1 hread
  cases read with
  | scalar written =>
    obtain rfl := Constraint.scalar.inj hcoerce
    obtain rfl : Family.scalar = family := Constraint.family_of_decode hdecode
    obtain ⟨_, hwritten, heq⟩ := Except.map_eq_ok_iff.1 hdecode
    obtain rfl := Constraint.scalar.inj heq
    exact (ScalarOptions.boundsHavePoints_of_decode hwell hwritten).coerce _ _
  | list | object | upload => simp [Constraint.coerce] at hcoerce

/-- **No axis of an attached scalar constraint is skipped.** -/
theorem attached_scalar_verdict_eq_none_iff (hwell : arguments.WellFormed)
    (h : registry.attach element directive arguments = .ok (.scalar options)) {bindings : Bindings} {value : Value}
    (hvalue : value.Over fun s => element.type.leaf.Takes registry.stringScalars s ∧ s.IsFinite) :
    options.verdict bindings value = none ↔ value.Over options.Meets :=
  ScalarOptions.verdict_eq_none_iff_over (suits_of_attach h) (boundsHavePoints_of_attach hwell h) hvalue

/-- A list of floating-point numbers, against integers as a bound and as allowed values. -/
theorem attached_scalar_verdict_of_ratings :
    let ratings := SchemaElement.field "Product" "ratings" (.list (.list TypeRef.float))
    let arguments := Json.object [("max", .integer 4), ("oneOf", .array [.integer 1, .integer 5])]
    let options : ScalarOptions := { max := some (.int 4), oneOf := some [.float (.ofInt 1), .float (.ofInt 5)] }
    let value := Value.list [.list [.float (.ofInt 1), .null], .null, .list [.enum "BEST" (.float (.ofInt 5))]]
    arguments.WellFormed ∧ default.attach ratings "constraint" arguments = .ok (.scalar options) ∧
      (value.Over fun s => ratings.type.leaf.Takes default.stringScalars s ∧ s.IsFinite) ∧
      (options.verdict [] value = none ↔ value.Over options.Meets) := by
  intro ratings arguments options value
  have hwell : arguments.WellFormed := by simp [arguments]
  have hattach : default.attach ratings "constraint" arguments = .ok (.scalar options) := by
    refine attach_eq_ok_iff.2 ⟨.scalar, .scalar { max := some (.int 4), oneOf := some [.int 1, .int 5] }, rfl,
      readArguments_eq_ok_iff.2 ⟨_, rfl, ?_, rfl⟩, rfl, rfl, rfl⟩
    simp +decide [Family.arguments, ArgumentDefinition.ofScalar, ArgumentDefinition.firstInvalid]
  have hvalue : value.Over fun s => ratings.type.leaf.Takes default.stringScalars s ∧ s.IsFinite := by
    have hone : (Binary64.ofInt 1).isFinite = true := by decide +kernel
    have hfive : (Binary64.ofInt 5).isFinite = true := by decide +kernel
    simp only [value, Value.over_list_iff, List.forall_mem_cons]
    exact ⟨⟨.leaf (s := .float (.ofInt 1)) rfl ⟨rfl, hone⟩, .null, List.forall_mem_nil _⟩, .null,
      ⟨.leaf (s := .float (.ofInt 5)) rfl ⟨rfl, hfive⟩, List.forall_mem_nil _⟩, List.forall_mem_nil _⟩
  exact ⟨hwell, hattach, hvalue, attached_scalar_verdict_eq_none_iff hwell hattach hvalue⟩

end Registry

end SchemaConstraints
