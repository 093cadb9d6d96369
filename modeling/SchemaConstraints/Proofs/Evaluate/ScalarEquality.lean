import SchemaConstraints.Proofs.Evaluate.Identity
import SchemaConstraints.Proofs.Evaluate.Scalar
import SchemaConstraints.Proofs.Narrowing.Preorder
import SchemaConstraints.Proofs.Number.Units

set_option autoImplicit false

/-! # Equality of scalars

Scalars meet three notions of sameness: allowed values are matched with the value under validation,
narrowing compares the allowed values of two constraints, and duplicates are items of one identity. All
three look through enum values, keep integers apart from floating-point numbers and do not tell the two
zeros apart, so they agree (`equalities_agree`). NaN is the exception: it equals nothing, and yet it is a
duplicate of itself. So is a variable, which no scalar matches although it may stand for one. -/

namespace SchemaConstraints

/-! ## Looking through enum values -/

theorem Value.variableNames_underlying (value : Value) :
    value.underlying.variableNames = value.variableNames := by
  fun_induction underlying value with
  | case1 _ _ ih => rw [variableNames, ih]
  | case2 => rfl

/-- An enum value has the identity of what it stands for. -/
theorem Identity.ofValue_underlying (bindings : Bindings) (value : Value) :
    ofValue bindings value.underlying = ofValue bindings value := by
  fun_induction Value.underlying value with
  | case1 _ _ ih => rw [ih, ofValue]
  | case2 => rfl

namespace Scalar

variable {s t : Scalar}

/-! ## The three equalities -/

/-- Scalars are equal if, as values, they have one identity. -/
theorem equals_iff_ofValue_eq (hs : s.isNaN = false) (bindings : Bindings) :
    s.equals t = true ↔ Identity.ofValue bindings s.toValue = Identity.ofValue bindings t.toValue := by
  cases s <;> cases t <;> simp [equals, toValue, Identity.ofValue]
  case float.float x y => exact Binary64.numEq_iff_foldZero_eq hs

/-- A scalar matches the values of its identity, as long as no enum value stands for a variable. -/
theorem matchesValue_iff_ofValue_eq (hs : s.isNaN = false) (bindings : Bindings) {value : Value}
    (hvalue : ∀ name, value.underlying ≠ .variable name) :
    s.matchesValue value = true ↔ Identity.ofValue bindings s.toValue = Identity.ofValue bindings value := by
  rw [← Identity.ofValue_underlying bindings value]
  unfold matchesValue
  cases hunderlying : value.underlying with
  | enum name repr => exact absurd hunderlying value.underlying_ne_enum
  | «variable» name => exact absurd hunderlying (hvalue name)
  | float y =>
    cases s with
    | float x => simpa [toValue, Identity.ofValue] using Binary64.numEq_iff_foldZero_eq hs
    | _ => simp [toValue, Identity.ofValue]
  | _ => cases s <;> simp [toValue, Identity.ofValue]

/-- **The three equalities of scalars agree:** a scalar matches exactly the values of its identity, and it equals
    exactly the scalars of its identity, which are those that it matches as values. -/
theorem equalities_agree (hs : s.isNaN = false) (bindings : Bindings) :
    (∀ value : Value, value.variableNames = [] →
      (s.matchesValue value = true ↔ Identity.ofValue bindings s.toValue = Identity.ofValue bindings value)) ∧
    ∀ t : Scalar,
      (s.equals t = true ↔ Identity.ofValue bindings s.toValue = Identity.ofValue bindings t.toValue) ∧
      (s.equals t = true ↔ s.matchesValue t.toValue = true) := by
  refine ⟨fun value hclosed => matchesValue_iff_ofValue_eq hs bindings fun name hname => ?_, fun t => ⟨?_, ?_⟩⟩
  · have hnames := value.variableNames_underlying
    rw [hname, hclosed, Value.variableNames] at hnames
    exact absurd hnames (List.cons_ne_nil _ _)
  · exact equals_iff_ofValue_eq hs bindings
  · rw [matchesValue_toValue]

/-- The negative zero, the positive one behind two enum values, and the integer zero. -/
theorem equalities_agree_on_zeros :
    let s := Scalar.float Binary64.zero.neg
    let value := Value.enum "NONE" (.enum "ZERO" (.float .zero))
    s.isNaN = false ∧ value.variableNames = [] ∧
      (s.matchesValue value = true ∧ Identity.ofValue [] s.toValue = Identity.ofValue [] value) ∧
      s.equals (.float .zero) = true ∧ s.equals (.int 0) = false ∧
      Identity.ofValue [] s.toValue ≠ Identity.ofValue [] (Scalar.int 0).toValue := by
  intro s value
  have hs : s.isNaN = false := by decide
  have hclosed : value.variableNames = [] := rfl
  obtain ⟨hvalue, hscalar⟩ := equalities_agree hs []
  have hmatches : s.matchesValue value = true := by decide
  have hint : s.equals (.int 0) = false := rfl
  refine ⟨hs, hclosed, ⟨hmatches, (hvalue value hclosed).1 hmatches⟩, ?_, hint, fun hid => ?_⟩
  · exact (hscalar (.float .zero)).2.2 (by decide)
  · exact Bool.false_ne_true (hint.symm.trans ((hscalar (.int 0)).1.2 hid))

end Scalar

end SchemaConstraints
