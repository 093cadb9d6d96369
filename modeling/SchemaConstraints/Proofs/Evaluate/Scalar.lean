import SchemaConstraints.Evaluate.Scalar
import SchemaConstraints.Proofs.Evaluate.Leaves

set_option autoImplicit false

/-! # Checking scalars

A value that stands for a scalar is its own only leaf, so its verdict is that of the checks of the kind of
the scalar, followed by the allowed values. An allowed value matches it exactly if the two scalars are
equal. -/

namespace SchemaConstraints

theorem Scalar.toValue_injective : Function.Injective toValue := by
  intro s t h
  cases s <;> cases t <;> simp_all [toValue]

theorem Scalar.matchesValue_toValue {entry s : Scalar} : entry.matchesValue s.toValue = entry.equals s := by
  cases entry <;> cases s <;> rfl

namespace Value

variable {value : Value} {s : Scalar}

/-- Looking through an enum value never ends at another one. -/
theorem underlying_ne_enum (value : Value) {name : String} {repr : Value} : value.underlying ≠ .enum name repr := by
  fun_induction underlying value with
  | case1 _ _ ih => exact ih
  | case2 value hvalue => exact hvalue name repr

theorem underlying_underlying (value : Value) : value.underlying.underlying = value.underlying := by
  cases h : value.underlying with
  | enum name repr => exact absurd h value.underlying_ne_enum
  | _ => rfl

/-- A value that stands for a scalar is no null, list or variable. -/
theorem ne_of_underlying (h : value.underlying = s.toValue) :
    value ≠ .null ∧ (∀ items, value ≠ .list items) ∧ ∀ name, value ≠ .variable name := by
  refine ⟨?_, fun items => ?_, fun name => ?_⟩ <;>
    · rintro rfl
      cases s <;> simp [underlying, Scalar.toValue] at h

theorem checkLeaves_of_underlying {check : Value → Verdict} {bindings : Bindings}
    (h : value.underlying = s.toValue) : value.checkLeaves check bindings = check value := by
  obtain ⟨-, hlist, hvariable⟩ := ne_of_underlying h
  rw [checkLeaves_eq_view]
  cases value with
  | list items => exact absurd rfl (hlist items)
  | «variable» name => exact absurd rfl (hvariable name)
  | _ => rfl

theorem underlying_toValue (s : Scalar) : s.toValue.underlying = s.toValue := by
  cases s <;> rfl

end Value

namespace ScalarOptions

variable {options : ScalarOptions} {s : Scalar}

theorem checkLeaf_of_underlying {value : Value} (h : value.underlying = s.toValue) :
    options.checkLeaf value = (options.checkKind s.toValue).or (options.checkOneOf s.toValue) := by
  rw [← h]
  cases value with
  | null => exact absurd rfl (Value.ne_of_underlying h).1
  | _ => rfl

theorem verdict_toValue (options : ScalarOptions) (bindings : Bindings) (s : Scalar) :
    options.verdict bindings s.toValue = (options.checkKind s.toValue).or (options.checkOneOf s.toValue) := by
  rw [verdict, Value.checkLeaves_of_underlying (Value.underlying_toValue s),
    checkLeaf_of_underlying (Value.underlying_toValue s)]

end ScalarOptions

end SchemaConstraints
