import SchemaConstraints.Proofs.Attach.ScalarAxes
import SchemaConstraints.Proofs.Attach.Spelling
import SchemaConstraints.Proofs.Json.Printed

set_option autoImplicit false

/-! # Two readings of scalars

A JSON argument is read twice: as a runtime value, for the check by its own constraint, and as the scalar that a
list of alternatives holds. The first reading asks of a number whether 64 bits hold it, and the second one tries
the kinds of scalar in turn (`ScalarKind.all`). They agree on every scalar and on lists of scalars, and the
second one gives back every scalar whose text was read, in the kind in which it was written
(`Scalar.readings_agree`). -/

namespace SchemaConstraints

open Decode

/-! ## Trying the kinds in turn -/

/-- The kinds of scalar. -/
inductive ScalarKind where
  | bool
  | int
  | float
  | string
  deriving DecidableEq, Repr

namespace ScalarKind

/-- All kinds, in the order in which they are tried. -/
def all : List ScalarKind := [.bool, .int, .float, .string]

/-- A JSON value as a scalar of one kind. Every number is a floating-point number, and an integer that fits into
    64 bits is an integer as well. -/
def read? : ScalarKind → Json → Option Scalar
  | .bool, .bool b => some (.bool b)
  | .int, .integer n =>
    if Int64.minValue.toInt ≤ n ∧ n ≤ Int64.maxValue.toInt then some (.int (Int64.ofInt n)) else none
  | .float, .integer n => some (.float (.ofInt n))
  | .float, .float x => some (.float x)
  | .string, .string s => some (.string s)
  | _, _ => none

end ScalarKind

variable {json : Json} {s : Scalar}

namespace Scalar

/-- A scalar is of the first kind as which its JSON value is read. -/
theorem ofJson?_eq_findSome? (json : Json) : ofJson? json = ScalarKind.all.findSome? (·.read? json) := by
  cases json with
  | integer n =>
    simp only [ScalarKind.all, List.findSome?_cons, ScalarKind.read?, ofJson?, Number.ofInt]
    split <;> rfl
  | _ => rfl

theorem ofJson_of_ofJson? (h : ofJson? json = some s) : Value.ofJson json = s.toValue := by
  cases json with
  | integer n =>
    obtain rfl := Option.some.inj h
    exact Value.ofJson_of_ofJson? rfl
  | bool _ | float _ | string _ =>
    obtain rfl := Option.some.inj h
    rw [Value.ofJson]
    rfl
  | _ => simp [ofJson?] at h

end Scalar

/-! ## Scalars and lists of scalars -/

namespace Decode

variable {α : Type} {item : Json → Decoded α} {items : List Json}

theorem list_array_eq_ok_iff {values : List α} :
    list item (.array items) = .ok values ↔ List.Forall₂ (fun json a => item json = .ok a) items values := by
  rw [list]
  induction items generalizing values with
  | nil => cases values <;> simp [pure, Except.pure]
  | cons json items ih =>
    cases values with
    | nil => simp [Except.bind_eq_ok_iff, pure, Except.pure]
    | cons a values => simp [Except.bind_eq_ok_iff, pure, Except.pure, ih]

/-- A list is read if all its items are. -/
theorem exists_list_array_eq_ok_iff :
    (∃ values, list item (.array items) = .ok values) ↔ ∀ json ∈ items, ∃ a, item json = .ok a := by
  simp only [list_array_eq_ok_iff]
  induction items with
  | nil => simp
  | cons json items ih =>
    rw [List.forall_mem_cons, ← ih]
    constructor
    · rintro ⟨_, hvalues⟩
      cases hvalues with
      | cons hjson hitems => exact ⟨⟨_, hjson⟩, _, hitems⟩
    · rintro ⟨⟨a, hjson⟩, values, hitems⟩
      exact ⟨a :: values, .cons hjson hitems⟩

/-- What is not an error is a value. -/
theorem exists_eq_error_iff {read : Decoded α} : (∃ error, read = .error error) ↔ ¬∃ a, read = .ok a := by
  cases read <;> simp

theorem scalar_eq_ok_iff : scalar json = .ok s ↔ Scalar.ofJson? json = some s := by
  rw [scalar]
  cases Scalar.ofJson? json <;> simp

/-- Scalars are all but null and the containers. -/
theorem exists_scalar_eq_error_iff : (∃ error, scalar json = .error error) ↔
    json = .null ∨ (∃ items, json = .array items) ∨ ∃ members, json = .object members := by
  cases json <;> simp [scalar, Scalar.ofJson?]

/-- A list of scalars has no item that is no scalar. -/
theorem exists_list_scalar_eq_error_iff : (∃ error, list scalar (.array items) = .error error) ↔
    ∃ json ∈ items, ∃ error, scalar json = .error error := by
  simp only [exists_eq_error_iff, exists_list_array_eq_ok_iff]
  push Not
  rfl

theorem ofJson_of_list_scalar {scalars : List Scalar} (h : list scalar (.array items) = .ok scalars) :
    Value.ofJson (.array items) = .list (scalars.map Scalar.toValue) := by
  rw [list_array_eq_ok_iff] at h
  rw [Value.ofJson]
  congr 1
  induction h with
  | nil => rfl
  | cons hjson _ ih =>
    rw [Value.ofJsonItems, List.map_cons, ih, Scalar.ofJson_of_ofJson? (scalar_eq_ok_iff.1 hjson)]

end Decode

/-! ## Written scalars -/

namespace Scalar

/-- A text can spell the scalar. -/
theorem IsFinite.printable (h : s.IsFinite) : s.toJson.Printable := by
  cases s with
  | bool b => exact .bool b
  | int n => exact .integer n.minValue_le_toInt (Int.lt_of_le_of_lt n.toInt_le (by decide))
  | float x => exact .float h
  | string s => exact .string s

theorem printable_array {scalars : List Scalar} (h : ∀ s ∈ scalars, s.IsFinite) :
    (Json.array (scalars.map toJson)).Printable :=
  .array (List.forall_mem_map.2 fun s hs => (h s hs).printable)

/-- **The two readings of a JSON argument agree on scalars and lists of scalars.** Reading as scalars fails on null
    and containers only. It gives back every finite scalar, in its kind, from the text that was written for it. -/
theorem readings_agree (json : Json) (items : List Json) :
    scalar json = (ScalarKind.all.findSome? (·.read? json)).elim (.error .notScalar) .ok ∧
    (∀ s, scalar json = .ok s → Value.ofJson json = s.toValue) ∧
    (∀ scalars, list scalar (.array items) = .ok scalars →
      Value.ofJson (.array items) = .list (scalars.map toValue)) ∧
    ((∃ error, scalar json = .error error) ↔
      json = .null ∨ (∃ items, json = .array items) ∨ ∃ members, json = .object members) ∧
    ((∃ error, list scalar (.array items) = .error error) ↔
      ∃ item ∈ items, ∃ error, scalar item = .error error) ∧
    (∀ s : Scalar, s.IsFinite → ∃ read, Json.parse? s.toJson.compact = some read ∧ scalar read = .ok s) ∧
    ∀ scalars : List Scalar, (∀ s ∈ scalars, s.IsFinite) →
      ∃ read, Json.parse? (Json.array (scalars.map toJson)).compact = some read ∧ list scalar read = .ok scalars := by
  refine ⟨?_, fun s h => ofJson_of_ofJson? (scalar_eq_ok_iff.1 h), fun _ => ofJson_of_list_scalar,
    exists_scalar_eq_error_iff, exists_list_scalar_eq_error_iff, fun s h => ?_, fun scalars h => ?_⟩
  · rw [← ofJson?_eq_findSome?, scalar]
    cases ofJson? json <;> rfl
  · exact ⟨s.toJson, Json.parse?_compact h.printable, scalar_toJson s⟩
  · exact ⟨_, Json.parse?_compact (printable_array h), list_map scalar_toJson scalars⟩

/-- The agreement on the least integer, and on a list that holds one as an integer and as a floating-point number. -/
theorem readings_agree_at_limits :
    scalar (.integer (-(2 ^ 63))) = .ok (.int Int64.minValue) ∧
    Value.ofJson (.integer (-(2 ^ 63))) = .int Int64.minValue ∧
    Value.ofJson (.array [.integer 1, .float (.ofInt 1)]) = .list [.int 1, .float (.ofInt 1)] ∧
    (∃ read, Json.parse? (Json.float (.ofInt 1)).compact = some read ∧ scalar read = .ok (.float (.ofInt 1))) ∧
    ∃ read, Json.parse? (Json.array [.integer 1, .float (.ofInt 1)]).compact = some read ∧
      list scalar read = .ok [.int 1, .float (.ofInt 1)] := by
  have hread : scalar (.integer (-(2 ^ 63))) = .ok (.int Int64.minValue) := scalar_eq_ok_iff.2 (by decide +kernel)
  have hlist : list scalar (.array [.integer 1, .float (.ofInt 1)]) = .ok [.int 1, .float (.ofInt 1)] :=
    list_map scalar_toJson [.int 1, .float (.ofInt 1)]
  have hone : IsFinite (.float (.ofInt 1)) := by
    have hfinite : (Binary64.ofInt 1).isFinite = true := by decide +kernel
    exact hfinite
  obtain ⟨-, hvalue, hvalues, -, -, hscalar, hscalars⟩ :=
    readings_agree (.integer (-(2 ^ 63))) [.integer 1, .float (.ofInt 1)]
  refine ⟨hread, hvalue _ hread, hvalues _ hlist, hscalar (.float (.ofInt 1)) hone, ?_⟩
  exact hscalars [.int 1, .float (.ofInt 1)] (by simpa [IsFinite] using hone)

end Scalar

end SchemaConstraints
