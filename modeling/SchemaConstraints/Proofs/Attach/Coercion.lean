import Mathlib.Data.List.Forall2
import Mathlib.Logic.Relation
import SchemaConstraints.Proofs.Attach.Suits
import SchemaConstraints.Proofs.Json.WellFormed
import SchemaConstraints.Proofs.Narrowing.Preorder

set_option autoImplicit false

/-! # Allowed values in normal form

A whole number may be written for a floating-point number, and for an identifier. Scalars that are written
differently are still different scalars, so allowed values are coerced to values of the leaf before anything is
compared with them. `Scalar.Respelled` says which spellings stand for one another, without coercing anything, and
coercion picks one spelling of each: two options have the same coerced form exactly if they are respellings of each
other (`respelledAs_iff_coerce_eq`). Whether options fit an element does not depend on the spelling
(`checkFit_coerce`). -/

namespace SchemaConstraints

/-! ## Spellings of one allowed value -/

/-- On a floating-point leaf an integer may be written for the number that it is rounded to, and on an identifier
    for its digits. -/
inductive Scalar.Respelled (type : NamedType) : Scalar → Scalar → Prop
  | float {n : Int64} (h : type.kind = .float) : Respelled type (.int n) (.float (.ofInt n.toInt))
  | id {n : Int64} (h : type.kind = .id) : Respelled type (.int n) (.string (toString n.toInt))

namespace ScalarLeaf

variable {stringScalars : List String} {type : NamedType} {leaf : ScalarLeaf} {s t : Scalar}

theorem coerce_coerce (leaf : ScalarLeaf) (s : Scalar) : leaf.coerce (leaf.coerce s) = leaf.coerce s := by
  cases leaf <;> cases s <;> rfl

/-- A value can be one of the leaf exactly if its coerced form can. -/
theorem isNone_coerce?_coerce (leaf : ScalarLeaf) (s : Scalar) :
    (leaf.coerce? (leaf.coerce s)).isNone = (leaf.coerce? s).isNone := by
  cases leaf <;> cases s <;> rfl

theorem isNaN_coerce (h : s.isNaN = false) : (leaf.coerce s).isNaN = false := by
  cases leaf with
  | float =>
    cases s with
    | int n => exact Binary64.isNaN_ofInt n.toInt
    | bool | float | string => exact h
  | int | id | text => cases s <;> exact h

/-- Coercing changes at most the spelling. -/
theorem coerce_eq_or_respelled (h : leaf.StandsFor stringScalars type) (s : Scalar) :
    leaf.coerce s = s ∨ s.Respelled type (leaf.coerce s) := by
  cases leaf with
  | int | text => exact .inl (by cases s <;> rfl)
  | float =>
    cases s with
    | int n => exact .inr (.float h)
    | bool | float | string => exact .inl rfl
  | id =>
    cases s with
    | int n => exact .inr (.id h)
    | bool | float | string => exact .inl rfl

theorem coerce_eq_of_respelled (h : leaf.StandsFor stringScalars type) (hspelled : s.Respelled type t) :
    leaf.coerce s = leaf.coerce t := by
  cases hspelled with
  | float hkind => cases leaf <;> simp_all [StandsFor, coerce, coerce?]
  | id hkind => cases leaf <;> simp_all [StandsFor, coerce, coerce?]

/-- Values have one coerced form exactly if a chain of respellings leads from one to the other. -/
theorem eqvGen_respelled_iff (h : leaf.StandsFor stringScalars type) :
    Relation.EqvGen (Scalar.Respelled type) s t ↔ leaf.coerce s = leaf.coerce t := by
  constructor
  · intro hspelled
    induction hspelled with
    | rel s t hspelled => exact coerce_eq_of_respelled h hspelled
    | refl s => rfl
    | symm s t _ ih => exact ih.symm
    | trans s t u _ _ ihst ihtu => exact ihst.trans ihtu
  · intro hcoerce
    -- both are respellings of the coerced form
    have hcoerced : ∀ u, Relation.EqvGen (Scalar.Respelled type) u (leaf.coerce u) := by
      intro u
      rcases coerce_eq_or_respelled h u with hu | hu
      · rw [hu]
        exact .refl u
      · exact .rel u _ hu
    exact .trans s _ t (hcoerced s) (hcoerce ▸ .symm t _ (hcoerced t))

end ScalarLeaf

/-! ## Spellings of options -/

namespace ScalarOptions

/-- Options that differ at most in how their allowed values are spelled, position by position. -/
structure RespelledAs (type : NamedType) (a b : ScalarOptions) : Prop where
  oneOf : Option.Rel (List.Forall₂ (Relation.EqvGen (Scalar.Respelled type))) a.oneOf b.oneOf
  others : { a with oneOf := none } = { b with oneOf := none }

variable {stringScalars : List String} {element : SchemaElement} {leaf : ScalarLeaf} {a b options : ScalarOptions}

theorem coerce_of_leaf (hleaf : ScalarLeaf.ofType? stringScalars element.type = some leaf) (options : ScalarOptions) :
    options.coerce stringScalars element = { options with oneOf := options.oneOf.map (·.map leaf.coerce) } := by
  rw [coerce, hleaf]

theorem coerce_coerce (options : ScalarOptions) (stringScalars : List String) (element : SchemaElement) :
    (options.coerce stringScalars element).coerce stringScalars element = options.coerce stringScalars element := by
  cases hleaf : ScalarLeaf.ofType? stringScalars element.type with
  | none => simp only [coerce, hleaf]
  | some leaf => simp [coerce_of_leaf hleaf, Function.comp_def, ScalarLeaf.coerce_coerce]

/-- Options fit or do not fit whether or not their allowed values have been coerced. -/
theorem checkFit_coerce (options : ScalarOptions) (stringScalars : List String) (directive : String)
    (element : SchemaElement) :
    (options.coerce stringScalars element).checkFit stringScalars directive element =
      options.checkFit stringScalars directive element := by
  cases hleaf : ScalarLeaf.ofType? stringScalars element.type with
  | none => simp only [checkFit, hleaf]
  | some leaf =>
    have hforeign : foreignEntry? (options.coerce stringScalars element) leaf = options.foreignEntry? leaf := by
      rw [coerce_of_leaf hleaf, foreignEntry?, foreignEntry?]
      cases options.oneOf with
      | none => rfl
      | some allowed => simp [List.findIdx?_map, Function.comp_def, ScalarLeaf.isNone_coerce?_coerce]
    have hmisplaced : (options.coerce stringScalars element).misplaced? leaf = options.misplaced? leaf := by
      rw [coerce_of_leaf hleaf]
      rfl
    simp only [checkFit, hleaf, hforeign, hmisplaced]

/-- The entries of two settings have one coerced form, position by position, exactly if they are respellings. -/
theorem rel_respelled_iff {type : NamedType} (h : leaf.StandsFor stringScalars type)
    {setting other : Option (List Scalar)} :
    Option.Rel (List.Forall₂ (Relation.EqvGen (Scalar.Respelled type))) setting other ↔
      setting.map (·.map leaf.coerce) = other.map (·.map leaf.coerce) := by
  have hrelation : Relation.EqvGen (Scalar.Respelled type) = fun s t => leaf.coerce s = leaf.coerce t := by
    funext s t
    exact propext (ScalarLeaf.eqvGen_respelled_iff h)
  have hlists : ∀ allowed allowed' : List Scalar,
      List.Forall₂ (Relation.EqvGen (Scalar.Respelled type)) allowed allowed' ↔
        allowed.map leaf.coerce = allowed'.map leaf.coerce := by
    intro allowed allowed'
    rw [hrelation, ← List.forall₂_eq_eq_eq, List.forall₂_map_left_iff, List.forall₂_map_right_iff]
  cases setting <;> cases other <;> simp [hlists]

/-- Options have one coerced form exactly if they are respellings of each other. -/
theorem respelledAs_iff_coerce_eq (hleaf : ScalarLeaf.ofType? stringScalars element.type = some leaf) :
    a.RespelledAs element.type.leaf b ↔ b.coerce stringScalars element = a.coerce stringScalars element := by
  have hstands := ScalarLeaf.standsFor_of_ofType? hleaf
  rw [coerce_of_leaf hleaf, coerce_of_leaf hleaf, eq_comm]
  constructor
  · rintro ⟨honeOf, hothers⟩
    rw [(rel_respelled_iff hstands).1 honeOf]
    generalize Option.map (List.map leaf.coerce) b.oneOf = coerced
    exact congrArg (fun options : ScalarOptions => { options with oneOf := coerced }) hothers
  · intro hcoerce
    have honeOf : a.oneOf.map (·.map leaf.coerce) = b.oneOf.map (·.map leaf.coerce) :=
      congrArg ScalarOptions.oneOf hcoerce
    have hothers : { a with oneOf := none } = { b with oneOf := none } :=
      congrArg (fun options : ScalarOptions => { options with oneOf := none }) hcoerce
    exact ⟨(rel_respelled_iff hstands).2 honeOf, hothers⟩

theorem NoNaN.coerce (h : options.NoNaN) (stringScalars : List String) (element : SchemaElement) :
    (options.coerce stringScalars element).NoNaN := by
  rw [ScalarOptions.coerce]
  split
  · exact h
  · refine ⟨h.min, h.max, fun allowed hallowed entry hentry => ?_⟩
    obtain ⟨written, hwritten, rfl⟩ := Option.map_eq_some_iff.1 hallowed
    obtain ⟨source, hsource, rfl⟩ := List.mem_map.1 hentry
    exact ScalarLeaf.isNaN_coerce (h.oneOf written hwritten source hsource)

/-- **Coercion is a normal form of options that fit an element.** It respells allowed values and changes nothing
    else, to values of the leaf that fit again and stay as they are. What it gives does not depend on the spelling,
    so options that differ in nothing else narrow each other. -/
theorem coerced_is_normal_form {directive : String} (happlies : appliesTo stringScalars element = true)
    (hfit : options.checkFit stringScalars directive element = .ok ()) :
    options.RespelledAs element.type.leaf (options.coerce stringScalars element) ∧
      (∀ allowed, (options.coerce stringScalars element).oneOf = some allowed →
        ∀ entry ∈ allowed, element.type.leaf.Takes stringScalars entry) ∧
      (options.coerce stringScalars element).checkFit stringScalars directive element = .ok () ∧
      (options.coerce stringScalars element).coerce stringScalars element = options.coerce stringScalars element ∧
      ∀ other : ScalarOptions,
        (options.RespelledAs element.type.leaf other ↔
          other.coerce stringScalars element = options.coerce stringScalars element) ∧
        (options.RespelledAs element.type.leaf other →
          other.checkFit stringScalars directive element = .ok () ∧
          (options.NoNaN →
            (other.coerce stringScalars element).narrows (options.coerce stringScalars element) = true ∧
            (options.coerce stringScalars element).narrows (other.coerce stringScalars element) = true)) := by
  obtain ⟨leaf, hleaf⟩ : ∃ leaf, ScalarLeaf.ofType? stringScalars element.type = some leaf := by
    rw [appliesTo, Bool.and_eq_true] at happlies
    exact Option.isSome_iff_exists.1 happlies.2
  have hrespelled : ∀ other : ScalarOptions, options.RespelledAs element.type.leaf other ↔
      other.coerce stringScalars element = options.coerce stringScalars element :=
    fun _ => respelledAs_iff_coerce_eq hleaf
  have hagain := coerce_coerce options stringScalars element
  refine ⟨(hrespelled _).2 hagain, (suits_coerce happlies hfit).oneOf, ?_, hagain,
    fun other => ⟨hrespelled other, fun hother => ?_⟩⟩
  · rw [checkFit_coerce, hfit]
  · rw [hrespelled] at hother
    constructor
    · rw [← checkFit_coerce, hother, checkFit_coerce, hfit]
    · intro hnan
      rw [hother, and_self, narrows_self_iff]
      exact hnan.coerce stringScalars element

/-- Whole prices may be written either way. -/
theorem whole_prices_respelled :
    let prices := SchemaElement.field "Product" "prices" (.list TypeRef.float.required)
    let options : ScalarOptions := { oneOf := some [.int 3, .float .one] }
    let other : ScalarOptions := { oneOf := some [.float (.ofInt 3), .int 1] }
    appliesTo [] prices = true ∧ options.checkFit [] "constraint" prices = .ok () ∧
      options.RespelledAs prices.type.leaf other ∧ options.NoNaN ∧ options.narrows other = false ∧
      (options.coerce [] prices).narrows (other.coerce [] prices) = true := by
  intro prices options other
  have happlies : appliesTo [] prices = true := rfl
  have hfit : options.checkFit [] "constraint" prices = .ok () := rfl
  have hone : Scalar.Respelled prices.type.leaf (.int 1) (.float .one) := by
    have hrounded : Binary64.ofInt (1 : Int64).toInt = .one := by decide +kernel
    rw [← hrounded]
    exact .float rfl
  have hrespelled : options.RespelledAs prices.type.leaf other :=
    ⟨.some (.cons (.rel _ _ (.float rfl)) (.cons (.symm _ _ (.rel _ _ hone)) .nil)), rfl⟩
  have hnan : options.NoNaN := by
    refine ⟨by simp [options], by simp [options], ?_⟩
    simp only [options, Option.some.injEq, forall_eq']
    decide
  obtain ⟨-, -, -, -, hnormal⟩ := coerced_is_normal_form happlies hfit
  exact ⟨happlies, hfit, hrespelled, hnan, by decide +kernel, (((hnormal other).2 hrespelled).2 hnan).2⟩

end ScalarOptions

end SchemaConstraints
