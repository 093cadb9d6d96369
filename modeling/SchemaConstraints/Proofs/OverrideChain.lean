import SchemaConstraints.Proofs.Attach.Coercion
import SchemaConstraints.Proofs.Attach.NonEmpty
import SchemaConstraints.Proofs.Attach.ScalarAxes
import SchemaConstraints.Proofs.Attach.Site
import SchemaConstraints.Proofs.Narrowing.Preorder
import SchemaConstraints.Proofs.Override

set_option autoImplicit false

/-! # Overrides form chains

Where an element overrides one that overrides a third, it is enough to check neighbours: two allowed
overrides in a row make an allowed override, because narrowing is transitive and all elements of a chain
are of one kind, so that all comparisons go in one direction. A site may override itself as long as no
constraint on it has NaN. That can only be so for a constraint that was not read from JSON text
(`noNaN_of_attach`). -/

namespace SchemaConstraints

/-! ## Positions -/

namespace Position

variable {position : Position} {a b c : Option Constraint}

theorem allows_trans (hab : position.allows a b = true) (hbc : position.allows b c = true) :
    position.allows a c = true := by
  have htrans : ∀ x y z : Constraint, x.narrows y = true → y.narrows z = true → x.narrows z = true :=
    fun _ _ _ => Constraint.narrows_trans
  cases position with
  | output => exact narrowsAxis_trans htrans hbc hab
  | input => exact narrowsAxis_trans htrans hab hbc

theorem allows_self (h : ∀ constraint, a = some constraint → constraint.NoNaN) : position.allows a a = true := by
  have hself : narrowsAxis Constraint.narrows a a = true :=
    narrowsAxis_self_iff.2 fun constraint hconstraint => Constraint.narrows_self_iff.2 (h constraint hconstraint)
  cases position <;> exact hself

end Position

/-! ## Constraints without NaN -/

/-- No JSON number is NaN, and neither is an integer that is rounded to a floating-point number. -/
theorem Scalar.isNaN_of_decode {json : Json} {s : Scalar} (hwell : json.WellFormed)
    (h : Decode.scalar json = .ok s) : s.isNaN = false := by
  cases hwell with
  | integer n =>
    obtain rfl := Except.ok.inj h
    rw [Number.ofInt]
    split
    · rfl
    · exact Binary64.isNaN_ofInt n
  | float hnan =>
    obtain rfl := Except.ok.inj h
    exact hnan
  | bool | string =>
    obtain rfl := Except.ok.inj h
    rfl
  | _ => simp [Decode.scalar, ofJson?] at h

namespace ScalarOptions

theorem noNaN_of_decode {members : List (String × Json)} {options : ScalarOptions}
    (hwell : (Json.object members).WellFormed) (h : decode (.object members) = .ok options) : options.NoNaN := by
  have hbounds := boundsHavePoints_of_decode hwell h
  obtain ⟨hnodup, hmembers⟩ := Json.wellFormed_object_iff.1 hwell
  refine ⟨fun min hmin => Number.isNaN_eq_false_iff.2 (hbounds.min min hmin),
    fun max hmax => Number.isNaN_eq_false_iff.2 (hbounds.max max hmax), fun allowed hallowed entry hentry => ?_⟩
  have hsetting := Decode.Record.setting_of_read record_fills.2.1 rfl hnodup h
  rw [hallowed] at hsetting
  obtain ⟨json, hfind, -, hlist⟩ := hsetting
  obtain ⟨items, rfl, -⟩ := Decode.length_of_list hlist
  obtain ⟨item, hitem, hread⟩ := Decode.exists_of_mem_list hlist entry hentry
  have hitems := Json.wellFormed_array_iff.1 (hmembers _ (Fields.mem_of_find? hfind))
  exact Scalar.isNaN_of_decode (hitems item hitem) hread

end ScalarOptions

namespace Constraint

theorem noNaN_of_decode {family : Family} {members : List (String × Json)} {constraint : Constraint}
    (hwell : (Json.object members).WellFormed) (h : decode family (.object members) = .ok constraint) :
    constraint.NoNaN := by
  cases family with
  | scalar =>
    obtain ⟨options, hread, rfl⟩ := Except.map_eq_ok_iff.1 h
    exact ScalarOptions.noNaN_of_decode hwell hread
  | list | object | upload =>
    obtain ⟨options, -, rfl⟩ := Except.map_eq_ok_iff.1 h
    trivial

theorem NoNaN.coerce {constraint : Constraint} (h : constraint.NoNaN) (stringScalars : List String)
    (element : SchemaElement) : (constraint.coerce stringScalars element).NoNaN := by
  cases constraint with
  | scalar options => exact ScalarOptions.NoNaN.coerce h stringScalars element
  | list | object | upload => trivial

end Constraint

/-! ## Sites without NaN -/

/-- No constraint of the site has NaN. -/
def Site.NoNaN (site : Site) : Prop :=
  ∀ family constraint, site.constraints.get? family = some constraint → constraint.NoNaN

namespace Registry

variable {registry : Registry} {element : SchemaElement}

theorem noNaN_of_attach {directive : String} {arguments : Json} {constraint : Constraint}
    (hwell : arguments.WellFormed) (h : registry.attach element directive arguments = .ok constraint) :
    constraint.NoNaN := by
  obtain ⟨family, read, -, hread, -, -, rfl⟩ := attach_eq_ok_iff.1 h
  obtain ⟨members, rfl, -, hdecode⟩ := readArguments_eq_ok_iff.1 hread
  exact (Constraint.noNaN_of_decode hwell hdecode).coerce _ _

/-- A site whose directives are written as JSON has no NaN. -/
theorem noNaN_of_site {directives : List (String × Json)} {site : Site}
    (hwell : ∀ directive ∈ directives, directive.2.WellFormed)
    (h : registry.site element directives = .ok site) : site.NoNaN := by
  intro family constraint hconstraint
  obtain ⟨directive, hmem, hattach, -⟩ := ((get?_of_site h).2 family constraint).1 hconstraint
  exact noNaN_of_attach (hwell directive hmem) hattach

/-! ## Chains of overrides -/

variable {first second third : Site}

theorem checkOverride_trans (hkind : second.element.kind = third.element.kind)
    (hfirst : registry.checkOverride first second = .ok ()) (hsecond : registry.checkOverride second third = .ok ()) :
    registry.checkOverride first third = .ok () := by
  rw [checkOverride_eq_ok_iff] at hfirst hsecond ⊢
  intro family
  -- both comparisons go the way that the kind of their child calls for, which is one kind
  have hposition : second.position family = third.position family := by
    rw [Site.position, Site.position, hkind]
  have hallows := hfirst family
  rw [allowsOverride, hposition] at hallows
  exact Position.allows_trans hallows (hsecond family)

theorem checkOverride_self {site : Site} (h : site.NoNaN) : registry.checkOverride site site = .ok () :=
  checkOverride_eq_ok_iff.2 fun family => Position.allows_self (h family)

/-- **Overriding is a preorder.** Narrowing is transitive, and a constraint narrows itself exactly if it has
    no NaN. So an element may override what its parent overrides, among elements of one kind, and a site whose
    directives are written as JSON may override itself. -/
theorem overriding_is_preorder :
    (∀ a b c : Constraint, c.narrows b = true → b.narrows a = true → c.narrows a = true) ∧
    (∀ a : Constraint, a.narrows a = true ↔ a.NoNaN) ∧
    (∀ (registry : Registry) (first second third : Site), second.element.kind = third.element.kind →
      registry.checkOverride first second = .ok () → registry.checkOverride second third = .ok () →
      registry.checkOverride first third = .ok ()) ∧
    ∀ (registry checker : Registry) (element : SchemaElement) (directives : List (String × Json)) (site : Site),
      (∀ directive ∈ directives, directive.2.WellFormed) → registry.site element directives = .ok site →
      checker.checkOverride site site = .ok () :=
  ⟨fun _ _ _ => Constraint.narrows_trans, fun _ => Constraint.narrows_self_iff,
    fun _ _ _ _ => checkOverride_trans, fun _ _ _ _ _ hwell hsite => checkOverride_self (noNaN_of_site hwell hsite)⟩

/-- Bounds of both kinds, one after the other, and allowed values that turn into floating-point numbers. -/
theorem overriding_chain_of_bounds :
    let price := SchemaElement.field "Product" "price" TypeRef.float
    let bounded := fun min : Number => Site.mk price { scalar := some { min := some min } }
    let allowed : Site := ⟨price, { scalar := some { oneOf := some [.float (.ofInt 1), .float (.ofInt 2)] } }⟩
    let directives := [("constraint", Json.object [("oneOf", .array [.integer 1, .integer 2])])]
    (default.checkOverride (bounded (.int 0)) (bounded (.float .one)) = .ok () ∧
      default.checkOverride (bounded (.float .one)) (bounded (.int 3)) = .ok () ∧
      default.checkOverride (bounded (.int 0)) (bounded (.int 3)) = .ok ()) ∧
    default.site price directives = .ok allowed ∧ default.checkOverride allowed allowed = .ok () := by
  intro price bounded allowed directives
  have hfirst : default.checkOverride (bounded (.int 0)) (bounded (.float .one)) = .ok () := by
    rw [checkOverride_eq_ok_iff]
    intro family
    cases family <;> decide +kernel
  have hsecond : default.checkOverride (bounded (.float .one)) (bounded (.int 3)) = .ok () := by
    rw [checkOverride_eq_ok_iff]
    intro family
    cases family <;> decide +kernel
  have hattach : default.attach price "constraint" (.object [("oneOf", .array [.integer 1, .integer 2])]) =
      .ok (.scalar { oneOf := some [.float (.ofInt 1), .float (.ofInt 2)] }) := by
    refine attach_eq_ok_iff.2 ⟨.scalar, .scalar { oneOf := some [.int 1, .int 2] }, rfl,
      readArguments_eq_ok_iff.2 ⟨_, rfl, ?_, rfl⟩, rfl, rfl, rfl⟩
    simp +decide [Family.arguments, ArgumentDefinition.ofScalar, ArgumentDefinition.firstInvalid]
  have hsite : default.site price directives = .ok allowed := by
    simp only [site, directives, List.foldlM_cons, List.foldlM_nil, attachTo, hattach]
    rfl
  have hwell : ∀ directive ∈ directives, directive.2.WellFormed := by simp [directives]
  have hchain := overriding_is_preorder.2.2.1 default (bounded (.int 0)) (bounded (.float .one)) (bounded (.int 3))
    rfl hfirst hsecond
  have hself := overriding_is_preorder.2.2.2 default default price directives allowed hwell hsite
  exact ⟨⟨hfirst, hsecond, hchain⟩, hsite, hself⟩

end Registry

end SchemaConstraints
