import SchemaConstraints.Proofs.Narrowing.Acceptance
import SchemaConstraints.Proofs.Narrowing.Presence
import SchemaConstraints.Site

set_option autoImplicit false

/-! # Overrides stand in for what they override

`checkOverride` compares the constraints of two sites family by family, each in the direction that the
position of the overriding element calls for. Where it succeeds, values flow safely: an input that the
parent takes is taken by the child, an output that the child gives is one that the parent could have
given. The presence rules of a field speak of its arguments, so they go the way of inputs although the
field is an output. -/

namespace SchemaConstraints

variable {bindings : Bindings} {value : Value}

/-! ## Constraints of any family -/

namespace Constraint

/-- Presence rules list no name twice. Constraints of the other families list no names. -/
def NoRepeats : Constraint → Prop
  | .object options => options.NoRepeats
  | _ => True

/-- A constraint accepts whatever constraints that narrow it accept, whichever family they are of. -/
theorem verdict_of_narrows {n w : Constraint} (h : n.narrows w = true) (hn : n.NoRepeats)
    (hw : w.NoRepeats) (haccepts : n.verdict bindings value = none) : w.verdict bindings value = none := by
  refine verdict_of_narrows_of_object h (fun n' w' hn' hw' h' => ?_) haccepts
  rw [hn'] at hn
  rw [hw'] at hw
  exact PresenceOptions.verdict_of_narrows h' hn hw

/-- The same if either may be missing: a missing constraint accepts everything. -/
theorem verdict_of_covariant {parent child : Option Constraint} (h : covariant parent child = true)
    (hparent : ∀ c, parent = some c → c.NoRepeats) (hchild : ∀ c, child = some c → c.NoRepeats)
    (haccepts : child.bind (·.verdict bindings value) = none) :
    parent.bind (·.verdict bindings value) = none := by
  cases parent with
  | none => rfl
  | some w =>
    cases child with
    | none => simp [covariant, narrowsAxis] at h
    | some n =>
      simp only [covariant, narrowsAxis] at h
      exact verdict_of_narrows h (hchild n rfl) (hparent w rfl) haccepts

end Constraint

/-! ## Sites, family by family -/

theorem Family.mem_all (family : Family) : family ∈ Family.all := by
  cases family <;> decide

namespace Site

/-- The verdict of one family's constraint, which passes if the family has none. -/
def familyVerdict (site : Site) (family : Family) (bindings : Bindings) (value : Value) : Verdict :=
  (site.constraints.get? family).bind (·.verdict bindings value)

/-- A site takes a value if and only if all its families do. -/
theorem violation?_eq_none_iff {site : Site} :
    site.violation? bindings value = none ↔ ∀ family, site.familyVerdict family bindings value = none := by
  rw [violation?, Option.map_eq_none_iff, verdict, ConstraintSet.toList, List.findSome?_eq_none_iff]
  constructor
  · intro h family
    rw [familyVerdict, Option.bind_eq_none_iff]
    intro constraint hconstraint
    exact h constraint (List.mem_filterMap.2 ⟨family, family.mem_all, hconstraint⟩)
  · intro h constraint hmem
    obtain ⟨family, -, hconstraint⟩ := List.mem_filterMap.1 hmem
    exact Option.bind_eq_none_iff.1 (h family) constraint hconstraint

/-- The presence rules of a site, if it has any, list no name twice. -/
def NoRepeats (site : Site) : Prop := ∀ options, site.constraints.object = some options → options.NoRepeats

theorem NoRepeats.constraint {site : Site} (h : site.NoRepeats) {family : Family} {constraint : Constraint}
    (hconstraint : site.constraints.get? family = some constraint) : constraint.NoRepeats := by
  cases family with
  | object =>
    obtain ⟨options, hoptions, rfl⟩ := Option.map_eq_some_iff.1 hconstraint
    exact h options hoptions
  | scalar | list | upload =>
    obtain ⟨_, -, rfl⟩ := Option.map_eq_some_iff.1 hconstraint
    trivial

/-! ## Positions -/

theorem position_of_isInput {site : Site} (h : site.element.kind.isInput = true) (family : Family) :
    site.position family = .input := by
  simp [position, Position.ofKind, h]

theorem position_of_objectType {site : Site} (h : site.element.kind = .objectType) (family : Family) :
    site.position family = .output := by
  simp [position, Position.ofKind, ElementKind.isInput, h]

theorem position_of_field {site : Site} (h : site.element.kind = .field) (family : Family) :
    site.position family = if family = .object then .input else .output := by
  simp [position, Position.ofKind, ElementKind.isInput, h]

end Site

/-! ## Accepted overrides -/

namespace Registry

variable {parent child : Site}

theorem checkOverride_eq_ok_iff {registry : Registry} :
    registry.checkOverride parent child = .ok () ↔ ∀ family, allowsOverride parent child family = true := by
  rw [checkOverride]
  constructor
  · intro h family
    split at h
    · simp at h
    · next hfind => simpa using List.find?_eq_none.1 hfind family family.mem_all
  · intro h
    rw [List.find?_eq_none.2 fun family _ => by simp [h family]]

section

variable {family : Family} (h : allowsOverride parent child family = true) (hparent : parent.NoRepeats)
  (hchild : child.NoRepeats)
include h hparent hchild

/-- In an input position the child takes what the parent takes. -/
theorem familyVerdict_of_input (hposition : child.position family = .input)
    (haccepts : parent.familyVerdict family bindings value = none) :
    child.familyVerdict family bindings value = none := by
  rw [allowsOverride, hposition, Position.allows, contravariant] at h
  exact Constraint.verdict_of_covariant h (fun _ => hchild.constraint) (fun _ => hparent.constraint) haccepts

/-- In an output position the parent could have given what the child gives. -/
theorem familyVerdict_of_output (hposition : child.position family = .output)
    (haccepts : child.familyVerdict family bindings value = none) :
    parent.familyVerdict family bindings value = none := by
  rw [allowsOverride, hposition, Position.allows] at h
  exact Constraint.verdict_of_covariant h (fun _ => hparent.constraint) (fun _ => hchild.constraint) haccepts

end

/-- **Accepted overrides are substitutable.** If the constraints of a child may override those of its
    parent, and their presence rules repeat no name, then for every value:
    an input element takes it if the parent does;
    an object type, or a field where neither side has presence rules, gives it only if the parent may;
    and the presence rules of a field, which are those of its arguments, take it if the parent's do. -/
theorem substitutable_of_checkOverride (registry : Registry) (hparent : parent.NoRepeats)
    (hchild : child.NoRepeats) (h : registry.checkOverride parent child = .ok ())
    (bindings : Bindings) (value : Value) :
    (child.element.kind ∈ [.argument, .variable, .inputType, .inputField] →
      parent.violation? bindings value = none → child.violation? bindings value = none) ∧
    (child.element.kind = .objectType ∨
        child.element.kind = .field ∧ parent.constraints.object = none ∧ child.constraints.object = none →
      child.violation? bindings value = none → parent.violation? bindings value = none) ∧
    (child.element.kind = .field →
      parent.familyVerdict .object bindings value = none →
        child.familyVerdict .object bindings value = none) := by
  have hallows := checkOverride_eq_ok_iff.1 h
  refine ⟨fun hkind haccepts => ?_, fun hkind haccepts => ?_, fun hkind haccepts => ?_⟩
  · have hinput : child.element.kind.isInput = true := by
      revert hkind
      cases child.element.kind <;> decide
    rw [Site.violation?_eq_none_iff] at haccepts ⊢
    intro family
    exact familyVerdict_of_input (hallows family) hparent hchild (Site.position_of_isInput hinput family)
      (haccepts family)
  · rw [Site.violation?_eq_none_iff] at haccepts ⊢
    intro family
    rcases hkind with hkind | ⟨hkind, hnone, -⟩
    · exact familyVerdict_of_output (hallows family) hparent hchild
        (Site.position_of_objectType hkind family) (haccepts family)
    · by_cases hfamily : family = .object
      · -- only here do fields turn around, and here there is nothing to check
        rw [hfamily, Site.familyVerdict, ConstraintSet.get?, hnone]
        rfl
      · refine familyVerdict_of_output (hallows family) hparent hchild ?_ (haccepts family)
        rw [Site.position_of_field hkind, if_neg hfamily]
  · refine familyVerdict_of_input (hallows .object) hparent hchild ?_ haccepts
    rw [Site.position_of_field hkind, if_pos rfl]

/-- An element with a lower bound and with a rule that asks for so many of two names, as far as they are given. -/
def boundedSite (element : SchemaElement) (min : Option Number) (count : Option Nat) : Site where
  element := element
  constraints :=
    { scalar := min.map fun min => { min := some min }
      object := count.map fun count => { atLeast := some ⟨count, ["a", "b"]⟩ } }

theorem noRepeats_boundedSite (element : SchemaElement) (min : Option Number) (count : Option Nat) :
    (boundedSite element min count).NoRepeats := by
  intro options hoptions
  obtain ⟨n, -, rfl⟩ := Option.map_eq_some_iff.1 hoptions
  simp [PresenceOptions.NoRepeats, PresenceOptions.rules, PresenceOptions.slots]

/-- An argument may lower its bound and a field may raise it, an object type may ask for more of its fields, and a
    field may ask for fewer of its arguments while it raises its bound. -/
theorem boundedSites_substitutable :
    let argument := SchemaElement.argument "Query" "totals" "above" TypeRef.int
    let field := { SchemaElement.field "Query" "total" TypeRef.int with members := ["a", "b"] }
    let type := SchemaElement.objectType "Total" ["a", "b"]
    let arguments := Value.object .input [("a", .int 1), ("b", .int 2)]
    let total := Value.object .output [("a", .int 1), ("b", .int 2)]
    (default.checkOverride (boundedSite argument (some (.int 3)) none) (boundedSite argument (some (.int 1)) none) =
        .ok () ∧
      (boundedSite argument (some (.int 3)) none).violation? [] (.int 4) = none ∧
      (boundedSite argument (some (.int 1)) none).violation? [] (.int 4) = none) ∧
    (default.checkOverride (boundedSite field (some (.int 1)) none) (boundedSite field (some (.int 3)) none) = .ok () ∧
      (boundedSite field (some (.int 3)) none).violation? [] (.int 4) = none ∧
      (boundedSite field (some (.int 1)) none).violation? [] (.int 4) = none) ∧
    (default.checkOverride (boundedSite type none (some 1)) (boundedSite type none (some 2)) = .ok () ∧
      (boundedSite type none (some 2)).violation? [] total = none ∧
      (boundedSite type none (some 1)).violation? [] total = none) ∧
    default.checkOverride (boundedSite field (some (.int 1)) (some 2)) (boundedSite field (some (.int 3)) (some 1)) =
        .ok () ∧
      (boundedSite field (some (.int 1)) (some 2)).familyVerdict .object [] arguments = none ∧
      (boundedSite field (some (.int 3)) (some 1)).familyVerdict .object [] arguments = none := by
  intro argument field type arguments total
  have hfour : ∀ element, (boundedSite element (some (.int 3)) none).violation? [] (.int 4) = none := by
    intro element
    rw [Site.violation?_eq_none_iff]
    intro family
    cases family with
    | scalar =>
      have hverdict : ScalarOptions.verdict { min := some (.int 3) } [] (.int 4) = none := by
        rw [ScalarOptions.verdict, Value.checkLeaves_eq_view]
        rfl
      exact hverdict
    | list | object | upload => rfl
  have hobject : ∀ element min shape,
      (boundedSite element min (some 2)).familyVerdict .object [] (.object shape [("a", .int 1), ("b", .int 2)]) =
        none := by
    intro element min shape
    have hverdict : PresenceOptions.verdict { atLeast := some ⟨2, ["a", "b"]⟩ } []
        (.object shape [("a", .int 1), ("b", .int 2)]) = none := by
      rw [PresenceOptions.verdict, Value.checkLeaves_eq_view]
      rfl
    exact hverdict
  have htotal : (boundedSite type none (some 2)).violation? [] total = none := by
    rw [Site.violation?_eq_none_iff]
    intro family
    cases family with
    | object => exact hobject type none .output
    | scalar | list | upload => rfl
  have hargument : default.checkOverride (boundedSite argument (some (.int 3)) none)
      (boundedSite argument (some (.int 1)) none) = .ok () := rfl
  have hfield : default.checkOverride (boundedSite field (some (.int 1)) none)
      (boundedSite field (some (.int 3)) none) = .ok () := rfl
  have htype : default.checkOverride (boundedSite type none (some 1)) (boundedSite type none (some 2)) = .ok () := rfl
  have hboth : default.checkOverride (boundedSite field (some (.int 1)) (some 2))
      (boundedSite field (some (.int 3)) (some 1)) = .ok () := rfl
  have hrepeats := noRepeats_boundedSite
  refine ⟨⟨hargument, hfour _, ?_⟩, ⟨hfield, hfour _, ?_⟩, ⟨htype, htotal, ?_⟩, hboth, hobject _ _ _, ?_⟩
  · exact (substitutable_of_checkOverride _ (hrepeats _ _ _) (hrepeats _ _ _) hargument _ _).1 (by decide) (hfour _)
  · exact (substitutable_of_checkOverride _ (hrepeats _ _ _) (hrepeats _ _ _) hfield _ _).2.1
      (.inr ⟨rfl, rfl, rfl⟩) (hfour _)
  · exact (substitutable_of_checkOverride _ (hrepeats _ _ _) (hrepeats _ _ _) htype _ _).2.1 (.inl rfl) htotal
  · exact (substitutable_of_checkOverride _ (hrepeats _ _ _) (hrepeats _ _ _) hboth _ _).2.2 rfl (hobject _ _ _)

end Registry

end SchemaConstraints
