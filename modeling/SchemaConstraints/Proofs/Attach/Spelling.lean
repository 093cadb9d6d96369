import SchemaConstraints.Proofs.Attach.ArgumentVisits
import SchemaConstraints.Proofs.Attach.NonEmpty
import SchemaConstraints.Proofs.Json.Written
import SchemaConstraints.Proofs.Number.Order
import SchemaConstraints.Proofs.Options.Records

set_option autoImplicit false

/-! # Writing constraints as arguments

A constraint is written as the arguments of its directive, with a member for every axis that is set
(`Constraint.spell`). Two readers look at these arguments. The check by their own constraints rejects them
only if some list of alternatives is empty, and reading them as options gives exactly the options that were
written, however many levels of lists there are and however great the counts. So the directive attaches what
was written wherever it fits (`attach_spell_eq_ok_iff`). -/

namespace SchemaConstraints

open Decode

/-! ## How constraints are written -/

namespace ScalarOptions

/-- The axes as arguments. -/
def settings (options : ScalarOptions) : List (String × Option Json) :=
  [("min", options.min.map Number.toJson),
   ("max", options.max.map Number.toJson),
   ("oneOf", options.oneOf.map fun entries => .array (entries.map Scalar.toJson)),
   ("minLength", options.minLength.map Json.ofNat),
   ("maxLength", options.maxLength.map Json.ofNat),
   ("regex", options.regex.map fun pattern => .string pattern.source)]

end ScalarOptions

/-- The axes of one level as arguments, with what is written for the levels below. -/
def ListLevel.settings (level : ListLevel) (below : Option Json) : List (String × Option Json) :=
  [("minItems", level.minItems.map Json.ofNat),
   ("maxItems", level.maxItems.map Json.ofNat),
   ("unique", if level.unique then some (.bool true) else none),
   ("innerList", below)]

namespace ListOptions

/-- A level and the levels below it, each nested in the one above. -/
def spellLevels (outer : ListLevel) : List ListLevel → Json
  | [] => .ofSettings (outer.settings none)
  | next :: inner => .ofSettings (outer.settings (some (spellLevels next inner)))

end ListOptions

/-- The fields of a quota as they are written. -/
def Quota.settings (quota : Quota) : List (String × Option Json) :=
  [("count", some (.ofNat quota.count)),
   ("from", some (.strings quota.names))]

namespace PresenceOptions

/-- The rules as arguments. -/
def settings (options : PresenceOptions) : List (String × Option Json) :=
  [("atLeastOne", options.atLeastOne.map Json.strings),
   ("atMostOne", options.atMostOne.map Json.strings),
   ("exactlyOne", options.exactlyOne.map Json.strings),
   ("atLeast", options.atLeast.map fun quota => .ofSettings quota.settings),
   ("atMost", options.atMost.map fun quota => .ofSettings quota.settings),
   ("exactly", options.exactly.map fun quota => .ofSettings quota.settings)]

end PresenceOptions

namespace UploadOptions

/-- The axes as arguments. -/
def settings (options : UploadOptions) : List (String × Option Json) :=
  [("maxSize", options.maxSize.map Json.ofNat),
   ("mimeType", options.mimeTypes.map Json.strings)]

end UploadOptions

/-- The arguments that spell a constraint. -/
def Constraint.spell : Constraint → Json
  | .scalar options => .ofSettings options.settings
  | .list options => ListOptions.spellLevels options.outer options.inner
  | .object options => .ofSettings options.settings
  | .upload options => .ofSettings options.settings

/-! ## What is written is read back -/

/-- An integer of 64 bits stays an integer. -/
theorem Number.ofInt_toInt (n : Int64) : ofInt n.toInt = .int n := by
  rw [ofInt, if_pos ⟨n.minValue_le_toInt, n.toInt_le⟩, Int64.ofInt_toInt]

namespace Decode

theorem number_toJson (n : Number) : number n.toJson = .ok n := by
  cases n with
  | int n => rw [number, Number.toJson, Number.ofJson?, Number.ofInt_toInt]
  | float x => rfl

theorem scalar_toJson (s : Scalar) : scalar s.toJson = .ok s := by
  cases s with
  | int n => rw [scalar, Scalar.toJson, Scalar.ofJson?, Number.ofInt_toInt]; rfl
  | _ => rfl

theorem natural_ofNat (typeName : String) (n : Nat) : natural typeName (.ofNat n) = .ok n := by
  rw [Json.ofNat, natural, if_pos (Int.natCast_nonneg n), Int.toNat_natCast]

theorem pattern_source (p : Pattern) : pattern (.string p.source) = .ok p := by
  simp only [pattern, string, bind, Except.bind, p.compile_source]

theorem list_map {α : Type} {item : Json → Decoded α} {write : α → Json} (h : ∀ a, item (write a) = .ok a)
    (values : List α) : list item (.array (values.map write)) = .ok values := by
  rw [list]
  induction values with
  | nil => rfl
  | cons value values ih =>
    rw [List.map_cons, List.mapM_cons, h value]
    exact Except.bind_eq_ok_iff.2 ⟨value, rfl, Except.bind_eq_ok_iff.2 ⟨values, ih, rfl⟩⟩

theorem list_strings (names : List String) : list string (.strings names) = .ok names := by
  have hstring : ∀ name : String, string (.string name) = .ok name := fun _ => rfl
  exact list_map hstring names

end Decode

theorem Quota.decode_settings (quota : Quota) : decode (.ofSettings quota.settings) = .ok quota := by
  have hwritten : record.Written ⟨0, []⟩ quota quota.settings _ :=
    .cons record_fills.1 (by decide) (natural_ofNat _ quota.count) <|
    .cons record_fills.2 (by decide) (list_strings quota.names) .nil
  obtain ⟨⟨count, names⟩, hread, rfl, rfl, -⟩ := Record.read_of_written hwritten (by simp [settings])
    (by simp [record, settings])
  exact hread

theorem ScalarOptions.decode_settings (options : ScalarOptions) :
    decode (.ofSettings options.settings) = .ok options := by
  obtain ⟨⟨hmin, hmax⟩, honeOf, ⟨hminLength, hmaxLength⟩, hregex⟩ := record_fills
  have hwritten : record.Written {} options options.settings _ :=
    .cons hmin (by decide) (spells_orNull fun n _ => ⟨by cases n <;> simp [Number.toJson], number_toJson n⟩) <|
    .cons hmax (by decide) (spells_orNull fun n _ => ⟨by cases n <;> simp [Number.toJson], number_toJson n⟩) <|
    .cons honeOf (by decide) (spells_orNull fun entries _ => ⟨by simp, list_map scalar_toJson entries⟩) <|
    .cons hminLength (by decide) (spells_orNull fun n _ => ⟨by simp [Json.ofNat], natural_ofNat _ n⟩) <|
    .cons hmaxLength (by decide) (spells_orNull fun n _ => ⟨by simp [Json.ofNat], natural_ofNat _ n⟩) <|
    .cons hregex (by decide) (spells_orNull fun p _ => ⟨by simp, pattern_source p⟩) .nil
  obtain ⟨result, hread, hparts⟩ := Record.read_of_written hwritten (by simp [settings]) (by simp [record])
  obtain ⟨min, max, oneOf, minLength, maxLength, regex⟩ := result
  obtain ⟨rfl, rfl, rfl, rfl, rfl, rfl, -⟩ := hparts
  exact hread

theorem UploadOptions.decode_settings (options : UploadOptions) :
    decode (.ofSettings options.settings) = .ok options := by
  have hwritten : record.Written {} options options.settings _ :=
    .cons record_fills.1 (by decide) (spells_orNull fun n _ => ⟨by simp [Json.ofNat], natural_ofNat _ n⟩) <|
    .cons record_fills.2 (by decide) (spells_orNull fun types _ => ⟨by simp [Json.strings], list_strings types⟩) .nil
  obtain ⟨⟨maxSize, mimeTypes⟩, hread, rfl, rfl, -⟩ := Record.read_of_written hwritten (by simp [settings])
    (by simp [record])
  exact hread

theorem PresenceOptions.decode_settings (options : PresenceOptions) :
    decode (.ofSettings options.settings) = .ok options := by
  obtain ⟨⟨hatLeastOne, hatMostOne, hexactlyOne⟩, hatLeast, hatMost, hexactly⟩ := record_fills
  have hnames : ∀ rule : Option (List String), Spells (orNull (list string)) none rule (rule.map Json.strings) :=
    fun _ => spells_orNull fun names _ => ⟨by simp [Json.strings], list_strings names⟩
  have hquota : ∀ rule : Option Quota,
      Spells (orNull Quota.decode) none rule (rule.map fun quota => .ofSettings quota.settings) :=
    fun _ => spells_orNull fun quota _ => ⟨by simp [Json.ofSettings], quota.decode_settings⟩
  have hwritten : record.Written {} options options.settings _ :=
    .cons hatLeastOne (by decide) (hnames _) <| .cons hatMostOne (by decide) (hnames _) <|
    .cons hexactlyOne (by decide) (hnames _) <| .cons hatLeast (by decide) (hquota _) <|
    .cons hatMost (by decide) (hquota _) <| .cons hexactly (by decide) (hquota _) .nil
  obtain ⟨result, hread, hparts⟩ := Record.read_of_written hwritten (by simp [settings]) (by simp [record])
  obtain ⟨atLeastOne, atMostOne, exactlyOne, atLeast, atMost, exactly⟩ := result
  obtain ⟨rfl, rfl, rfl, rfl, rfl, rfl, -⟩ := hparts
  exact hread

namespace ListOptions

/-- One level is read back if the levels below are. -/
theorem decode_levelSettings (outer : ListLevel) {inner : Option ListOptions} {below : Option Json}
    (hbelow : Spells (orNull decode) none inner below) :
    decode (.ofSettings (outer.settings below)) = .ok (nest outer inner) := by
  obtain ⟨⟨hminItems, hmaxItems⟩, hunique, hinner⟩ := record_fills
  have hflag : Spells Decode.bool false outer.unique (if outer.unique then some (.bool true) else none) := by
    cases outer.unique <;> rfl
  have hwritten : record.Written {} (nest outer inner) (outer.settings below) _ :=
    .cons hminItems (by decide) (spells_orNull fun n _ => ⟨by simp [Json.ofNat], natural_ofNat _ n⟩) <|
    .cons hmaxItems (by decide) (spells_orNull fun n _ => ⟨by simp [Json.ofNat], natural_ofNat _ n⟩) <|
    .cons hunique (by decide) hflag <|
    .cons hinner (by decide) (by rwa [innerList_nest]) .nil
  obtain ⟨result, hread, hparts⟩ := Record.read_of_written hwritten (by simp [ListLevel.settings]) (by simp [record])
  obtain ⟨hminItems, hmaxItems, hunique, hinner, -⟩ := hparts
  have houter : result.outer = outer := by
    obtain ⟨⟨minItems, maxItems, unique⟩, levels⟩ := result
    obtain ⟨rfl, rfl, rfl⟩ := And.intro hminItems (And.intro hmaxItems hunique)
    rfl
  rw [decode_eq_read, hread, ← nest_innerList result, hinner, houter, innerList_nest]

theorem decode_spellLevels (outer : ListLevel) (inner : List ListLevel) :
    decode (spellLevels outer inner) = .ok ⟨outer, inner⟩ := by
  induction inner generalizing outer with
  | nil =>
    have hopen : Spells (orNull decode) none none none := rfl
    exact decode_levelSettings outer hopen
  | cons next inner ih =>
    have hnull : spellLevels next inner ≠ .null := by
      cases inner <;> simp [spellLevels, Json.ofSettings]
    have hbelow : Spells (orNull decode) none (some ⟨next, inner⟩) (some (spellLevels next inner)) :=
      orNull_eq_ok_some_iff.2 ⟨hnull, ih next⟩
    exact decode_levelSettings outer hbelow

end ListOptions

/-- **The arguments that spell a constraint are read as the constraint.** -/
theorem Constraint.decode_spell (constraint : Constraint) :
    decode constraint.family constraint.spell = .ok constraint := by
  cases constraint with
  | scalar options => exact Except.map_eq_ok_iff.2 ⟨_, options.decode_settings, rfl⟩
  | list options => exact Except.map_eq_ok_iff.2 ⟨_, ListOptions.decode_spellLevels _ _, rfl⟩
  | object options => exact Except.map_eq_ok_iff.2 ⟨_, options.decode_settings, rfl⟩
  | upload options => exact Except.map_eq_ok_iff.2 ⟨_, options.decode_settings, rfl⟩

/-! ## What is written passes its own constraints -/

namespace ArgumentDefinition

variable {definition : ArgumentDefinition} {path : List String}

/-- Arguments pass if each that is written passes. -/
theorem firstInvalid_setMembers_iff {settings : List (String × Option Json)} {definitions : List ArgumentDefinition}
    (hnames : definitions.map (·.name) = settings.map (·.1)) (hnodup : (settings.map (·.1)).Nodup) :
    firstInvalid path (Json.setMembers settings) definitions = none ↔
      List.Forall₂ (fun definition setting => definition.fault path setting.2 = none) definitions settings := by
  have hfind : ∀ setting ∈ settings, Fields.find? setting.1 (Json.setMembers settings) = setting.2 :=
    fun setting hsetting => Json.find?_setMembers hnodup hsetting
  rw [firstInvalid_eq_findSome?, List.findSome?_eq_none_iff]
  generalize Json.setMembers settings = members at hfind
  clear hnodup
  induction definitions generalizing settings with
  | nil =>
    obtain rfl := List.map_eq_nil_iff.1 hnames.symm
    exact iff_of_true (by simp) .nil
  | cons definition definitions ih =>
    cases settings with
    | nil => simp at hnames
    | cons setting settings =>
      obtain ⟨hname, hnames⟩ := List.cons.inj hnames
      obtain ⟨hsetting, hfind⟩ := List.forall_mem_cons.1 hfind
      have hfound : Fields.find? definition.name members = setting.2 :=
        (congrArg (Fields.find? · members) hname).trans hsetting
      rw [List.forall_mem_cons, List.forall₂_cons, hfound]
      exact and_congr_right fun _ => ih hnames hfind

/-- An argument without a constraint passes if it is not looked into. -/
theorem fault_of_unconstrained (hconstraint : definition.constraint = none)
    (hshape : InputShape.ofName? definition.type.leaf.name = none) (written : Option Json) :
    definition.fault path written = none :=
  fault_eq_none_iff.2 fun _ _ _ => ⟨by rw [check, hconstraint]; rfl, by simp [hshape]⟩

/-- A count passes, however great it is. -/
theorem fault_ofNat (hconstraint : definition.constraint = some nonNegative) (setting : Option Nat) :
    definition.fault path (setting.map Json.ofNat) = none := by
  rw [fault_eq_none_iff]
  intro json hjson _
  obtain ⟨n, -, rfl⟩ := Option.map_eq_some_iff.1 hjson
  refine ⟨?_, fun _ _ _ h => by simp [Json.ofNat] at h⟩
  have hless := Number.less_ofInt_zero (Int.natCast_nonneg n)
  have hverdict : nonNegative.verdict [] (.ofJson (.ofNat n)) = none := by
    rw [verdict_nonNegative rfl, Check.require_eq_none_iff, hless, Bool.not_false]
  rw [check, hconstraint]
  exact hverdict

/-- A list passes if it has an item. -/
theorem fault_array_iff {α : Type} (hconstraint : definition.constraint = some nonEmpty) {write : α → Json}
    {setting : Option (List α)} :
    definition.fault path (setting.map fun items => .array (items.map write)) = none ↔ setting ≠ some [] := by
  rw [fault_eq_none_iff]
  cases setting with
  | none => simp
  | some items => simp [check_array_eq_none_iff hconstraint]

theorem fault_strings_iff (hconstraint : definition.constraint = some nonEmpty) (setting : Option (List String)) :
    definition.fault path (setting.map Json.strings) = none ↔ setting ≠ some [] :=
  fault_array_iff hconstraint

/-- An argument with a shape passes if it passes inside. -/
theorem fault_object_iff {α : Type} (hconstraint : definition.constraint = none) {shape : InputShape}
    (hshape : InputShape.ofName? definition.type.leaf.name = some shape) {settings : α → List (String × Option Json)}
    {setting : Option α} :
    definition.fault path (setting.map fun a => .ofSettings (settings a)) = none ↔
      ∀ a, setting = some a →
        firstInvalid (path ++ [definition.name]) (Json.setMembers (settings a)) shape.fields = none := by
  rw [fault_eq_none_iff]
  cases setting with
  | none => simp
  | some a => simp [check, hconstraint, hshape, Json.ofSettings]

end ArgumentDefinition

open ArgumentDefinition

theorem ScalarOptions.firstInvalid_settings_iff (options : ScalarOptions) :
    firstInvalid [] (Json.setMembers options.settings) ofScalar = none ↔ options.oneOf ≠ some [] := by
  rw [firstInvalid_setMembers_iff rfl (by simp [settings])]
  simp only [ofScalar, settings, List.forall₂_cons, fault_array_iff]
  exact ⟨fun h => h.2.2.1, fun h => ⟨fault_of_unconstrained rfl rfl _, fault_of_unconstrained rfl rfl _, h,
    fault_ofNat rfl _, fault_ofNat rfl _, fault_of_unconstrained rfl rfl _, .nil⟩⟩

theorem UploadOptions.firstInvalid_settings_iff (options : UploadOptions) :
    firstInvalid [] (Json.setMembers options.settings) ofUpload = none ↔ options.mimeTypes ≠ some [] := by
  rw [firstInvalid_setMembers_iff rfl (by simp [settings])]
  simp only [ofUpload, settings, List.forall₂_cons, fault_strings_iff]
  exact ⟨fun h => h.2.1, fun h => ⟨fault_ofNat rfl _, h, .nil⟩⟩

theorem Quota.firstInvalid_settings_iff (quota : Quota) (path : List String) :
    firstInvalid path (Json.setMembers quota.settings) InputShape.quota.fields = none ↔ quota.names ≠ [] := by
  rw [firstInvalid_setMembers_iff rfl (by simp [settings])]
  have hnames : fault ⟨"from", namesType.required, some nonEmpty⟩ path (some (.strings quota.names)) = none ↔
      quota.names ≠ [] :=
    (fault_strings_iff rfl (some quota.names)).trans (by simp)
  simp only [InputShape.quota, settings, List.forall₂_cons, hnames]
  exact ⟨fun h => h.2.1, fun h => ⟨fault_ofNat rfl (some quota.count), h, .nil⟩⟩

theorem PresenceOptions.firstInvalid_settings_iff (options : PresenceOptions) :
    firstInvalid [] (Json.setMembers options.settings) ofObject = none ↔ [] ∉ options.nameLists := by
  have hquota : ∀ (name : String) (rule : Option Quota),
      fault ⟨name, .inputObject quotaShapeName, none⟩ [] (rule.map fun quota => .ofSettings quota.settings) = none ↔
        rule.map (·.names) ≠ some [] := by
    intro name rule
    have hshape : InputShape.ofName? (TypeRef.inputObject quotaShapeName).leaf.name = some .quota := rfl
    rw [fault_object_iff rfl hshape]
    cases rule <;> simp [Quota.firstInvalid_settings_iff]
  rw [firstInvalid_setMembers_iff rfl (by simp [settings])]
  simp only [ofObject, settings, List.forall₂_cons, fault_strings_iff, hquota, nameLists,
    List.reduceOption_mem_iff, List.mem_cons, not_or, ← ne_eq, ne_comm, List.forall₂_nil_left_iff]
  simp

/-- No list is looked for among list options, so they pass at every depth. -/
theorem ListOptions.firstInvalid_spellLevels (outer : ListLevel) (inner : List ListLevel) (path : List String) :
    ∃ members, spellLevels outer inner = .object members ∧ firstInvalid path members ofList = none := by
  have hlevel : ∀ (level : ListLevel) (below : Option Json) (path : List String),
      fault ⟨"innerList", .inputObject listShapeName, none⟩ path below = none →
        firstInvalid path (Json.setMembers (level.settings below)) ofList = none := by
    intro level below path hbelow
    rw [firstInvalid_setMembers_iff rfl (by simp [ListLevel.settings])]
    exact .cons (fault_ofNat rfl _) <| .cons (fault_ofNat rfl _) <|
      .cons (fault_of_unconstrained rfl rfl _) <| .cons hbelow .nil
  induction inner generalizing outer path with
  | nil => exact ⟨_, rfl, hlevel outer none path rfl⟩
  | cons next inner ih =>
    refine ⟨_, rfl, hlevel outer _ path (fault_eq_none_iff.2 ?_)⟩
    intro json hjson _
    obtain rfl := Option.some.inj hjson
    refine ⟨rfl, fun shape members hshape hmembers => ?_⟩
    obtain rfl : InputShape.listOptions = shape := Option.some.inj hshape
    obtain ⟨inside, hinside, hpass⟩ := ih next (path ++ ["innerList"])
    obtain rfl : inside = members := Json.object.inj (hinside.symm.trans hmembers)
    exact hpass

/-- **The arguments that spell a constraint pass their own constraints** if no list in it is empty. -/
theorem Constraint.firstInvalid_spell_iff (constraint : Constraint) :
    (∃ members, constraint.spell = .object members ∧ firstInvalid [] members constraint.family.arguments = none) ↔
      constraint.ListsNonEmpty := by
  have hobject : ∀ settings definitions,
      (∃ members, Json.ofSettings settings = .object members ∧ firstInvalid [] members definitions = none) ↔
        firstInvalid [] (Json.setMembers settings) definitions = none := by
    simp [Json.ofSettings]
  cases constraint with
  | scalar options => exact (hobject _ _).trans options.firstInvalid_settings_iff
  | list options => exact iff_of_true (ListOptions.firstInvalid_spellLevels _ _ []) trivial
  | object options => exact (hobject _ _).trans options.firstInvalid_settings_iff
  | upload options => exact (hobject _ _).trans options.firstInvalid_settings_iff

/-! ## What is written is attached -/

namespace Registry

/-- **The directive of a family attaches exactly what is written.** -/
theorem attach_spell_eq_ok_iff (registry : Registry) (element : SchemaElement) (constraint attached : Constraint) :
    registry.attach element (registry.names.get constraint.family) constraint.spell = .ok attached ↔
      constraint.ListsNonEmpty ∧
        constraint.appliesTo registry.stringScalars element = true ∧
        constraint.checkFit registry.stringScalars (registry.names.get constraint.family) element = .ok () ∧
        attached = constraint.coerce registry.stringScalars element := by
  have hread : ∀ read, readArguments constraint.family (registry.names.get constraint.family) constraint.spell =
      .ok read ↔ constraint.ListsNonEmpty ∧ read = constraint := by
    intro read
    rw [readArguments_eq_ok_iff, constraint.decode_spell, ← constraint.firstInvalid_spell_iff]
    constructor
    · rintro ⟨members, hmembers, hvalid, hdecode⟩
      exact ⟨⟨members, hmembers, hvalid⟩, (Except.ok.inj hdecode).symm⟩
    · rintro ⟨⟨members, hmembers, hvalid⟩, rfl⟩
      exact ⟨members, hmembers, hvalid, rfl⟩
  rw [attach_eq_ok_iff]
  simp only [familyOf?_eq_some_iff.2 rfl, Option.some.injEq, exists_and_left, exists_eq_left', hread]
  constructor
  · rintro ⟨_, ⟨hlists, rfl⟩, happlies, hfit, rfl⟩
    exact ⟨hlists, happlies, hfit, rfl⟩
  · rintro ⟨hlists, happlies, hfit, rfl⟩
    exact ⟨_, ⟨hlists, rfl⟩, happlies, hfit, rfl⟩

/-- Two levels of list options, with the greatest count that there is. -/
theorem attach_spell_of_matrix :
    let matrix := SchemaElement.field "Grid" "cells" (.list (.list TypeRef.int))
    let constraint := Constraint.list ⟨⟨some 1, some 18446744073709551615, true⟩, [⟨none, some 3, false⟩]⟩
    constraint.spell = .object
        [("innerList", .object [("maxItems", .integer 3)]), ("maxItems", .integer 18446744073709551615),
          ("minItems", .integer 1), ("unique", .bool true)] ∧
      default.attach matrix "listConstraint" constraint.spell = .ok constraint := by
  intro matrix constraint
  have hattach : default.attach matrix "listConstraint" constraint.spell = .ok constraint :=
    (attach_spell_eq_ok_iff default matrix constraint constraint).2 ⟨trivial, rfl, rfl, rfl⟩
  exact ⟨rfl, hattach⟩

end Registry

end SchemaConstraints
