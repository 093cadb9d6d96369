import SchemaConstraints.Proofs.Attach.Suits
import SchemaConstraints.Proofs.Json.WellFormed
import SchemaConstraints.Proofs.Options.Records

set_option autoImplicit false

/-! # Empty lists in attached constraints

A list of alternatives that is empty would rule everything out, so the arguments of a directive are checked
for empty lists before they are read. The check and the reading look at the same JSON value in two ways:
both go into objects, but only the reading goes into a record that is written as an array. An empty list is
therefore found wherever it may stand (`ne_nil_of_list`), with one exception, which is a quota that is
written as an array. `attached_listsNonEmpty_iff` says that there is no other. -/

namespace SchemaConstraints

open Decode

variable {stringScalars : List String} {element : SchemaElement}

/-! ## What the check sees -/

theorem Value.length_ofJsonItems (items : List Json) : (ofJsonItems items).length = items.length := by
  induction items with
  | nil => rfl
  | cons item items ih => simp [ofJsonItems, ih]

namespace ArgumentDefinition

theorem check_array_eq_none_iff {definition : ArgumentDefinition} (h : definition.constraint = some nonEmpty)
    {items : List Json} : definition.check (.array items) = none ↔ items ≠ [] := by
  have hlength := Value.length_ofJsonItems items
  simp [check, h, nonEmpty, Constraint.verdict, ListOptions.verdict, ListOptions.levels, ListOptions.checkLevels,
    Value.ofJson, Value.resolve, ListLevel.check, hlength, Nat.succ_le_iff, List.length_pos_iff]

section

variable {α : Type} {path : List String} {members : List (String × Json)} {definitions : List ArgumentDefinition}
  {name : String} (hvalid : firstInvalid path members definitions = none)
  (hdefinition : ∃ type, ArgumentDefinition.mk name type (some nonEmpty) ∈ definitions)
include hvalid hdefinition

/-- What a checked argument spells is not the empty list. -/
theorem ne_nil_of_list {json : Json} {item : Json → Decoded α} {values : List α}
    (hfind : Fields.find? name members = some json) (hlist : list item json = .ok values) : values ≠ [] := by
  obtain ⟨type, hdefinition⟩ := hdefinition
  obtain ⟨items, rfl, hlength⟩ := length_of_list hlist
  obtain ⟨hcheck, -⟩ := firstInvalid_eq_none_iff.1 hvalid _ hdefinition _ hfind (by simp)
  rw [check_array_eq_none_iff rfl, ← List.length_pos_iff, hlength] at hcheck
  exact List.length_pos_iff.1 hcheck

/-- No part of a record that a checked argument fills is the empty list. -/
theorem part_ne_nil {σ : Type} {record : Record σ} {item : Json → Decoded α} {part : σ → Option (List α)}
    {initial result : σ} (hnodup : (members.map (·.1)).Nodup) (hfills : record.Fills name (orNull (list item)) part)
    (hinitial : part initial = none) (hread : record.read initial (.object members) = .ok result) :
    part result ≠ some [] := by
  have hsetting := Record.setting_of_read hfills hinitial hnodup hread
  intro hempty
  rw [hempty] at hsetting
  obtain ⟨json, hfind, -, hlist⟩ := hsetting
  exact ne_nil_of_list hvalid hdefinition hfind hlist rfl

end

end ArgumentDefinition

/-! ## Quotas -/

namespace Quota

/-- A quota that is written as an array has its two fields for elements. -/
theorem names_of_decode_array {items : List Json} {quota : Quota} (h : decode (.array items) = .ok quota) :
    ∃ count names, items = [count, names] ∧ list string names = .ok quota.names := by
  simp only [decode, Record.read, record] at h
  rcases items with _ | ⟨count, _ | ⟨names, _ | ⟨extra, rest⟩⟩⟩ <;>
    simp only [Record.readElements, Except.bind_eq_ok_iff, Field.of, Except.map_eq_ok_iff] at h
  · simp at h
  · obtain ⟨_, -, h⟩ := h
    simp at h
  · obtain ⟨_, -, _, ⟨_, hnames, rfl⟩, h⟩ := h
    obtain rfl := Except.ok.inj h
    exact ⟨count, names, rfl, hnames⟩
  · obtain ⟨_, -, _, -, h⟩ := h
    simp at h

/-- A quota that is written as an object is checked inside, so it lists a name. -/
theorem names_ne_nil_of_decode_object {path : List String} {members : List (String × Json)} {quota : Quota}
    (hvalid : ArgumentDefinition.firstInvalid path members InputShape.quota.fields = none)
    (hwell : (Json.object members).WellFormed) (h : decode (.object members) = .ok quota) : quota.names ≠ [] := by
  obtain ⟨hnodup, -⟩ := Json.wellFormed_object_iff.1 hwell
  have hrequired : "from" ∈ record.required := by simp [record]
  obtain ⟨json, hfind⟩ := Record.find?_of_required hrequired h
  have hnames := Record.part_of_read record_fills.2 hnodup h
  rw [hfind] at hnames
  exact ArgumentDefinition.ne_nil_of_list hvalid (by simp [InputShape.quota]) hfind hnames

/-- A quota passes the check and lists no names only if it is written as an array. -/
theorem names_eq_nil_iff {path : List String} {json : Json} {quota : Quota}
    (hvalid : ∀ members, json = .object members →
      ArgumentDefinition.firstInvalid path members InputShape.quota.fields = none)
    (hwell : json.WellFormed) (h : decode json = .ok quota) :
    quota.names = [] ↔ ∃ count, json = .array [count, .array []] := by
  cases json with
  | object members =>
    have := names_ne_nil_of_decode_object (hvalid members rfl) hwell h
    simp [this]
  | array items =>
    obtain ⟨count, names, rfl, hnames⟩ := names_of_decode_array h
    refine ⟨fun hnil => ?_, ?_⟩
    · obtain ⟨elements, rfl, hlength⟩ := length_of_list hnames
      rw [hnil, List.length_nil, List.length_eq_zero_iff] at hlength
      exact ⟨count, by rw [hlength]⟩
    · rintro ⟨other, hjson⟩
      obtain ⟨-, rfl⟩ : count = other ∧ names = .array [] := by simpa using hjson
      exact (Except.ok.inj hnames).symm
  | _ => simp [decode, Record.read] at h

end Quota

namespace PresenceOptions

section

variable {members : List (String × Json)} {options : PresenceOptions}
  (hvalid : ArgumentDefinition.firstInvalid [] members ArgumentDefinition.ofObject = none)
  (hwell : (Json.object members).WellFormed) (hread : decode (.object members) = .ok options)
include hvalid hwell hread

/-- A quota without names comes from an array without names. -/
theorem quota_names_eq_nil_iff {name : String} {part : PresenceOptions → Option Quota}
    (hdefinition : ⟨name, .inputObject ArgumentDefinition.quotaShapeName, none⟩ ∈ ArgumentDefinition.ofObject)
    (hfills : record.Fills name (orNull Quota.decode) part) (hinitial : part {} = none) :
    some [] = (part options).map (·.names) ↔
      ∃ count, Fields.find? name members = some (.array [count, .array []]) := by
  obtain ⟨hnodup, hmembers⟩ := Json.wellFormed_object_iff.1 hwell
  have hsetting := Record.setting_of_read hfills hinitial hnodup hread
  cases hquota : part options with
  | none =>
    rw [hquota] at hsetting
    rcases hsetting with hfind | hfind <;> simp [hfind]
  | some quota =>
    rw [hquota] at hsetting
    obtain ⟨json, hfind, hnull, hdecode⟩ := hsetting
    obtain ⟨-, hinside⟩ := ArgumentDefinition.firstInvalid_eq_none_iff.1 hvalid _ hdefinition json hfind hnull
    have hempty := Quota.names_eq_nil_iff (fun inner hjson => hinside .quota inner rfl hjson)
      (hmembers _ (Fields.mem_of_find? hfind)) hdecode
    simpa [hfind, eq_comm] using hempty

/-- The names of the arguments that are quotas. -/
def quotaNames : List String := ["atLeast", "atMost", "exactly"]

/-- A rule has an empty list of names exactly if some quota is written as an array without names. -/
theorem nil_mem_nameLists_iff :
    [] ∈ options.nameLists ↔
      ∃ name ∈ quotaNames, ∃ count, Fields.find? name members = some (.array [count, .array []]) := by
  obtain ⟨hnodup, -⟩ := Json.wellFormed_object_iff.1 hwell
  obtain ⟨⟨hatLeastOne, hatMostOne, hexactlyOne⟩, hatLeast, hatMost, hexactly⟩ := record_fills
  have hno₁ : options.atLeastOne ≠ some [] :=
    ArgumentDefinition.part_ne_nil hvalid (by simp [ArgumentDefinition.ofObject]) hnodup hatLeastOne rfl hread
  have hno₂ : options.atMostOne ≠ some [] :=
    ArgumentDefinition.part_ne_nil hvalid (by simp [ArgumentDefinition.ofObject]) hnodup hatMostOne rfl hread
  have hno₃ : options.exactlyOne ≠ some [] :=
    ArgumentDefinition.part_ne_nil hvalid (by simp [ArgumentDefinition.ofObject]) hnodup hexactlyOne rfl hread
  simp only [nameLists, List.reduceOption_mem_iff, List.mem_cons, List.not_mem_nil, or_false, hno₁.symm,
    hno₂.symm, hno₃.symm,
    false_or, quotaNames, exists_eq_or_imp, exists_eq_left]
  rw [quota_names_eq_nil_iff hvalid hwell hread (by simp [ArgumentDefinition.ofObject]) hatLeast rfl,
    quota_names_eq_nil_iff hvalid hwell hread (by simp [ArgumentDefinition.ofObject]) hatMost rfl,
    quota_names_eq_nil_iff hvalid hwell hread (by simp [ArgumentDefinition.ofObject]) hexactly rfl]

end

end PresenceOptions

/-! ## Attached constraints -/

namespace Constraint

/-- No list that the constraint has set is empty. -/
def ListsNonEmpty : Constraint → Prop
  | .scalar options => options.oneOf ≠ some []
  | .list _ => True
  | .object options => [] ∉ options.nameLists
  | .upload options => options.mimeTypes ≠ some []

/-- Coercion keeps the number of allowed values. -/
theorem listsNonEmpty_coerce_iff {constraint : Constraint} :
    (constraint.coerce stringScalars element).ListsNonEmpty ↔ constraint.ListsNonEmpty := by
  cases constraint with
  | scalar options =>
    change (options.coerce stringScalars element).oneOf ≠ some [] ↔ options.oneOf ≠ some []
    rw [ScalarOptions.coerce]
    split <;> simp
  | list | object | upload => exact Iff.rfl

/-- Of the arguments that pass their check, only quotas that are written as arrays give empty lists. -/
theorem listsNonEmpty_iff_of_decode {family : Family} {members : List (String × Json)} {constraint : Constraint}
    (hvalid : ArgumentDefinition.firstInvalid [] members family.arguments = none)
    (hwell : (Json.object members).WellFormed) (hdecode : decode family (.object members) = .ok constraint) :
    constraint.ListsNonEmpty ↔ (constraint.family = .object → ∀ name ∈ PresenceOptions.quotaNames, ∀ count,
      Fields.find? name members ≠ some (.array [count, .array []])) := by
  obtain ⟨hnodup, -⟩ := Json.wellFormed_object_iff.1 hwell
  cases family with
  | scalar =>
    obtain ⟨options, hread, rfl⟩ := Except.map_eq_ok_iff.1 hdecode
    have honeOf : options.oneOf ≠ some [] :=
      ArgumentDefinition.part_ne_nil hvalid (by simp [Family.arguments, ArgumentDefinition.ofScalar]) hnodup
        ScalarOptions.record_fills.2.1 rfl hread
    exact iff_of_true honeOf (by simp [family])
  | list =>
    obtain ⟨options, -, rfl⟩ := Except.map_eq_ok_iff.1 hdecode
    exact iff_of_true trivial (by simp [family])
  | object =>
    obtain ⟨options, hread, rfl⟩ := Except.map_eq_ok_iff.1 hdecode
    have := PresenceOptions.nil_mem_nameLists_iff hvalid hwell hread
    simp [ListsNonEmpty, family, this]
  | upload =>
    obtain ⟨options, hread, rfl⟩ := Except.map_eq_ok_iff.1 hdecode
    have hmimeTypes : options.mimeTypes ≠ some [] :=
      ArgumentDefinition.part_ne_nil hvalid (by simp [Family.arguments, ArgumentDefinition.ofUpload]) hnodup
        UploadOptions.record_fills.2 rfl hread
    exact iff_of_true hmimeTypes (by simp [family])

end Constraint

namespace Registry

variable {registry : Registry} {directive : String} {arguments : Json} {constraint : Constraint}

/-- **Only a quota that is written as an array gets past the check for empty lists.** -/
theorem attached_listsNonEmpty_iff (hwell : arguments.WellFormed)
    (h : registry.attach element directive arguments = .ok constraint) :
    constraint.ListsNonEmpty ↔ (constraint.family = .object → ∀ name ∈ PresenceOptions.quotaNames, ∀ count,
      arguments.member? name ≠ some (.array [count, .array []])) := by
  obtain ⟨family, read, -, hread, -, -, rfl⟩ := attach_eq_ok_iff.1 h
  obtain ⟨members, rfl, hvalid, hdecode⟩ := readArguments_eq_ok_iff.1 hread
  rw [Constraint.listsNonEmpty_coerce_iff, Constraint.family_coerce]
  exact Constraint.listsNonEmpty_iff_of_decode hvalid hwell hdecode

/-- A quota that is written as an array and has names is attached with them. -/
theorem attached_quota_has_names :
    let contact := SchemaElement.inputType "ContactInput" ["email", "phone"]
    let arguments := Json.object
      [("atLeast", .array [.integer 1, Json.strings ["email", "phone"]]), ("exactlyOne", Json.strings ["phone"])]
    let attached := Constraint.object { atLeast := some ⟨1, ["email", "phone"]⟩, exactlyOne := some ["phone"] }
    arguments.WellFormed ∧ default.attach contact "objectConstraint" arguments = .ok attached ∧
      attached.ListsNonEmpty := by
  intro contact arguments attached
  have hwell : arguments.WellFormed := by simp [arguments, Json.strings]
  have hattach : default.attach contact "objectConstraint" arguments = .ok attached := by
    refine attach_eq_ok_iff.2 ⟨.object, attached, rfl, readArguments_eq_ok_iff.2 ⟨_, rfl, ?_, rfl⟩, rfl, rfl, rfl⟩
    simp +decide [Family.arguments, ArgumentDefinition.ofObject, ArgumentDefinition.firstInvalid]
  refine ⟨hwell, hattach, (attached_listsNonEmpty_iff hwell hattach).2 ?_⟩
  simp [arguments, Json.member?, PresenceOptions.quotaNames, Fields.find?, Json.strings]

/-- A quota that is written as an array is attached without names just as well. -/
theorem attached_quota_without_names :
    let contact := SchemaElement.inputType "ContactInput" ["email"]
    let arguments := Json.object [("atLeast", .array [.integer 1, .array []])]
    let attached := Constraint.object { atLeast := some ⟨1, []⟩ }
    arguments.WellFormed ∧ default.attach contact "objectConstraint" arguments = .ok attached ∧
      ¬attached.ListsNonEmpty := by
  intro contact arguments attached
  refine ⟨by simp [arguments], ?_, ?_⟩
  · refine attach_eq_ok_iff.2 ⟨.object, attached, rfl, readArguments_eq_ok_iff.2 ⟨_, rfl, ?_, rfl⟩, rfl, rfl, rfl⟩
    simp +decide [Family.arguments, ArgumentDefinition.ofObject, ArgumentDefinition.firstInvalid]
  · simp [attached, Constraint.ListsNonEmpty, PresenceOptions.nameLists]

end Registry

end SchemaConstraints
