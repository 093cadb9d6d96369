import SchemaConstraints.Proofs.Attach.Steps
import SchemaConstraints.Proofs.Json.WellFormed
import SchemaConstraints.Proofs.Options.Records

set_option autoImplicit false

/-! # Arguments that are null

An argument whose type takes null may be left out, and writing null for it should be the same. The check of
arguments by their own constraints skips both. Reading them as options leaves the setting open for both, with
one exception: the flag `unique` is not a setting that can be open, so null is a value of the wrong type there,
at every level of list options (`attach_of_nullAdded`). -/

namespace SchemaConstraints

namespace Fields

variable {α : Type}

theorem find?_append (name : String) (fields others : Fields α) :
    find? name (fields ++ others) = (find? name fields).or (find? name others) := by
  induction fields with
  | nil => rfl
  | cons entry fields ih =>
    obtain ⟨key, value⟩ := entry
    rw [List.cons_append, find?, find?]
    split
    · rfl
    · exact ih

end Fields

namespace ArgumentDefinition

/-- An argument of the given name whose type takes null is added, with null for its value, to arguments that do
    not have it, or to an argument or a field inside them that has an input shape. -/
inductive NullAdded (name : String) : List ArgumentDefinition → Json → Json → Prop
  /-- Among the members of an object. -/
  | here {definitions : List ArgumentDefinition} {definition : ArgumentDefinition} {before after : List (String × Json)}
      (hdefinition : definition ∈ definitions) (hname : definition.name = name)
      (hnullable : definition.type.nullable = definition.type) (habsent : name ∉ (before ++ after).map (·.1)) :
      NullAdded name definitions (.object (before ++ after)) (.object (before ++ (name, .null) :: after))
  /-- Inside one of the members. -/
  | inside {definitions : List ArgumentDefinition} {definition : ArgumentDefinition} {shape : InputShape}
      {json json' : Json} {before after : List (String × Json)} (hdefinition : definition ∈ definitions)
      (hshape : InputShape.ofName? definition.type.leaf.name = some shape)
      (h : NullAdded name shape.fields json json') :
      NullAdded name definitions (.object (before ++ (definition.name, json) :: after))
        (.object (before ++ (definition.name, json') :: after))
  /-- Inside one of the elements, where a record is written as an array of its fields. -/
  | element {definitions : List ArgumentDefinition} {definition : ArgumentDefinition} {shape : InputShape}
      {json json' : Json} {before after : List Json} (hdefinition : definitions[before.length]? = some definition)
      (hshape : InputShape.ofName? definition.type.leaf.name = some shape)
      (h : NullAdded name shape.fields json json') :
      NullAdded name definitions (.array (before ++ json :: after)) (.array (before ++ json' :: after))

variable {name : String} {definitions : List ArgumentDefinition} {json json' : Json}

theorem NullAdded.ne_null (h : NullAdded name definitions json json') : json ≠ .null ∧ json' ≠ .null := by
  cases h <;> simp

theorem NullAdded.objects_or_arrays (h : NullAdded name definitions json json') :
    (∃ members members', json = .object members ∧ json' = .object members') ∨
      ∃ items items', json = .array items ∧ json' = .array items' := by
  cases h with
  | here | inside => exact .inl ⟨_, _, rfl, rfl⟩
  | element => exact .inr ⟨_, _, rfl, rfl⟩

/-! ## The check skips null -/

/-- Each definition has a name of its own, and an argument with an input shape has no constraint. -/
structure Regular (definitions : List ArgumentDefinition) : Prop where
  names : (definitions.map (·.name)).Nodup
  shapes : ∀ definition ∈ definitions, (InputShape.ofName? definition.type.leaf.name).isSome = true →
    definition.constraint.isNone = true

theorem regular_arguments (family : Family) : Regular family.arguments := by
  cases family <;> exact ⟨by decide +kernel, by decide +kernel⟩

theorem regular_of_shape {name : String} {shape : InputShape} (h : InputShape.ofName? name = some shape) :
    Regular shape.fields := by
  have hshape : shape ∈ [InputShape.listOptions, InputShape.quota] := List.mem_of_find?_eq_some h
  simp only [List.mem_cons, List.not_mem_nil, or_false] at hshape
  rcases hshape with rfl | rfl
  · exact ⟨by decide +kernel, by decide +kernel⟩
  · exact ⟨by decide +kernel, by decide +kernel⟩

theorem fault_of_shape {definition : ArgumentDefinition} {shape : InputShape}
    (hshape : InputShape.ofName? definition.type.leaf.name = some shape) (hconstraint : definition.constraint = none)
    (path : List String) (hnull : json ≠ .null) :
    definition.fault path (some json) = invalidInside (path ++ [definition.name]) shape.fields json := by
  have hcheck : definition.check json = none := by rw [check, hconstraint]; rfl
  simp only [fault_of_ne_null hnull, hcheck, hshape]

/-- Null is skipped like an argument that is missing, at every depth. -/
theorem NullAdded.invalidInside_eq (h : NullAdded name definitions json json') (hregular : Regular definitions)
    (path : List String) : invalidInside path definitions json' = invalidInside path definitions json := by
  induction h generalizing path with
  | @here definitions definition before after hdefinition hname hnullable habsent =>
    rw [invalidInside, invalidInside, firstInvalid_eq_findSome?, firstInvalid_eq_findSome?]
    refine findSome?_congr fun other _ => ?_
    by_cases hother : name = other.name
    · rw [List.map_append, List.mem_append, not_or, ← Fields.find?_eq_none_iff, ← Fields.find?_eq_none_iff] at habsent
      rw [Fields.find?_append, Fields.find?_append, Fields.find?, ← hother, habsent.1, habsent.2, if_pos rfl]
      rfl
    · rw [Fields.find?_append, Fields.find?_append, Fields.find?, if_neg hother]
  | @inside definitions definition shape json json' before after hdefinition hshape h ih =>
    have hconstraint : definition.constraint = none :=
      Option.isNone_iff_eq_none.1 (hregular.shapes definition hdefinition (by rw [hshape]; rfl))
    rw [invalidInside, invalidInside, firstInvalid_eq_findSome?, firstInvalid_eq_findSome?]
    refine findSome?_congr fun other hmem => ?_
    by_cases hother : definition.name = other.name
    · obtain rfl := List.inj_on_of_nodup_map hregular.names hdefinition hmem hother
      rw [Fields.find?_append, Fields.find?_append, Fields.find?, Fields.find?, if_pos rfl, if_pos rfl]
      cases Fields.find? definition.name before with
      | some earlier => rfl
      | none =>
        rw [Option.none_or, Option.none_or, fault_of_shape hshape hconstraint _ h.ne_null.1,
          fault_of_shape hshape hconstraint _ h.ne_null.2, ih (regular_of_shape hshape)]
    · rw [Fields.find?_append, Fields.find?_append, Fields.find?, Fields.find?, if_neg hother, if_neg hother]
  | element => rfl

end ArgumentDefinition

/-! ## Reading leaves a setting open for null -/

namespace Decode

variable {α β : Type} {name : String}

/-- The error for a flag that is null. -/
def nullFlag : DecodeError := .invalidType .null "a boolean"

/-- What adding null for an argument does to reading the arguments. For a setting it does nothing. For the flag
    reading fails, and it is the flag that it fails for unless it would have failed anyway. -/
structure NullEffect (name : String) (first second : Decoded α) : Prop where
  setting : name ≠ "unique" → second = first
  flag : name = "unique" → ∃ error, second = .error error ∧ ∀ a, first = .ok a → error = nullFlag

namespace NullEffect

theorem bind {first second : Decoded α} (h : NullEffect name first second) (next : α → Decoded β) :
    NullEffect name (first >>= next) (second >>= next) where
  setting hname := by rw [h.setting hname]
  flag hname := by
    obtain ⟨error, rfl, hfirst⟩ := h.flag hname
    refine ⟨error, rfl, fun b hb => ?_⟩
    obtain ⟨a, ha, -⟩ := Except.bind_eq_ok_iff.1 hb
    exact hfirst a ha

theorem bind_right {first : Decoded α} {next next' : α → Decoded β}
    (h : ∀ a, first = .ok a → NullEffect name (next a) (next' a)) :
    NullEffect name (first >>= next) (first >>= next') := by
  cases first with
  | error error => exact ⟨fun _ => rfl, fun _ => ⟨error, rfl, fun b hb => by simp [Bind.bind, Except.bind] at hb⟩⟩
  | ok a => exact h a rfl

theorem map {first second : Decoded α} (h : NullEffect name first second) (f : α → β) :
    NullEffect name (first.map f) (second.map f) where
  setting hname := by rw [h.setting hname]
  flag hname := by
    obtain ⟨error, rfl, hfirst⟩ := h.flag hname
    refine ⟨error, rfl, fun b hb => ?_⟩
    obtain ⟨a, ha, -⟩ := Except.map_eq_ok_iff.1 hb
    exact hfirst a ha

/-- The effect on one element of an array is the effect on the array. -/
theorem readElements {σ : Type} {record : Record σ} {front back : List (Field σ)} {field : Field σ}
    {before after : List Json} {json json' : Json} (hlength : before.length = front.length)
    (hfield : ∀ known, NullEffect name (field.read known json) (field.read known json')) (known : σ) (found : Nat) :
    NullEffect name (record.readElements known found (front ++ field :: back) (before ++ json :: after))
      (record.readElements known found (front ++ field :: back) (before ++ json' :: after)) := by
  induction front generalizing before known found with
  | nil =>
    obtain rfl := List.length_eq_zero_iff.1 hlength
    exact (hfield known).bind _
  | cons first front ih =>
    cases before with
    | nil => simp at hlength
    | cons element before => exact bind_right fun next _ => ih (Nat.succ.inj hlength) next _

end NullEffect

end Decode

open Decode ArgumentDefinition

variable {name : String} {json json' : Json}

namespace ListOptions

theorem shape_of_mem_ofList {definition : ArgumentDefinition} {shape : InputShape} (hdefinition : definition ∈ ofList)
    (hshape : InputShape.ofName? definition.type.leaf.name = some shape) :
    definition.name = innerName ∧ shape = .listOptions := by
  simp only [ofList, List.mem_cons, List.not_mem_nil, or_false] at hdefinition
  rcases hdefinition with rfl | rfl | rfl | rfl
  · cases hshape
  · cases hshape
  · cases hshape
  · exact ⟨rfl, (Option.some.inj hshape).symm⟩

theorem ignoresNull {definition : ArgumentDefinition} (hdefinition : definition ∈ ofList)
    (hname : definition.name ≠ "unique") : record.IgnoresNull {} definition.name := by
  obtain ⟨⟨hminItems, hmaxItems⟩, -, hinner⟩ := record_fills
  have hnames : (record.fields.map (·.name)).Nodup := by simp [record, Field.of, innerName]
  simp only [ofList, List.mem_cons, List.not_mem_nil, or_false] at hdefinition
  rcases hdefinition with rfl | rfl | rfl | rfl
  · exact .of_field hnames 0 rfl hminItems rfl fun _ => rfl
  · exact .of_field hnames 1 rfl hmaxItems rfl fun _ => rfl
  · exact absurd rfl hname
  · exact .of_field hnames 3 rfl hinner rfl nest_innerList

/-- The flag is the one field that null is no value of. -/
theorem readMember_unique_null (known : ListOptions) :
    record.readMember known ("unique", .null) = .error nullFlag := by
  simp [Record.readMember, record, Field.of, Decode.bool, nullFlag, Except.map]

/-- The field for the levels below passes the effect on. -/
theorem nullEffect_inner (hjson : json ≠ .null) (hjson' : json' ≠ .null)
    (h : NullEffect name (decode json) (decode json')) (known : ListOptions) :
    NullEffect name ((orNull decode json).map (nest known.outer)) ((orNull decode json').map (nest known.outer)) := by
  rw [orNull_of_ne_null hjson, orNull_of_ne_null hjson']
  exact (h.map _).map _

/-- What happens at one level happens to the levels around it. -/
theorem decode_of_nullAdded (h : NullAdded name ofList json json') : NullEffect name (decode json) (decode json') := by
  generalize hdefinitions : ofList = definitions at h
  induction h with
  | @here definitions definition before after hdefinition hname hnullable habsent =>
    subst hdefinitions
    subst hname
    rw [decode_eq_read, decode_eq_read]
    constructor
    · intro hsetting
      rw [List.map_append, List.mem_append, not_or] at habsent
      exact Record.read_add_null (ignoresNull hdefinition hsetting) rfl habsent.1
    · intro hflag
      have hfails : ∀ known, NullEffect "unique" (after.foldlM record.readMember known)
          (((definition.name, .null) :: after).foldlM record.readMember known) := by
        intro known
        rw [hflag, List.foldlM_cons, readMember_unique_null]
        exact ⟨fun h => absurd rfl h, fun _ => ⟨nullFlag, rfl, fun _ _ => rfl⟩⟩
      rw [Record.read_append rfl, Record.read_append rfl]
      exact (NullEffect.bind_right fun known _ => hfails known).flag rfl
  | @inside definitions definition shape json json' before after hdefinition hshape h ih =>
    subst hdefinitions
    obtain ⟨hname, rfl⟩ := shape_of_mem_ofList hdefinition hshape
    rw [hname, decode_eq_read, decode_eq_read, Record.read_append rfl, Record.read_append rfl]
    exact NullEffect.bind_right fun known _ => (nullEffect_inner h.ne_null.1 h.ne_null.2 (ih rfl) known).bind _
  | @element definitions definition shape json json' before after hdefinition hshape h ih =>
    subst hdefinitions
    obtain ⟨hname, rfl⟩ := shape_of_mem_ofList (List.mem_of_getElem? hdefinition) hshape
    have hposition : ∀ n < 4, (ofList[n]?).map (·.name) = some innerName → n = 3 := by decide
    have hlength : before.length = (record.fields.take 3).length := by
      obtain ⟨hlt, -⟩ := List.getElem?_eq_some_iff.1 hdefinition
      exact hposition _ hlt (by rw [hdefinition, Option.map_some, hname])
    rw [decode_eq_read, decode_eq_read]
    exact NullEffect.readElements hlength (nullEffect_inner h.ne_null.1 h.ne_null.2 (ih rfl)) {} 0

end ListOptions

/-- Nothing can be added to a quota, as it has both of its fields. -/
theorem Quota.not_nullAdded : ¬NullAdded name InputShape.quota.fields json json' := by
  have hfields : ∀ definition ∈ InputShape.quota.fields, definition.type.nullable ≠ definition.type ∧
      (InputShape.ofName? definition.type.leaf.name).isSome = false := by decide
  have hshape : ∀ {definition : ArgumentDefinition} {shape : InputShape}, definition ∈ InputShape.quota.fields →
      InputShape.ofName? definition.type.leaf.name ≠ some shape := by
    intro definition shape hdefinition hshape
    simpa [hshape] using (hfields definition hdefinition).2
  intro h
  cases h with
  | here hdefinition _ hnullable => exact (hfields _ hdefinition).1 hnullable
  | inside hdefinition hfound => exact hshape hdefinition hfound
  | element hdefinition hfound => exact hshape (List.mem_of_getElem? hdefinition) hfound

theorem InputShape.eq_quota {typeName : String} {shape : InputShape} (h : ofName? typeName = some shape)
    (hlist : typeName ≠ listShapeName) : shape = .quota := by
  have hname : shape.name = typeName := by simpa using List.find?_some h
  have hshape : shape ∈ [listOptions, quota] := List.mem_of_find?_eq_some h
  simp only [List.mem_cons, List.not_mem_nil, or_false] at hshape
  rcases hshape with rfl | rfl
  · exact absurd hname.symm hlist
  · rfl

/-- Without list options among the arguments, null is added to one of the settings, and nothing happens. -/
theorem Decode.Record.nullEffect {σ : Type} {record : Record σ} {initial : σ} {definitions : List ArgumentDefinition}
    (hrequired : record.required = []) (hlist : ∀ definition ∈ definitions, definition.type.leaf.name ≠ listShapeName)
    (hsettings : ∀ definition ∈ definitions, definition.name ≠ "unique" ∧ record.IgnoresNull initial definition.name)
    (h : NullAdded name definitions json json') :
    NullEffect name (record.read initial json) (record.read initial json') := by
  cases h with
  | @here _ definition before after hdefinition hname hnullable habsent =>
    subst hname
    obtain ⟨hname, hignores⟩ := hsettings definition hdefinition
    rw [List.map_append, List.mem_append, not_or] at habsent
    exact ⟨fun _ => Record.read_add_null hignores hrequired habsent.1, fun hflag => absurd hflag hname⟩
  | inside hdefinition hshape h =>
    obtain rfl := InputShape.eq_quota hshape (hlist _ hdefinition)
    exact absurd h Quota.not_nullAdded
  | element hdefinition hshape h =>
    obtain rfl := InputShape.eq_quota hshape (hlist _ (List.mem_of_getElem? hdefinition))
    exact absurd h Quota.not_nullAdded

theorem ScalarOptions.decode_of_nullAdded (h : NullAdded name ofScalar json json') :
    NullEffect name (decode json) (decode json') := by
  obtain ⟨⟨hmin, hmax⟩, honeOf, ⟨hminLength, hmaxLength⟩, hregex⟩ := record_fills
  have hnames : (record.fields.map (·.name)).Nodup := by simp [record, Field.of]
  refine Record.nullEffect rfl (by decide) ?_ h
  simp only [ofScalar, List.forall_mem_cons]
  exact ⟨⟨by simp, .of_field hnames 0 rfl hmin rfl fun _ => rfl⟩,
    ⟨by simp, .of_field hnames 1 rfl hmax rfl fun _ => rfl⟩,
    ⟨by simp, .of_field hnames 2 rfl honeOf rfl fun _ => rfl⟩,
    ⟨by simp, .of_field hnames 3 rfl hminLength rfl fun _ => rfl⟩,
    ⟨by simp, .of_field hnames 4 rfl hmaxLength rfl fun _ => rfl⟩,
    ⟨by simp, .of_field hnames 5 rfl hregex rfl fun _ => rfl⟩, List.forall_mem_nil _⟩

theorem PresenceOptions.decode_of_nullAdded (h : NullAdded name ofObject json json') :
    NullEffect name (decode json) (decode json') := by
  obtain ⟨⟨hatLeastOne, hatMostOne, hexactlyOne⟩, hatLeast, hatMost, hexactly⟩ := record_fills
  have hnames : (record.fields.map (·.name)).Nodup := by simp [record, Field.of]
  refine Record.nullEffect rfl (by decide) ?_ h
  simp only [ofObject, List.forall_mem_cons]
  exact ⟨⟨by simp, .of_field hnames 0 rfl hatLeastOne rfl fun _ => rfl⟩,
    ⟨by simp, .of_field hnames 1 rfl hatMostOne rfl fun _ => rfl⟩,
    ⟨by simp, .of_field hnames 2 rfl hexactlyOne rfl fun _ => rfl⟩,
    ⟨by simp, .of_field hnames 3 rfl hatLeast rfl fun _ => rfl⟩,
    ⟨by simp, .of_field hnames 4 rfl hatMost rfl fun _ => rfl⟩,
    ⟨by simp, .of_field hnames 5 rfl hexactly rfl fun _ => rfl⟩, List.forall_mem_nil _⟩

theorem UploadOptions.decode_of_nullAdded (h : NullAdded name ofUpload json json') :
    NullEffect name (decode json) (decode json') := by
  obtain ⟨hmaxSize, hmimeType⟩ := record_fills
  have hnames : (record.fields.map (·.name)).Nodup := by simp [record, Field.of]
  refine Record.nullEffect rfl (by decide) ?_ h
  simp only [ofUpload, List.forall_mem_cons]
  exact ⟨⟨by simp, .of_field hnames 0 rfl hmaxSize rfl fun _ => rfl⟩,
    ⟨by simp, .of_field hnames 1 rfl hmimeType rfl fun _ => rfl⟩, List.forall_mem_nil _⟩

theorem Constraint.decode_of_nullAdded {family : Family} (h : NullAdded name family.arguments json json') :
    NullEffect name (decode family json) (decode family json') := by
  cases family with
  | scalar => exact (ScalarOptions.decode_of_nullAdded h).map _
  | list => exact (ListOptions.decode_of_nullAdded h).map _
  | object => exact (PresenceOptions.decode_of_nullAdded h).map _
  | upload => exact (UploadOptions.decode_of_nullAdded h).map _

/-! ## Attaching -/

namespace Registry

variable {registry : Registry} {element : SchemaElement} {directive : String} {arguments arguments' : Json}
  {family : Family}

theorem readArguments_of_nullAdded (directive : String) (h : NullAdded name family.arguments arguments arguments') :
    (name ≠ "unique" → readArguments family directive arguments' = readArguments family directive arguments) ∧
    (name = "unique" → ∃ error, readArguments family directive arguments' = .error error ∧
      ∀ read, readArguments family directive arguments = .ok read →
        error = .malformedArguments directive (.undecodable nullFlag)) := by
  have hvalid := h.invalidInside_eq (regular_arguments family) []
  have hdecode := Constraint.decode_of_nullAdded h
  obtain ⟨members, members', rfl, rfl⟩ | ⟨items, items', rfl, rfl⟩ := h.objects_or_arrays
  · rw [invalidInside, invalidInside] at hvalid
    simp only [readArguments, hvalid]
    cases firstInvalid [] members family.arguments with
    | some failed => exact ⟨fun _ => rfl, fun _ => ⟨_, rfl, by simp⟩⟩
    | none =>
      refine ⟨fun hname => by rw [hdecode.setting hname], fun hname => ?_⟩
      obtain ⟨error, herror, hflag⟩ := hdecode.flag hname
      rw [herror]
      refine ⟨_, rfl, fun read hread => ?_⟩
      cases hfirst : Constraint.decode family (.object members) with
      | error e => simp [hfirst] at hread
      | ok constraint => rw [hflag constraint hfirst]
  · exact ⟨fun _ => rfl, fun _ => ⟨_, rfl, by simp [readArguments]⟩⟩

/-- **Null for an argument is the same as no argument, except for the flag `unique`.** A directive with a flag
    that is null is never attached, and it is the flag that is to blame if the rest is right. -/
theorem attach_of_nullAdded (hfamily : registry.familyOf? directive = some family)
    (h : NullAdded name family.arguments arguments arguments') :
    (name ≠ "unique" → registry.attach element directive arguments' = registry.attach element directive arguments) ∧
    (name = "unique" → ∃ error, registry.attach element directive arguments' = .error error ∧
      ∀ attached, registry.attach element directive arguments = .ok attached →
        error = .malformedArguments directive (.undecodable (.invalidType .null "a boolean"))) := by
  obtain ⟨hsetting, hflag⟩ := readArguments_of_nullAdded directive h
  constructor
  · intro hname
    simp only [attach, hfamily, hsetting hname]
  · intro hname
    obtain ⟨error, herror, hblame⟩ := hflag hname
    refine ⟨error, ?_, fun attached hattached => ?_⟩
    · simp only [attach, hfamily, herror]
      rfl
    · obtain ⟨other, read, hother, hread, -⟩ := attach_eq_ok_iff.1 hattached
      obtain rfl := Option.some.inj (hfamily.symm.trans hother)
      exact hblame read hread

/-- Null for the least number of items of the inner lists changes nothing. -/
theorem attach_null_minItems :
    let cells := SchemaElement.field "Grid" "cells" (.list (.list TypeRef.int))
    let arguments := Json.object [("innerList", .object [("maxItems", .integer 3)]), ("unique", .bool true)]
    let arguments' := Json.object
      [("innerList", .object [("maxItems", .integer 3), ("minItems", .null)]), ("unique", .bool true)]
    default.familyOf? "listConstraint" = some .list ∧
      NullAdded "minItems" Family.list.arguments arguments arguments' ∧
      default.attach cells "listConstraint" arguments' = default.attach cells "listConstraint" arguments := by
  intro cells arguments arguments'
  have hfamily : default.familyOf? "listConstraint" = some .list := familyOf?_eq_some_iff.2 rfl
  have hadded : NullAdded "minItems" Family.list.arguments arguments arguments' := by
    have hinner : (⟨"innerList", .inputObject listShapeName, none⟩ : ArgumentDefinition) ∈ ofList := by simp [ofList]
    have hminItems : (⟨"minItems", .int, some nonNegative⟩ : ArgumentDefinition) ∈ ofList := by simp [ofList]
    have hinside : NullAdded "minItems" ofList (.object [("maxItems", .integer 3)])
        (.object [("maxItems", .integer 3), ("minItems", .null)]) :=
      @NullAdded.here _ _ _ [("maxItems", .integer 3)] [] hminItems rfl rfl (by simp)
    exact @NullAdded.inside _ _ _ .listOptions _ _ [] _ hinner rfl hinside
  exact ⟨hfamily, hadded, (attach_of_nullAdded hfamily hadded).1 (by simp)⟩

/-- Null for the flag is an error, although the type of the flag takes null and the flag may be left out. -/
theorem attach_null_unique :
    let tags := SchemaElement.field "Post" "tags" (.list TypeRef.string)
    NullAdded "unique" Family.list.arguments (.object []) (.object [("unique", .null)]) ∧
      default.attach tags "listConstraint" (.object []) = .ok (.list {}) ∧
      default.attach tags "listConstraint" (.object [("unique", .null)]) =
        .error (.malformedArguments "listConstraint" (.undecodable (.invalidType .null "a boolean"))) := by
  intro tags
  have hunique : (⟨"unique", .boolean, none⟩ : ArgumentDefinition) ∈ ofList := by simp [ofList]
  have hfamily : default.familyOf? "listConstraint" = some .list := familyOf?_eq_some_iff.2 rfl
  have hvalid : firstInvalid [] [("unique", .null)] ofList = none := by
    simp [ofList, firstInvalid, Fields.find?]
  have hdecode : Constraint.decode .list (.object [("unique", .null)]) = .error nullFlag := by
    rw [Constraint.decode, ListOptions.decode_eq_read, Record.read, List.foldlM_cons,
      ListOptions.readMember_unique_null]
    rfl
  refine ⟨@NullAdded.here _ _ _ [] [] hunique rfl rfl (by simp), ?_, ?_⟩
  · refine attach_eq_ok_iff.2 ⟨.list, .list {}, hfamily, readArguments_eq_ok_iff.2 ⟨_, rfl, ?_, rfl⟩, rfl, rfl, rfl⟩
    simp [Family.arguments, ofList, firstInvalid]
  · have hread : readArguments .list "listConstraint" (.object [("unique", .null)]) =
        .error (.malformedArguments "listConstraint" (.undecodable (.invalidType .null "a boolean"))) := by
      simp only [readArguments, Family.arguments, hvalid, hdecode]
      rfl
    simp only [attach, hfamily, hread]
    rfl

end Registry

end SchemaConstraints
