import SchemaConstraints.Options.Decode
import SchemaConstraints.Proofs.Json.Record

set_option autoImplicit false

/-! # The records of options, part by part

Every setting of a family is a part of its record and is filled by one field. List options are read by a
recursion of their own, as they hold list options again; that recursion reads them as a record does
(`ListOptions.decode_eq_read`), so they need no treatment of their own after this. -/

namespace SchemaConstraints

open Decode

theorem ScalarOptions.record_fills :
    (record.Fills "min" (orNull number) (·.min) ∧ record.Fills "max" (orNull number) (·.max)) ∧
    record.Fills "oneOf" (orNull (list scalar)) (·.oneOf) ∧
    (record.Fills "minLength" (orNull count) (·.minLength) ∧ record.Fills "maxLength" (orNull count) (·.maxLength)) ∧
    record.Fills "regex" (orNull pattern) (·.regex) := by
  refine ⟨⟨?_, ?_⟩, ?_, ⟨?_, ?_⟩, ?_⟩ <;>
    · simp only [Record.Fills, record, List.forall_mem_cons]
      refine ⟨?_, ?_, ?_, ?_, ?_, ?_, List.forall_mem_nil _⟩ <;>
        first
        | exact .own fun _ _ => rfl
        | exact .other (by decide) fun _ _ => rfl

theorem Quota.record_fills :
    record.Fills "count" Decode.count (·.count) ∧ record.Fills "from" (list string) (·.names) := by
  refine ⟨?_, ?_⟩ <;>
    · simp only [Record.Fills, record, List.forall_mem_cons]
      refine ⟨?_, ?_, List.forall_mem_nil _⟩ <;>
        first
        | exact .own fun _ _ => rfl
        | exact .other (by decide) fun _ _ => rfl

/-- Each rule has a field of its own, three of them for names and three for quotas. -/
theorem PresenceOptions.record_fills :
    (record.Fills "atLeastOne" (orNull (list string)) (·.atLeastOne) ∧
      record.Fills "atMostOne" (orNull (list string)) (·.atMostOne) ∧
      record.Fills "exactlyOne" (orNull (list string)) (·.exactlyOne)) ∧
    record.Fills "atLeast" (orNull Quota.decode) (·.atLeast) ∧
    record.Fills "atMost" (orNull Quota.decode) (·.atMost) ∧
    record.Fills "exactly" (orNull Quota.decode) (·.exactly) := by
  refine ⟨⟨?_, ?_, ?_⟩, ?_, ?_, ?_⟩ <;>
    · simp only [Record.Fills, record, List.forall_mem_cons]
      refine ⟨?_, ?_, ?_, ?_, ?_, ?_, List.forall_mem_nil _⟩ <;>
        first
        | exact .own fun _ _ => rfl
        | exact .other (by decide) fun _ _ => rfl

theorem UploadOptions.record_fills :
    record.Fills "maxSize" (orNull size) (·.maxSize) ∧
    record.Fills "mimeType" (orNull (list string)) (·.mimeTypes) := by
  refine ⟨?_, ?_⟩ <;>
    · simp only [Record.Fills, record, List.forall_mem_cons]
      refine ⟨?_, ?_, List.forall_mem_nil _⟩ <;>
        first
        | exact .own fun _ _ => rfl
        | exact .other (by decide) fun _ _ => rfl

/-! ## List options -/

namespace ListOptions

/-- List options as a record: the fields of the outer level, and one for the options below. -/
def record : Record ListOptions where
  name := levelRecord.name
  fields :=
    [.of "minItems" (orNull count) fun options items => { options with outer.minItems := items },
     .of "maxItems" (orNull count) fun options items => { options with outer.maxItems := items },
     .of "unique" bool fun options unique => { options with outer.unique := unique },
     .of innerName (orNull decode) fun options inner => nest options.outer inner]
  partialArray := true

theorem record_fills :
    (record.Fills "minItems" (orNull count) (·.outer.minItems) ∧
      record.Fills "maxItems" (orNull count) (·.outer.maxItems)) ∧
    record.Fills "unique" bool (·.outer.unique) ∧
    record.Fills innerName (orNull decode) innerList := by
  refine ⟨⟨?_, ?_⟩, ?_, ?_⟩ <;>
    · simp only [Record.Fills, record, List.forall_mem_cons]
      refine ⟨?_, ?_, ?_, ?_, List.forall_mem_nil _⟩ <;>
        first
        | exact .own fun _ _ => rfl
        | exact .own fun known inner => innerList_nest known.outer inner
        | exact .other (by decide) fun _ _ => rfl

theorem readMember_eq (known : ListOptions) (name : String) (json : Json) :
    record.readMember known (name, json) =
      if name = innerName then (orNull decode json).map (nest known.outer) else decodeMember known name json := by
  by_cases hinner : name = innerName
  · subst hinner
    rfl
  · rw [if_neg hinner, Record.readMember, decodeMember]
    simp only [record, levelRecord, List.find?_cons, Field.of, List.find?_nil, Ne.symm hinner]
    cases decide ("minItems" = name) with
    | true => dsimp only; cases orNull count json <;> rfl
    | false =>
      cases decide ("maxItems" = name) with
      | true => dsimp only; cases orNull count json <;> rfl
      | false =>
        cases decide ("unique" = name) with
        | true => dsimp only; cases Decode.bool json <;> rfl
        | false => rfl

theorem decodeMembers_eq_foldlM (known : ListOptions) (members : List (String × Json)) :
    decodeMembers known members = members.foldlM record.readMember known := by
  induction members generalizing known with
  | nil => rw [decodeMembers]; rfl
  | cons member members ih =>
    obtain ⟨name, json⟩ := member
    have hstep : decodeMembers known ((name, json) :: members) =
        record.readMember known (name, json) >>= fun next => decodeMembers next members := by
      rw [readMember_eq]
      by_cases hinner : name = innerName
      · rw [if_pos hinner]
        by_cases hnull : json = .null
        · subst hnull
          rw [decodeMembers, if_pos hinner]
          rfl
        · rw [decodeMembers, if_pos hinner, orNull_of_ne_null hnull, Except.map_map]
          exact hnull
      · rw [if_neg hinner]
        cases json <;> simp only [decodeMembers, if_neg hinner]
    rw [hstep, List.foldlM_cons]
    simp only [ih]

/-- **List options are read as a record** whose last field is read in the same way again. -/
theorem decode_eq_read (json : Json) : decode json = record.read {} json := by
  cases json with
  | object members =>
    rw [decode, decodeMembers_eq_foldlM, Record.read]
    cases members.foldlM record.readMember {} <;> rfl
  | array items =>
    rcases items with _ | ⟨minItems, _ | ⟨maxItems, _ | ⟨unique, _ | ⟨inner, rest⟩⟩⟩⟩ <;>
      simp only [decode, Record.read, Record.readElements, levelRecord, record, Field.of]
    · rfl
    · cases orNull count minItems <;> rfl
    · cases orNull count minItems <;> cases orNull count maxItems <;> rfl
    · cases orNull count minItems <;> cases orNull count maxItems <;> cases Decode.bool unique <;> rfl
    · cases orNull count minItems <;> cases orNull count maxItems <;> cases Decode.bool unique <;> try rfl
      -- the first three elements are read, and the fourth holds the levels below
      split
      · cases rest <;> rfl
      · next hinner =>
        rw [orNull_of_ne_null hinner]
        cases decode inner <;> cases rest <;> rfl
  | _ => rfl

end ListOptions

end SchemaConstraints
