import SchemaConstraints.Constraint
import SchemaConstraints.Json.Decode

set_option autoImplicit false

/-! # Reading options from JSON values

Each family has a record of its axes. Null leaves an axis open, except for the flag `unique`, which is not
an axis that can be missing. The options of a list nest under `innerList`, and a record of list options may
be written as an array that leaves out its last fields. -/

namespace SchemaConstraints

open Decode

namespace ScalarOptions

/-- The record of scalar options. -/
def record : Record ScalarOptions where
  name := "ConstraintOptions"
  fields :=
    [.of "min" (orNull number) fun options min => { options with min := min },
     .of "max" (orNull number) fun options max => { options with max := max },
     .of "oneOf" (orNull (list scalar)) fun options oneOf => { options with oneOf := oneOf },
     .of "minLength" (orNull count) fun options length => { options with minLength := length },
     .of "maxLength" (orNull count) fun options length => { options with maxLength := length },
     .of "regex" (orNull pattern) fun options regex => { options with regex := regex }]

/-- The scalar options that a JSON value spells. -/
def decode (json : Json) : Decoded ScalarOptions := record.read {} json

end ScalarOptions

namespace ListOptions

/-- The record of a single level, without what is below it. -/
def levelRecord : Record ListLevel where
  name := "ListConstraintOptions"
  fields :=
    [.of "minItems" (orNull count) fun level items => { level with minItems := items },
     .of "maxItems" (orNull count) fun level items => { level with maxItems := items },
     .of "unique" bool fun level unique => { level with unique := unique }]
  partialArray := true

/-- The name of the field that holds the options one level deeper. -/
def innerName : String := "innerList"

/-- The names of all fields. -/
def fieldNames : List String := levelRecord.fields.map (·.name) ++ [innerName]

/-- Read a member other than the options below. -/
def decodeMember (options : ListOptions) (name : String) (json : Json) : Decoded ListOptions :=
  match levelRecord.fields.find? (·.name = name) with
  | some field => (field.read options.outer json).map fun outer => { options with outer := outer }
  | none => .error (.unknownField name fieldNames)

mutual

/-- The list options that a JSON value spells. -/
def decode : Json → Decoded ListOptions
  | .object members => decodeMembers {} members
  | .array (minItems :: maxItems :: unique :: inner :: rest) => do
    let outer ← levelRecord.readElements {} 0 levelRecord.fields [minItems, maxItems, unique]
    let options ←
      match inner with
      | .null => .ok (nest outer none)
      | _ => (decode inner).map fun options => nest outer (some options)
    if rest.isEmpty then .ok options else .error (.tooManyElements (4 + rest.length))
  | .array items => (levelRecord.readElements {} 0 levelRecord.fields items).map fun outer => ⟨outer, []⟩
  | json => .error (.invalidType json ("struct " ++ levelRecord.name))

/-- Read the members of an object on top of what is known. -/
def decodeMembers (options : ListOptions) : List (String × Json) → Decoded ListOptions
  | [] => .ok options
  | (name, json) :: members => do
    let options ←
      if name = innerName then
        match json with
        | .null => .ok (nest options.outer none)
        | _ => (decode json).map fun inner => nest options.outer (some inner)
      else decodeMember options name json
    decodeMembers options members

end

end ListOptions

/-- The record of a quota. -/
def Quota.record : Record Quota where
  name := "CountFrom"
  fields :=
    [.of "count" Decode.count fun quota count => { quota with count := count },
     .of "from" (list string) fun quota names => { quota with names := names }]
  required := ["count", "from"]

/-- The quota that a JSON value spells. -/
def Quota.decode (json : Json) : Decoded Quota := Quota.record.read ⟨0, []⟩ json

namespace PresenceOptions

/-- The record of presence options. -/
def record : Record PresenceOptions where
  name := "ObjectPresenceOptions"
  fields :=
    [.of "atLeastOne" names fun options names => { options with atLeastOne := names },
     .of "atMostOne" names fun options names => { options with atMostOne := names },
     .of "exactlyOne" names fun options names => { options with exactlyOne := names },
     .of "atLeast" quota fun options quota => { options with atLeast := quota },
     .of "atMost" quota fun options quota => { options with atMost := quota },
     .of "exactly" quota fun options quota => { options with exactly := quota }]
where
  /-- A rule that counts one. -/
  names : Json → Decoded (Option (List String)) := orNull (list string)
  /-- A rule with a count of its own. -/
  quota : Json → Decoded (Option Quota) := orNull Quota.decode

/-- The presence options that a JSON value spells. -/
def decode (json : Json) : Decoded PresenceOptions := record.read {} json

end PresenceOptions

namespace UploadOptions

/-- The record of upload options. -/
def record : Record UploadOptions where
  name := "UploadConstraintOptions"
  fields :=
    [.of "maxSize" (orNull size) fun options size => { options with maxSize := size },
     .of "mimeType" (orNull (list string)) fun options types => { options with mimeTypes := types }]

/-- The upload options that a JSON value spells. -/
def decode (json : Json) : Decoded UploadOptions := record.read {} json

end UploadOptions

/-- The constraint of a family whose options a JSON value spells. -/
def Constraint.decode (family : Family) (json : Json) : Decoded Constraint :=
  match family with
  | .scalar => (ScalarOptions.decode json).map .scalar
  | .list => (ListOptions.decode json).map .list
  | .object => (PresenceOptions.decode json).map .object
  | .upload => (UploadOptions.decode json).map .upload

end SchemaConstraints
