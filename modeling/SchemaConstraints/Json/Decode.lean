import SchemaConstraints.Json.Basic
import SchemaConstraints.Number
import SchemaConstraints.Pattern.Basic
import SchemaConstraints.Scalar
import SchemaConstraints.Text.Quoted

set_option autoImplicit false

/-! # Reading typed data from JSON values

A record is written as an object, whose members are read in the order of their names, or as an array of
its fields in the order in which they are declared. The first thing that does not fit is reported. -/

namespace SchemaConstraints

/-- Why a JSON value does not spell what was expected. -/
inductive DecodeError where
  /-- A member that the record does not have, and the fields that it has. -/
  | unknownField (name : String) (known : List String)
  | missingField (name : String)
  /-- An array with too few elements for a record of so many fields. -/
  | tooFewElements (found : Nat) (record : String) (fields : Nat)
  | tooManyElements (found : Nat)
  /-- A value of the wrong type. -/
  | invalidType (found : Json) (expected : String)
  /-- An integer outside the range of what was expected. -/
  | invalidInteger (found : Int) (expected : String)
  | notNumber
  | notScalar
  | pattern (error : PatternError)

namespace DecodeError

/-- A name between backquotes. -/
def ticked (name : String) : String := "\x60" ++ name ++ "\x60"

/-- The fields that a record has, for someone who used another. -/
def expectedFields : List String → String
  | [] => "there are no fields"
  | [name] => "expected " ++ ticked name
  | [first, second] => "expected " ++ ticked first ++ " or " ++ ticked second
  | names => "expected one of " ++ ", ".intercalate (names.map ticked)

/-- What a JSON value is, with its text if it is short. -/
def describe : Json → String
  | .null => "null"
  | .bool b => "boolean " ++ ticked (if b then "true" else "false")
  | .integer n => "integer " ++ ticked (toString n)
  | .float x => "floating point " ++ ticked (x.text .json)
  | .string s => "string " ++ Text.quoted s
  | .array _ => "sequence"
  | .object _ => "map"

/-- The wording of an error. -/
def message : DecodeError → String
  | unknownField name known => "unknown field " ++ ticked name ++ ", " ++ expectedFields known
  | missingField name => "missing field " ++ ticked name
  | tooFewElements found record fields =>
    "invalid length " ++ toString found ++ ", expected struct " ++ record ++ " with " ++
      toString fields ++ (if fields = 1 then " element" else " elements")
  | tooManyElements found =>
    "invalid length " ++ toString found ++ ", expected fewer elements in array"
  | invalidType found expected => "invalid type: " ++ describe found ++ ", expected " ++ expected
  | invalidInteger found expected =>
    "invalid value: integer " ++ ticked (toString found) ++ ", expected " ++ expected
  | notNumber => "data did not match any variant of untagged enum Number"
  | notScalar => "data did not match any variant of untagged enum Scalar"
  | pattern error => error.message

end DecodeError

/-- The outcome of reading typed data. -/
abbrev Decoded (α : Type) := Except DecodeError α

namespace Decode

variable {α σ : Type}

/-! ## Single values -/

/-- A natural number, which the error calls by the name of its type. -/
def natural (typeName : String) : Json → Decoded Nat
  | .integer n => if 0 ≤ n then .ok n.toNat else .error (.invalidInteger n typeName)
  | json => .error (.invalidType json typeName)

/-- A count of things in memory. -/
def count : Json → Decoded Nat := natural "usize"

/-- A size in bytes. -/
def size : Json → Decoded Nat := natural "u64"

/-- A truth value. -/
def bool : Json → Decoded Bool
  | .bool b => .ok b
  | json => .error (.invalidType json "a boolean")

/-- A string. -/
def string : Json → Decoded String
  | .string s => .ok s
  | json => .error (.invalidType json "a string")

/-- A number of either kind. -/
def number (json : Json) : Decoded Number :=
  match Number.ofJson? json with
  | some n => .ok n
  | none => .error .notNumber

/-- A leaf: a truth value, a number or a string. -/
def scalar (json : Json) : Decoded Scalar :=
  match Scalar.ofJson? json with
  | some s => .ok s
  | none => .error .notScalar

/-- A pattern, which must compile. -/
def pattern (json : Json) : Decoded Pattern := do
  match Pattern.compile (← string json) with
  | .ok compiled => .ok compiled
  | .error e => .error (.pattern e)

/-- A list of things that are read in the same way. -/
def list (item : Json → Decoded α) : Json → Decoded (List α)
  | .array items => items.mapM item
  | json => .error (.invalidType json "a sequence")

/-- A setting that null leaves open. -/
def orNull (value : Json → Decoded α) : Json → Decoded (Option α)
  | .null => .ok none
  | json => (value json).map some

/-! ## Records -/

/-- A field of a record: its name, and how reading it adds to what is known of the record. -/
structure Field (σ : Type) where
  name : String
  read : σ → Json → Decoded σ

/-- A field whose value is read on its own and then stored. -/
def Field.of (name : String) (value : Json → Decoded α) (store : σ → α → σ) : Field σ :=
  ⟨name, fun record json => (value json).map (store record)⟩

/-- How a record is read. -/
structure Record (σ : Type) where
  /-- The name that errors call the record by. -/
  name : String
  fields : List (Field σ)
  /-- The fields that must be there, in the order in which they are missed. -/
  required : List String := []
  /-- Whether an array may leave out the last fields. -/
  partialArray : Bool := false

namespace Record

/-- Read one member of an object. -/
def readMember (record : Record σ) (known : σ) (member : String × Json) : Decoded σ :=
  match record.fields.find? (·.name = member.1) with
  | some field => field.read known member.2
  | none => .error (.unknownField member.1 (record.fields.map (·.name)))

/-- Report the first required field that an object does not have. -/
def checkRequired (record : Record σ) (members : List (String × Json)) : Decoded Unit :=
  match record.required.find? fun name => !Fields.has name members with
  | some name => .error (.missingField name)
  | none => .ok ()

/-- Read the elements of an array field by field. `found` counts the elements that have been read. -/
def readElements (record : Record σ) (known : σ) (found : Nat) :
    List (Field σ) → List Json → Decoded σ
  | [], [] => .ok known
  | [], rest => .error (.tooManyElements (found + rest.length))
  | _ :: _, [] =>
    if record.partialArray then .ok known
    else .error (.tooFewElements found record.name record.fields.length)
  | field :: fields, json :: rest => do
    let known ← field.read known json
    readElements record known (found + 1) fields rest

/-- Read a record, starting from what is known without reading anything. -/
def read (record : Record σ) (initial : σ) : Json → Decoded σ
  | .object members => do
    let known ← members.foldlM (readMember record) initial
    checkRequired record members
    return known
  | .array items => readElements record initial 0 record.fields items
  | json => .error (.invalidType json ("struct " ++ record.name))

end Record

end Decode

end SchemaConstraints
