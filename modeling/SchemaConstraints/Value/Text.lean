import SchemaConstraints.Value.Basic

set_option autoImplicit false

/-! # The text of a value

Values are written for people: strings are quoted without escapes, enum values by name, the fields of an
object in the order of their names, and files by type and size. -/

namespace SchemaConstraints

namespace Value

mutual

/-- The text of a value. -/
def text : Value → String
  | .null => "null"
  | .bool b => if b then "true" else "false"
  | .int n => toString n.toInt
  | .float x => x.text .plain
  | .string s => "\"" ++ s ++ "\""
  | .enum name _ => name
  | .list items => "[" ++ ", ".intercalate (itemTexts items) ++ "]"
  | .object _ fields =>
    let texts := Fields.sorted (fieldTexts fields)
    "\x7b" ++ ", ".intercalate (texts.map fun entry => entry.1 ++ ": " ++ entry.2) ++ "\x7d"
  | .upload file => "<" ++ file.mimeType ++ " " ++ toString file.size ++ " bytes>"
  | .variable name => "$" ++ name

/-- The texts of the items of a list. -/
def itemTexts : List Value → List String
  | [] => []
  | item :: items => text item :: itemTexts items

/-- The texts of the fields of an object. -/
def fieldTexts : List (String × Value) → List (String × String)
  | [] => []
  | (name, value) :: fields => (name, text value) :: fieldTexts fields

end

end Value

end SchemaConstraints
