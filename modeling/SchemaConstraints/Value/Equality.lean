import SchemaConstraints.Value.Basic

set_option autoImplicit false

/-! # Equality of values

Two values are equal if they have the same form: the same kind, equal parts, and for objects the same
shape and the same map of fields. Numbers of different kinds are never equal, floating-point numbers are
equal as numbers, so NaN equals nothing, and a variable equals only itself.

Objects are compared through their sorted fields. -/

namespace SchemaConstraints

namespace Value

mutual

/-- The same value with the fields of all its objects sorted. -/
def canonical : Value → Value
  | .enum name repr => .enum name (canonical repr)
  | .list items => .list (canonicalItems items)
  | .object shape fields => .object shape (Fields.sorted (canonicalFields fields))
  | value => value

/-- The items of a list in canonical form. -/
def canonicalItems : List Value → List Value
  | [] => []
  | item :: items => canonical item :: canonicalItems items

/-- Fields with their values in canonical form. -/
def canonicalFields : List (String × Value) → List (String × Value)
  | [] => []
  | (name, value) :: fields => (name, canonical value) :: canonicalFields fields

end

mutual

/-- Equality part by part, with fields compared in the order in which they stand. -/
def sameForm : Value → Value → Bool
  | .null, .null => true
  | .bool a, .bool b => a == b
  | .int a, .int b => a == b
  | .float a, .float b => a.numEq b
  | .string a, .string b => a == b
  | .enum a r, .enum b s => a == b && sameForm r s
  | .list as, .list bs => sameItems as bs
  | .object s as, .object t bs => s == t && sameFields as bs
  | .upload a, .upload b => a == b
  | .variable a, .variable b => a == b
  | _, _ => false

/-- Equality of lists, item by item. -/
def sameItems : List Value → List Value → Bool
  | [], [] => true
  | a :: as, b :: bs => sameForm a b && sameItems as bs
  | _, _ => false

/-- Equality of field lists, entry by entry. -/
def sameFields : List (String × Value) → List (String × Value) → Bool
  | [], [] => true
  | (m, a) :: as, (n, b) :: bs => m == n && sameForm a b && sameFields as bs
  | _, _ => false

end

/-- Equality of values. -/
def equals (a b : Value) : Bool := sameForm a.canonical b.canonical

end Value

end SchemaConstraints
