import SchemaConstraints.Value.Basic

set_option autoImplicit false

/-! # What makes two list items duplicates

The identity of a value is what is left of it when every variable is replaced by its value, every enum
value by what it stands for, both zeros by one, and every object by its map of fields. Two items of a list
are duplicates if their identities are the same. An integer and a floating-point number always differ;
two NaN of the same bits are duplicates.

Inside the value of a variable the variable itself is unbound. Bindings that do not lead back to
themselves never notice, and the recursion always ends: it goes down in the number of bindings or in the
size of the value. -/

namespace SchemaConstraints

/-- The identity of a value. The fields of an object are sorted by name. -/
inductive Identity where
  | null
  | bool (b : Bool)
  | int (n : Int64)
  | float (x : Binary64)
  | string (s : String)
  | list (items : List Identity)
  | object (fields : List (String × Identity))
  | upload (file : UploadedFile)
  deriving Repr

namespace Identity

/-! ## Equality of identities -/

mutual

/-- Whether two identities are the same. -/
def same : Identity → Identity → Bool
  | .null, .null => true
  | .bool a, .bool b => a == b
  | .int a, .int b => a == b
  | .float a, .float b => a == b
  | .string a, .string b => a == b
  | .list as, .list bs => sameItems as bs
  | .object as, .object bs => sameFields as bs
  | .upload a, .upload b => a == b
  | _, _ => false

/-- Whether two lists of identities are the same. -/
def sameItems : List Identity → List Identity → Bool
  | [], [] => true
  | a :: as, b :: bs => same a b && sameItems as bs
  | _, _ => false

/-- Whether two lists of named identities are the same. -/
def sameFields : List (String × Identity) → List (String × Identity) → Bool
  | [], [] => true
  | (m, a) :: as, (n, b) :: bs => m == n && same a b && sameFields as bs
  | _, _ => false

end

mutual

theorem same_iff_eq (a b : Identity) : same a b = true ↔ a = b := by
  cases a <;> cases b <;> simp [same, sameItems_iff_eq, sameFields_iff_eq]

theorem sameItems_iff_eq (as bs : List Identity) : sameItems as bs = true ↔ as = bs := by
  cases as with
  | nil => cases bs <;> simp [sameItems]
  | cons a as =>
    cases bs with
    | nil => simp [sameItems]
    | cons b bs => simp [sameItems, same_iff_eq a b, sameItems_iff_eq as bs]

theorem sameFields_iff_eq (as bs : List (String × Identity)) : sameFields as bs = true ↔ as = bs := by
  cases as with
  | nil => cases bs <;> simp [sameFields]
  | cons a as =>
    cases bs with
    | nil => obtain ⟨m, a⟩ := a; simp [sameFields]
    | cons b bs =>
      obtain ⟨m, a⟩ := a
      obtain ⟨n, b⟩ := b
      simp [sameFields, same_iff_eq a b, sameFields_iff_eq as bs, and_assoc]

end

instance : DecidableEq Identity := fun a b => decidable_of_iff _ (same_iff_eq a b)

/-! ## The identity of a value -/

mutual

/-- The identity of a value under bindings. A variable whose binding is a variable counts as null. -/
def ofValue (bindings : Bindings) : Value → Identity
  | .null => .null
  | .bool b => .bool b
  | .int n => .int n
  | .float x => .float x.foldZero
  | .string s => .string s
  | .enum _ repr => ofValue bindings repr
  | .list items => .list (ofItems bindings items)
  | .object _ fields => .object (Fields.sorted (ofFields bindings fields))
  | .upload file => .upload file
  | .variable name =>
    match h : Fields.find? name bindings with
    | none | some (.variable _) => .null
    | some value =>
      have := Fields.length_erase_lt h
      ofValue (Fields.erase name bindings) value
  termination_by value => (bindings.length, sizeOf value)

/-- The identities of the items of a list. -/
def ofItems (bindings : Bindings) : List Value → List Identity
  | [] => []
  | item :: items => ofValue bindings item :: ofItems bindings items
  termination_by items => (bindings.length, sizeOf items)

/-- The identities of the fields of an object. -/
def ofFields (bindings : Bindings) : List (String × Value) → List (String × Identity)
  | [] => []
  | (name, value) :: fields => (name, ofValue bindings value) :: ofFields bindings fields
  termination_by fields => (bindings.length, sizeOf fields)

end

end Identity

end SchemaConstraints
