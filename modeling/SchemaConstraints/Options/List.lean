set_option autoImplicit false

/-! # Options of the list constraint

A list may hold lists. The options are a chain of levels, the first for the list itself and each further
one for the lists one level deeper. -/

namespace SchemaConstraints

/-- What is demanded of the lists of one level. -/
structure ListLevel where
  /-- Least number of items. -/
  minItems : Option Nat := none
  /-- Greatest number of items. -/
  maxItems : Option Nat := none
  /-- Whether no two items may be duplicates. -/
  unique : Bool := false
  deriving DecidableEq, Repr

/-- What the list constraint demands, level by level; there is at least one. -/
structure ListOptions where
  /-- The level of the list itself. -/
  outer : ListLevel := {}
  /-- The levels below, from the outside to the inside. -/
  inner : List ListLevel := []
  deriving DecidableEq, Repr

namespace ListOptions

/-- All levels, from the outside to the inside. -/
def levels (options : ListOptions) : List ListLevel := options.outer :: options.inner

/-- The options of the lists one level deeper. -/
def innerList (options : ListOptions) : Option ListOptions :=
  match options.inner with
  | [] => none
  | outer :: inner => some ⟨outer, inner⟩

/-- Put options under a level. -/
def nest (outer : ListLevel) (inner : Option ListOptions) : ListOptions :=
  ⟨outer, (inner.map levels).getD []⟩

/-- How many levels of lists the options describe. -/
def depth (options : ListOptions) : Nat := options.levels.length

/-- Whether the lists of some level must not hold duplicates. -/
def requiresUnique (options : ListOptions) : Bool := options.levels.any ListLevel.unique

theorem innerList_nest (outer : ListLevel) (inner : Option ListOptions) :
    (nest outer inner).innerList = inner := by
  cases inner <;> rfl

theorem nest_innerList (options : ListOptions) : nest options.outer options.innerList = options := by
  obtain ⟨outer, inner⟩ := options
  cases inner <;> rfl

end ListOptions

end SchemaConstraints
