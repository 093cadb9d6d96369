import SchemaConstraints.Check

set_option autoImplicit false

/-! # Options of the presence constraint

Six rules say how many of the listed fields of an object must be set. The first three are short forms for
a count of one. -/

namespace SchemaConstraints

/-- A count over a list of field names. -/
structure Quota where
  count : Nat
  names : List String
  deriving DecidableEq, Repr

/-- How a quota limits the number of fields that are set. -/
inductive PresenceRule where
  | atLeast
  | atMost
  | exactly
  deriving DecidableEq, Repr

/-- What the presence constraint demands of an object. -/
structure PresenceOptions where
  atLeastOne : Option (List String) := none
  atMostOne : Option (List String) := none
  exactlyOne : Option (List String) := none
  atLeast : Option Quota := none
  atMost : Option Quota := none
  exactly : Option Quota := none
  deriving DecidableEq, Repr

/-- A rule that has been set, with the check that fails when it is broken. -/
structure ConfiguredRule where
  rule : PresenceRule
  quota : Quota
  check : Check
  deriving DecidableEq, Repr

namespace PresenceOptions

/-- A quota of one over some names. -/
def one (names : List String) : Quota := ⟨1, names⟩

/-- Every rule, set or not, in the order in which they are checked. -/
def slots (options : PresenceOptions) : List (PresenceRule × Option Quota × Check) :=
  [(.atLeast, options.atLeastOne.map one, .atLeastOne),
   (.atMost, options.atMostOne.map one, .atMostOne),
   (.exactly, options.exactlyOne.map one, .exactlyOne),
   (.atLeast, options.atLeast, .atLeast),
   (.atMost, options.atMost, .atMost),
   (.exactly, options.exactly, .exactly)]

/-- The rules that are set, in the order in which they are checked. -/
def rules (options : PresenceOptions) : List ConfiguredRule :=
  options.slots.filterMap fun slot => slot.2.1.map fun quota => ⟨slot.1, quota, slot.2.2⟩

/-- Every field name that some rule lists, rule by rule. -/
def referencedFields (options : PresenceOptions) : List String :=
  options.rules.flatMap fun configured => configured.quota.names

end PresenceOptions

end SchemaConstraints
