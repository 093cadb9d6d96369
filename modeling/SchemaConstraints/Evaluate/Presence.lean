import SchemaConstraints.Evaluate.Leaves
import SchemaConstraints.Options.Presence

set_option autoImplicit false

/-! # Checking values against the presence constraint

A field is set if it is there and its value is not null. A field that is missing from an output object was
not requested and may have a value all the same, so there the rule `exactly` puts up with too few fields
as long as one of those it lists is missing; too many are always too many. -/

namespace SchemaConstraints

namespace PresenceOptions

/-- Whether a field is there with a value that is not null. -/
def isSet (bindings : Bindings) (fields : Fields Value) (name : String) : Bool :=
  (Fields.find? name fields).any fun value => !(value.resolve bindings).isNull

/-- How many positions of a list of names hold a field that is set. -/
def setCount (bindings : Bindings) (fields : Fields Value) (names : List String) : Nat :=
  names.countP (isSet bindings fields)

/-- How many positions of a list of names hold a field that is missing. -/
def missingCount (fields : Fields Value) (names : List String) : Nat :=
  names.countP fun name => !Fields.has name fields

/-- Whether at least so many positions hold a field that is set; the rest is not looked at once they do. -/
def reaches (bindings : Bindings) (fields : Fields Value) : Nat → List String → Bool
  | 0, _ => true
  | _ + 1, [] => false
  | count + 1, name :: names =>
    if isSet bindings fields name then reaches bindings fields count names
    else reaches bindings fields (count + 1) names

end PresenceOptions

namespace PresenceRule

open PresenceOptions in
/-- Whether the fields of an object keep a rule. -/
def holds (rule : PresenceRule) (quota : Quota) (bindings : Bindings) (shape : ObjectShape)
    (fields : Fields Value) : Bool :=
  let set := setCount bindings fields quota.names
  match rule with
  | .atLeast => reaches bindings fields quota.count quota.names
  | .atMost => decide (set ≤ quota.count)
  | .exactly =>
    match shape with
    | .input => set == quota.count
    | .output =>
      decide (set ≤ quota.count) &&
        (set == quota.count || decide (0 < missingCount fields quota.names))

end PresenceRule

namespace PresenceOptions

/-- The verdict on an object: the first rule that it breaks. -/
def checkObject (options : PresenceOptions) (bindings : Bindings) (shape : ObjectShape)
    (fields : Fields Value) : Verdict :=
  options.rules.findSome? fun configured =>
    configured.check.require (configured.rule.holds configured.quota bindings shape fields)

/-- The verdict on a value that is not a list; only objects can fail. -/
def checkLeaf (options : PresenceOptions) (bindings : Bindings) : Value → Verdict
  | .object shape fields => options.checkObject bindings shape fields
  | _ => none

/-- The verdict on a value: that on its first leaf that fails. -/
def verdict (options : PresenceOptions) (bindings : Bindings) (value : Value) : Verdict :=
  value.checkLeaves (options.checkLeaf bindings) bindings

end PresenceOptions

end SchemaConstraints
