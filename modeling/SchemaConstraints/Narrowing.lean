import SchemaConstraints.Constraint

set_option autoImplicit false

/-! # Narrowing

Options narrow others if every value they accept is accepted by the others too, judged axis by axis: an
axis that the wider options leave open accepts every setting, and an axis that only they set is never
narrowed. -/

namespace SchemaConstraints

/-- Compare the settings of one axis. -/
def narrowsAxis {α : Type} (atLeastAsStrict : α → α → Bool) (narrower wider : Option α) : Bool :=
  match wider, narrower with
  | none, _ => true
  | some _, none => false
  | some w, some n => atLeastAsStrict n w

/-- Whether every member of a list occurs in another. -/
def isSubset {α : Type} (equals : α → α → Bool) (small large : List α) : Bool :=
  small.all fun item => large.any (equals · item)

namespace ScalarOptions

/-- Whether scalar options are at least as strict as others on every axis. -/
def narrows (narrower wider : ScalarOptions) : Bool :=
  narrowsAxis (fun n w => w.atMost n) narrower.min wider.min &&
    narrowsAxis (fun n w => n.atMost w) narrower.max wider.max &&
    narrowsAxis (isSubset Scalar.equals) narrower.oneOf wider.oneOf &&
    narrowsAxis (fun n w => decide (w ≤ n)) narrower.minLength wider.minLength &&
    narrowsAxis (fun n w => decide (n ≤ w)) narrower.maxLength wider.maxLength &&
    narrowsAxis (fun n w => decide (n = w)) narrower.regex wider.regex

end ScalarOptions

namespace ListLevel

/-- Whether a level is at least as strict as another on every axis. -/
def narrows (narrower wider : ListLevel) : Bool :=
  narrowsAxis (fun n w => decide (w ≤ n)) narrower.minItems wider.minItems &&
    narrowsAxis (fun n w => decide (n ≤ w)) narrower.maxItems wider.maxItems &&
    (!wider.unique || narrower.unique)

end ListLevel

namespace ListOptions

/-- Whether every level of the wider options has a level at least as strict against it. -/
def levelsNarrow : List ListLevel → List ListLevel → Bool
  | _, [] => true
  | [], _ :: _ => false
  | n :: ns, w :: ws => n.narrows w && levelsNarrow ns ws

/-- Whether list options are at least as strict as others at every level. -/
def narrows (narrower wider : ListOptions) : Bool := levelsNarrow narrower.levels wider.levels

end ListOptions

namespace PresenceRule

/-- Whether a quota is at least as strict as another under the same rule: more is required from fewer
    candidates, or less is allowed from more of them, or both ask for the same. -/
def narrows (rule : PresenceRule) (narrower wider : Quota) : Bool :=
  match rule with
  | .atLeast => decide (wider.count ≤ narrower.count) && isSubset (· == ·) narrower.names wider.names
  | .atMost => decide (narrower.count ≤ wider.count) && isSubset (· == ·) wider.names narrower.names
  | .exactly =>
    narrower.count == wider.count && isSubset (· == ·) narrower.names wider.names &&
      isSubset (· == ·) wider.names narrower.names

end PresenceRule

namespace PresenceOptions

/-- Whether presence options are at least as strict as others in every rule. -/
def narrows (narrower wider : PresenceOptions) : Bool :=
  (narrower.slots.zip wider.slots).all fun (n, w) => narrowsAxis n.1.narrows n.2.1 w.2.1

end PresenceOptions

namespace UploadOptions

/-- Whether upload options are at least as strict as others on every axis. -/
def narrows (narrower wider : UploadOptions) : Bool :=
  narrowsAxis (fun n w => decide (n ≤ w)) narrower.maxSize wider.maxSize &&
    narrowsAxis (isSubset (· == ·)) narrower.mimeTypes wider.mimeTypes

end UploadOptions

namespace Constraint

/-- Whether a constraint is at least as strict as another. Constraints of different families never are. -/
def narrows : Constraint → Constraint → Bool
  | .scalar n, .scalar w => n.narrows w
  | .list n, .list w => n.narrows w
  | .object n, .object w => n.narrows w
  | .upload n, .upload w => n.narrows w
  | _, _ => false

end Constraint

end SchemaConstraints
