import SchemaConstraints.Pattern.NamedSet

set_option autoImplicit false

/-! # Syntax trees of patterns

Constructors that would add nothing are left out when a tree is built: a sequence or a choice of one part
is that part, `{1}` is the repeated part itself and `{0}` is the empty pattern. Which repetitions are lazy
is not recorded, since it never decides whether a text matches. -/

namespace SchemaConstraints

namespace Pattern

/-- A condition on a position between two characters. -/
inductive Assertion where
  | textStart
  | textEnd
  /-- At the start of a line; lines end with a line feed. -/
  | lineStart
  | lineEnd
  /-- At the start of a line; lines end with a carriage return, a line feed or both together. -/
  | anyLineStart
  | anyLineEnd
  | wordBoundary
  | noWordBoundary
  | wordStart
  | wordEnd
  /-- No word character comes before. -/
  | wordStartHalf
  /-- No word character comes after. -/
  | wordEndHalf
  deriving DecidableEq, Repr

/-- What tells a capturing group from the others. -/
structure Capture where
  /-- Groups are counted from one in the order of their opening parentheses. -/
  number : Nat
  name : Option String
  deriving Repr

/-- A pattern. -/
inductive Node where
  | empty
  | char (c : Char)
  | set (chars : CharSet)
  | assertion (condition : Assertion)
  | repetition (min : Nat) (max : Option Nat) (sub : Node)
  | group (capture : Capture) (sub : Node)
  | sequence (subs : List Node)
  | choice (subs : List Node)
  deriving Repr, Inhabited

namespace Node

/-- One pattern after the other. -/
def ofSequence : List Node → Node
  | [] => .empty
  | [sub] => sub
  | subs => .sequence subs

/-- Any one of the patterns. -/
def ofChoice : List Node → Node
  | [sub] => sub
  | subs => .choice subs

/-- A pattern a number of times; without a maximum, any number from the minimum on. -/
def ofRepetition (min : Nat) (max : Option Nat) (sub : Node) : Node :=
  if min = 0 ∧ max = some 0 then .empty
  else if min = 1 ∧ max = some 1 then sub
  else .repetition min max sub

/-- A character, in both cases if case does not count. -/
def ofChar (ignoreCase : Bool) (c : Char) : Node :=
  if ignoreCase && (c.isLower || c.isUpper) then .set (CharSet.single c).folded else .char c

end Node

end Pattern

end SchemaConstraints
