import SchemaConstraints.Pattern.Syntax

set_option autoImplicit false

/-! # Matching

A text is read once, from left to right, while marks move through the pattern: a step of the pattern is
marked if some match that began anywhere before has just read its last character at that step. At every
position a new match may begin, so the pattern is entered there anew. From the marks and from being entered
follow two things: whether a match ends here (`exits`), and which steps read the next character (`advance`).
Parts without marks that are not entered stay as they are and cost nothing.

A repeated part is entered again whenever it is left, so a part may be repeated within a repeated part to any
depth without going through the text more than once. Parts that are repeated a number of times are written
out, as the leaves of a balanced tree. -/

namespace SchemaConstraints

namespace Pattern

/-! ## Neighbours of a position -/

/-- The characters before and after a position. -/
structure Neighbours where
  before : Option Char
  after : Option Char

namespace Neighbours

/-- Whether there is a word character. -/
def isWord (c : Option Char) : Bool := c.any CharSet.word.has

/-- Whether an assertion holds at a position. -/
def holds (here : Neighbours) : Assertion → Bool
  | .textStart => here.before.isNone
  | .textEnd => here.after.isNone
  | .lineStart => here.before.isNone || here.before == some '\n'
  | .lineEnd => here.after.isNone || here.after == some '\n'
  | .anyLineStart =>
    here.before.isNone || here.before == some '\n' ||
      (here.before == some '\r' && here.after != some '\n')
  | .anyLineEnd =>
    here.after.isNone || here.after == some '\r' ||
      (here.after == some '\n' && here.before != some '\r')
  | .wordBoundary => isWord here.before != isWord here.after
  | .noWordBoundary => isWord here.before == isWord here.after
  | .wordStart => !isWord here.before && isWord here.after
  | .wordEnd => isWord here.before && !isWord here.after
  | .wordStartHalf => !isWord here.before
  | .wordEndHalf => !isWord here.after

end Neighbours

/-! ## Marked patterns -/

mutual

/-- A pattern with marks at the steps where matches stand. Wherever a part is made of others, the first flag
    tells whether any of them is marked. -/
inductive Marked where
  | empty
  /-- Read a character; marked if it has just been read. -/
  | read (marked : Bool) (chars : CharSet)
  | check (condition : Assertion)
  | both (marked : Bool) (first second : Marked)
  | either (marked : Bool) (first second : Marked)
  /-- Any number of times. -/
  | loop (marked : Bool) (sub : Marked)
  /-- As often as there are copies, or at most as often. -/
  | times (marked atMost : Bool) (copies : Copies)

/-- The copies of a part, one after the other. -/
inductive Copies where
  | one (sub : Marked)
  | more (marked : Bool) (first second : Copies)

end

/-- A number of copies of a part, at least one. -/
def Copies.ofCount (count : Nat) (sub : Marked) : Copies :=
  if count ≤ 1 then .one sub else .more false (ofCount (count / 2) sub) (ofCount (count - count / 2) sub)
  termination_by count

namespace Marked

/-- A part a number of times. -/
def exactly (count : Nat) (sub : Marked) : Marked :=
  if count = 0 then .empty else .times false false (.ofCount count sub)

/-- A part at most a number of times. -/
def atMost (count : Nat) (sub : Marked) : Marked :=
  if count = 0 then .empty else .times false true (.ofCount count sub)

/-- A part a number of times; without a maximum, any number from the minimum on. -/
def repetition (min : Nat) (max : Option Nat) (sub : Marked) : Marked :=
  .both false (exactly min sub) (max.elim (.loop false sub) fun max => atMost (max - min) sub)

end Marked

mutual

/-- A pattern without marks. -/
def Node.unmarked : Node → Marked
  | .empty => .empty
  | .char c => .read false (.single c)
  | .set chars => .read false chars
  | .assertion condition => .check condition
  | .repetition min max sub => .repetition min max (Node.unmarked sub)
  | .group _ sub => Node.unmarked sub
  | .sequence subs => Node.unmarkedSequence subs
  | .choice subs => Node.unmarkedChoice subs

/-- Several patterns one after the other, without marks. -/
def Node.unmarkedSequence : List Node → Marked
  | [] => .empty
  | sub :: subs => .both false (Node.unmarked sub) (Node.unmarkedSequence subs)

/-- Any one of several patterns, without marks. -/
def Node.unmarkedChoice : List Node → Marked
  | [] => .read false .empty
  | sub :: subs => .either false (Node.unmarked sub) (Node.unmarkedChoice subs)

end

/-! ## Moving marks -/

/-- Whether some step is marked. -/
def Marked.isMarked : Marked → Bool
  | .empty | .check _ => false
  | .read marked _ | .both marked _ _ | .either marked _ _ | .loop marked _ | .times marked _ _ => marked

/-- Whether some step of a copy is marked. -/
def Copies.isMarked : Copies → Bool
  | .one sub => sub.isMarked
  | .more marked _ _ => marked

mutual

/-- Whether a match of a part ends here, if it may also begin here. -/
def Marked.exits (here : Neighbours) (part : Marked) (entered : Bool) : Bool :=
  match part with
  | .empty => entered
  | .read marked _ => marked
  | .check condition => entered && here.holds condition
  | .both marked first second =>
    (marked || entered) && Marked.exits here second (Marked.exits here first entered)
  | .either marked first second =>
    (marked || entered) && (Marked.exits here first entered || Marked.exits here second entered)
  | .loop marked sub => entered || (marked && Marked.exits here sub false)
  | .times marked atMost copies =>
    (marked || entered) &&
      if atMost then Copies.someExits here copies entered else Copies.exits here copies entered

/-- Whether a match of all copies ends here. -/
def Copies.exits (here : Neighbours) (copies : Copies) (entered : Bool) : Bool :=
  match copies with
  | .one sub => Marked.exits here sub entered
  | .more marked first second =>
    (marked || entered) && Copies.exits here second (Copies.exits here first entered)

/-- Whether a match of the first few copies ends here, or of none at all. -/
def Copies.someExits (here : Neighbours) (copies : Copies) (entered : Bool) : Bool :=
  match copies with
  | .one sub => entered || Marked.exits here sub false
  | .more marked first second =>
    entered || (marked &&
      (Copies.someExits here first false || Copies.someExits here second (Copies.exits here first false)))

end

mutual

/-- Move the marks of a part over the next character, where the part may also be entered here. -/
def Marked.advance (here : Neighbours) (part : Marked) (entered : Bool) : Marked :=
  if part.isMarked || entered then
    match part with
    | .empty => .empty
    | .read _ chars => .read (entered && here.after.any chars.has) chars
    | .check condition => .check condition
    | .both _ first second =>
      let first' := Marked.advance here first entered
      let second' := Marked.advance here second (first.exits here entered)
      .both (first'.isMarked || second'.isMarked) first' second'
    | .either _ first second =>
      let first' := Marked.advance here first entered
      let second' := Marked.advance here second entered
      .either (first'.isMarked || second'.isMarked) first' second'
    | .loop _ sub =>
      let sub' := Marked.advance here sub (entered || sub.exits here false)
      .loop sub'.isMarked sub'
    | .times _ atMost copies =>
      let copies' := Copies.advance here copies entered
      .times copies'.isMarked atMost copies'
  else part

/-- Move the marks of copies over the next character. -/
def Copies.advance (here : Neighbours) (copies : Copies) (entered : Bool) : Copies :=
  if copies.isMarked || entered then
    match copies with
    | .one sub => .one (Marked.advance here sub entered)
    | .more _ first second =>
      let first' := Copies.advance here first entered
      let second' := Copies.advance here second (first.exits here entered)
      .more (first'.isMarked || second'.isMarked) first' second'
  else copies

end

/-- A part that has no marks and is not entered stays as it is. -/
theorem Marked.advance_of_unmarked (here : Neighbours) {part : Marked} (h : part.isMarked = false) :
    part.advance here false = part := by
  unfold Marked.advance
  rw [h]
  rfl

/-- No match of a part ends here that has no marks and is not entered. -/
theorem Marked.exits_of_unmarked (here : Neighbours) {part : Marked} (h : part.isMarked = false) :
    part.exits here false = false := by
  cases part <;> simp_all [Marked.exits, Marked.isMarked]

/-- Whether a match ends at a position of the text that follows, if one may begin at each of them. -/
def Marked.reachesEnd (pattern : Marked) (before : Option Char) : List Char → Bool
  | [] => pattern.exits ⟨before, none⟩ true
  | c :: rest =>
    pattern.exits ⟨before, some c⟩ true ||
      (pattern.advance ⟨before, some c⟩ true).reachesEnd (some c) rest

/-- Whether a pattern matches somewhere in a text. -/
def Node.matchesIn (node : Node) (text : String) : Bool := node.unmarked.reachesEnd none text.toList

end Pattern

end SchemaConstraints
