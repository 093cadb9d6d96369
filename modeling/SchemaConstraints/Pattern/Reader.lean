import SchemaConstraints.Pattern.Class
import SchemaConstraints.Pattern.Group
import SchemaConstraints.Pattern.Limits
import SchemaConstraints.Pattern.Repeat

set_option autoImplicit false

/-! # Reading patterns

A pattern is read from left to right, one part at a time, with a stack of the groups that are still open.
The first mistake is reported. A tree that was read is checked for its nesting and for the size of its
program before it counts as a pattern. -/

namespace SchemaConstraints

namespace Pattern

/-- The alternatives of a group as far as they have been read. -/
structure Branches where
  /-- The finished alternatives, last first. -/
  finished : List Node := []
  /-- The parts of the alternative that is being read, last first. -/
  parts : List Node := []

namespace Branches

/-- Add a part to the alternative that is being read. -/
def add (branches : Branches) (node : Node) : Branches :=
  { branches with parts := node :: branches.parts }

/-- Begin the next alternative. -/
def next (branches : Branches) : Branches :=
  ⟨.ofSequence branches.parts.reverse :: branches.finished, []⟩

/-- The choice between all alternatives. -/
def toNode (branches : Branches) : Node := .ofChoice branches.next.finished.reverse

/-- Repeat the part that was read last, if there is one. -/
def repeatLast? (branches : Branches) (times : Times) : Option Branches :=
  match branches.parts with
  | [] => none
  | sub :: parts => some { branches with parts := .ofRepetition times.min times.max sub :: parts }

end Branches

/-- A group that has been opened. -/
structure OpenGroup where
  /-- The surrounding alternatives. -/
  outside : Branches
  /-- The flags that hold again after the group. -/
  flags : Flags
  /-- What the group captures; none for a group that only holds its contents together. -/
  capture : Option Capture

/-- What has been read of a pattern. -/
structure Reading where
  flags : Flags := {}
  /-- The number of the capturing groups so far. -/
  captures : Nat := 0
  /-- The names of the groups so far. -/
  names : List String := []
  branches : Branches := {}
  /-- The open groups, innermost first. -/
  groups : List OpenGroup := []

namespace Reading

/-- Add a part. -/
def add (reading : Reading) (node : Node) : Reading :=
  { reading with branches := reading.branches.add node }

/-- Open a group, which must not be nested too deeply. -/
def openGroup (reading : Reading) (flags : Flags) (capture : Option Capture) : Except PatternError Reading :=
  if reading.groups.length < Node.nestingLimit then
    .ok { reading with
      flags := flags, branches := {}
      groups := ⟨reading.branches, reading.flags, capture⟩ :: reading.groups }
  else .error .tooNested

/-- Count a capturing group. -/
def addCapture (reading : Reading) (name : Option String) : Reading :=
  { reading with captures := reading.captures + 1, names := name.toList ++ reading.names }

/-- Open a group, or follow a directive. -/
def start (reading : Reading) : GroupStart → Except PatternError Reading
  | .capture name => (reading.addCapture name).openGroup reading.flags (some ⟨reading.captures + 1, name⟩)
  | .plain flags => reading.openGroup flags none
  | .directive flags => .ok { reading with flags := flags }

/-- Close the innermost group. -/
def close (reading : Reading) : Except PatternError Reading :=
  match reading.groups with
  | [] => .error .unopenedGroup
  | group :: groups =>
    let inside := reading.branches.toNode
    let node := group.capture.elim inside fun capture => .group capture inside
    .ok { reading with flags := group.flags, branches := group.outside.add node, groups := groups }

/-- Repeat the last part, or report that there is none. -/
def repeatLast (reading : Reading) (times : Times) (missing : PatternError) :
    Except PatternError Reading :=
  match reading.branches.repeatLast? times with
  | none => .error missing
  | some branches => .ok { reading with branches := branches }

/-- What a dot stands for. -/
def dot (flags : Flags) : CharSet :=
  if flags.dotAll then .all
  else if flags.anyLineEnd then (CharSet.ofRanges [.single '\n', .single '\r']).complement
  else (CharSet.single '\n').complement

/-- What `^` stands for. -/
def startAnchor (flags : Flags) : Assertion :=
  if flags.multiLine then if flags.anyLineEnd then .anyLineStart else .lineStart else .textStart

/-- What `$` stands for. -/
def endAnchor (flags : Flags) : Assertion :=
  if flags.multiLine then if flags.anyLineEnd then .anyLineEnd else .lineEnd else .textEnd

/-- Read the part that begins with the character `c`. -/
def step (reading : Reading) (c : Char) (rest : List Char) : Except PatternError (Reading × List Char) :=
  let flags := reading.flags
  match c with
  | '(' => do
    let (opening, rest) ← groupStart flags reading.names rest
    let reading ← reading.start opening
    return (reading, rest)
  | ')' => do
    let reading ← reading.close
    return (reading, rest)
  | '|' => .ok ({ reading with branches := reading.branches.next }, rest)
  | '[' => do
    let (chars, rest) ← characterClass flags rest
    return (reading.add (.set chars), rest)
  | '{' =>
    if reading.branches.parts.isEmpty then .error .nothingToCount
    else do
      let (times, rest) ← count flags rest
      let reading ← reading.repeatLast times .nothingToCount
      return (reading, rest)
  | '\\' => do
    let (node, rest) ← escape flags rest
    return (reading.add node, rest)
  | '.' => .ok (reading.add (.set (dot flags)), rest)
  | '^' => .ok (reading.add (.assertion (startAnchor flags)), rest)
  | '$' => .ok (reading.add (.assertion (endAnchor flags)), rest)
  | c =>
    match Times.ofOperator? c with
    | some times => do
      let reading ← reading.repeatLast times .nothingToRepeat
      return (reading, dropLazy rest)
    | none => .ok (reading.add (.ofChar flags.ignoreCase c), rest)

theorem step_length {reading after : Reading} {c : Char} {rest tail : List Char}
    (h : step reading c rest = .ok (after, tail)) : tail.length ≤ rest.length := by
  unfold step at h
  dsimp only at h
  split at h
  · obtain ⟨⟨opening, more⟩, hg, h⟩ := bind_eq_ok h
    obtain ⟨_, _, h⟩ := bind_eq_ok h
    cases h
    exact groupStart_length hg
  · obtain ⟨_, _, h⟩ := bind_eq_ok h
    cases h
    exact Nat.le_refl _
  · cases h
    exact Nat.le_refl _
  · obtain ⟨⟨chars, more⟩, hc, h⟩ := bind_eq_ok h
    cases h
    exact Nat.le_of_lt (characterClass_length hc)
  · split at h
    · cases h
    · obtain ⟨⟨times, more⟩, hc, h⟩ := bind_eq_ok h
      obtain ⟨_, _, h⟩ := bind_eq_ok h
      cases h
      exact count_length hc
  · obtain ⟨⟨node, more⟩, he, h⟩ := bind_eq_ok h
    cases h
    exact Nat.le_of_lt (escape_length he)
  · cases h
    exact Nat.le_refl _
  · cases h
    exact Nat.le_refl _
  · cases h
    exact Nat.le_refl _
  · split at h
    · obtain ⟨_, _, h⟩ := bind_eq_ok h
      cases h
      exact dropLazy_length rest
    · cases h
      exact Nat.le_refl _

/-- Read the rest of a pattern. -/
def run (reading : Reading) (cs : List Char) : Except PatternError Node :=
  match h : skip reading.flags cs with
  | [] => if reading.groups.isEmpty then .ok reading.branches.toNode else .error .unclosedGroup
  | c :: rest =>
    match hs : step reading c rest with
    | .error e => .error e
    | .ok (after, tail) =>
      have := Nat.lt_of_le_of_lt (step_length hs) (length_lt_of_skip h)
      run after tail
  termination_by cs.length

end Reading

/-- The tree that a text spells, or the first mistake in it. -/
def parse (source : String) : Except PatternError Node := do
  (← Reading.run {} source.toList).checkLimits

end Pattern

end SchemaConstraints
