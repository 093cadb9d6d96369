import SchemaConstraints.Pattern.Error
import SchemaConstraints.Pattern.Syntax

set_option autoImplicit false

/-! # Limits of patterns

A pattern must not be nested too deeply, and the program that would run it must not be too large. The program
has a state for every step, with counted parts written out as often as they may occur, and its size can be
told from the tree without building it. -/

namespace SchemaConstraints

namespace Pattern

namespace Node

/-! ## Nesting -/

/-- The deepest that the parts of a pattern may be nested. -/
def nestingLimit : Nat := 50

mutual

/-- How deeply the parts of a pattern are nested; zero for a pattern without parts. -/
def nesting : Node → Nat
  | .empty | .char _ | .set _ | .assertion _ => 0
  | .repetition _ _ sub | .group _ sub => nesting sub + 1
  | .sequence subs | .choice subs => nestings subs

/-- The nesting of a pattern of which these are the parts. -/
def nestings : List Node → Nat
  | [] => 0
  | sub :: subs => max (nesting sub + 1) (nestings subs)

end

/-! ## Programs -/

mutual

/-- Whether a pattern may match without reading a character. -/
def mayBeEmpty : Node → Bool
  | .empty | .assertion _ => true
  | .char _ | .set _ => false
  | .repetition min _ sub => min == 0 || mayBeEmpty sub
  | .group _ sub => mayBeEmpty sub
  | .sequence subs => allMayBeEmpty subs
  | .choice subs => anyMayBeEmpty subs

/-- Whether each of several patterns may match without reading a character. -/
def allMayBeEmpty : List Node → Bool
  | [] => true
  | sub :: subs => mayBeEmpty sub && allMayBeEmpty subs

/-- Whether one of several patterns may match without reading a character. -/
def anyMayBeEmpty : List Node → Bool
  | [] => false
  | sub :: subs => mayBeEmpty sub || anyMayBeEmpty subs

end

/-- The greatest size in bytes that the program of a pattern may have. -/
def sizeLimit : Nat := 10 * Nat.pow 2 20

/-- The size of a state of a program that leads to one other state. -/
def stateSize : Nat := 32

/-- The size of a state that reads a character of a set. -/
def setSize (chars : CharSet) : Nat := stateSize + 8 * chars.ranges.length

/-- The size of a state that leads to several others. -/
def splitSize (targets : Nat) : Nat := stateSize + 4 * targets

/-- The size of a part that occurs any number of times. If it may be empty, then it is entered and repeated at
    different states, which meet again in a third. -/
def starSize (size : Nat) (mayBeEmpty : Bool) : Nat :=
  if mayBeEmpty then size + 2 * splitSize 2 + stateSize else size + splitSize 2

/-- The size of a part that occurs between `min` and `max` times. Copies beyond the minimum can be skipped, and
    all who skip meet in one state; no copies at all are one state, unless the whole is a single option. -/
def countedSize (min max size : Nat) : Nat :=
  if min = max then min * size
  else
    (if min = 0 then if max = 1 then 0 else stateSize else min * size) +
      (max - min) * (size + splitSize 2) + stateSize

mutual

/-- The size of the states of a pattern, in which counted parts are written out. -/
def statesSize : Node → Nat
  | .empty | .char _ | .assertion _ => stateSize
  | .set chars => setSize chars
  | .repetition 0 none sub => starSize (statesSize sub) (mayBeEmpty sub)
  | .repetition (min + 1) none sub => (min + 1) * statesSize sub + splitSize 2
  | .repetition min (some max) sub => countedSize min max (statesSize sub)
  | .group _ sub => statesSize sub + 2 * stateSize
  | .sequence subs => statesSizes subs
  | .choice subs => statesSizes subs + splitSize subs.length + stateSize

/-- The size of the states of several patterns together. -/
def statesSizes : List Node → Nat
  | [] => 0
  | sub :: subs => statesSize sub + statesSizes subs

end

mutual

/-- The capturing groups of a pattern. -/
def captures : Node → List Capture
  | .empty | .char _ | .set _ | .assertion _ => []
  | .repetition _ _ sub => captures sub
  | .group capture sub => capture :: captures sub
  | .sequence subs | .choice subs => capturesOfAll subs

/-- The capturing groups of several patterns. -/
def capturesOfAll : List Node → List Capture
  | [] => []
  | sub :: subs => captures sub ++ capturesOfAll subs

end

/-- The size of the table of the names of groups, which has a row for every group up to the last and for the
    match itself, and of the index of those that have a name. -/
def namesSize (captures : List Capture) : Nat :=
  16 * (captures.foldl (fun last capture => max last capture.number) 0 + 1) +
    (captures.filterMap Capture.name).foldl (fun size name => size + (name.utf8ByteSize + 4)) 0

/-- The size of the program of a pattern. The match itself is a group, after which the program ends. -/
def programSize (node : Node) : Nat := node.statesSize + 3 * stateSize + namesSize node.captures

/-- The tree of a pattern within the limits. -/
def checkLimits (node : Node) : Except PatternError Node :=
  if nestingLimit < node.nesting then .error .tooNested
  else if sizeLimit < node.programSize then .error .tooLarge
  else .ok node

end Node

end Pattern

end SchemaConstraints
