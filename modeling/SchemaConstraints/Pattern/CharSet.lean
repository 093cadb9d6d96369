import SchemaConstraints.Pattern.CharRange

set_option autoImplicit false

/-! # Sets of characters

What a single step of a pattern may read. `insert`, `union` and `complement` keep the ranges of a set
ascending and apart, and the lemmas beside them say which characters the results hold.

Case is folded range by range after ranges that overlap or touch have been joined, and for ASCII letters
only. So `[X-c]` gains the capitals of `a`, `b` and `c` but not the small letters of `X`, `Y` and `Z`. -/

namespace SchemaConstraints

/-- A set of characters. -/
structure CharSet where
  ranges : List CharRange
  /-- The ranges ascend, with a gap between any two. -/
  apart : ranges.Pairwise CharRange.Before
  deriving Repr

namespace CharSet

/-- Whether a set holds a character. -/
def has (set : CharSet) (c : Char) : Bool := set.ranges.any (·.holds c.toNat)

/-- The set of no character. -/
def empty : CharSet := ⟨[], List.Pairwise.nil⟩

/-- Add a range. -/
def insert (set : CharSet) (range : CharRange) : CharSet :=
  ⟨range.insert set.ranges, CharRange.pairwise_insert range set.apart⟩

/-- The set of the characters of some ranges. -/
def ofRanges (ranges : List CharRange) : CharSet := ranges.foldl insert empty

/-- The set of one character. -/
def single (c : Char) : CharSet := ofRanges [.single c]

/-- The characters of several sets. -/
def union (sets : List CharSet) : CharSet := ofRanges (sets.flatMap ranges)

/-- The greatest code point. -/
def maxCodePoint : Nat := 0x10FFFF

/-- The characters that are not in a set. -/
def complement (set : CharSet) : CharSet :=
  ⟨CharRange.gaps 0 maxCodePoint set.ranges, CharRange.pairwise_gaps 0 maxCodePoint set.apart⟩

/-- Every character. -/
def all : CharSet := complement empty

/-- A set with the letters that its ranges gain when case does not count. -/
def folded (set : CharSet) : CharSet := (set.ranges.filterMap CharRange.otherCase?).foldl insert set

theorem has_insert (set : CharSet) (range : CharRange) (c : Char) :
    (set.insert range).has c = (range.holds c.toNat || set.has c) :=
  CharRange.any_holds_insert range set.ranges c.toNat

theorem has_foldl_insert (set : CharSet) (ranges : List CharRange) (c : Char) :
    (ranges.foldl insert set).has c = (set.has c || ranges.any (·.holds c.toNat)) := by
  induction ranges generalizing set with
  | nil => exact (Bool.or_false _).symm
  | cons range ranges ih =>
    rw [List.foldl_cons, ih, has_insert, List.any_cons, Bool.or_comm (range.holds _), Bool.or_assoc]

theorem has_ofRanges (ranges : List CharRange) (c : Char) :
    (ofRanges ranges).has c = ranges.any (·.holds c.toNat) :=
  has_foldl_insert empty ranges c

theorem has_union (sets : List CharSet) (c : Char) : (union sets).has c = sets.any (·.has c) := by
  rw [union, has_ofRanges, List.any_flatMap]
  rfl

theorem toNat_le_maxCodePoint (c : Char) : c.toNat ≤ maxCodePoint := by
  rcases c.valid with h | h
  · exact Nat.le_of_lt (Nat.lt_trans h (by decide))
  · exact Nat.le_of_lt_succ h.2

theorem has_complement (set : CharSet) (c : Char) : set.complement.has c = !set.has c := by
  have h := CharRange.any_holds_gaps set.apart (fun _ _ => Nat.zero_le _) (toNat_le_maxCodePoint c)
  rwa [decide_eq_true (Nat.zero_le _), Bool.true_and] at h

/-- A set, or its complement. -/
def negatedIf (negated : Bool) (set : CharSet) : CharSet := if negated then set.complement else set

/-- A set, with both cases of its letters if case does not count. -/
def foldedIf (ignoreCase : Bool) (set : CharSet) : CharSet := if ignoreCase then set.folded else set

end CharSet

end SchemaConstraints
