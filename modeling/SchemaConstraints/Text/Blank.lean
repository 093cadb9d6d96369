set_option autoImplicit false

/-! # Blank characters

The characters of the Unicode property White_Space. -/

namespace SchemaConstraints

namespace Text

/-- The ranges of the blank characters, by code point. -/
def blankRanges : List (Nat × Nat) :=
  [(0x09, 0x0D), (0x20, 0x20), (0x85, 0x85), (0xA0, 0xA0), (0x1680, 0x1680), (0x2000, 0x200A),
   (0x2028, 0x2029), (0x202F, 0x202F), (0x205F, 0x205F), (0x3000, 0x3000)]

/-- Whether a character is in one of the ranges. -/
def inRanges (ranges : List (Nat × Nat)) (c : Char) : Bool :=
  ranges.any fun range => decide (range.1 ≤ c.toNat) && decide (c.toNat ≤ range.2)

/-- Whether a character is blank. -/
def isBlank (c : Char) : Bool := inRanges blankRanges c

end Text

end SchemaConstraints
