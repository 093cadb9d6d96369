import SchemaConstraints.Pattern.Scan

set_option autoImplicit false

/-! # Repetition operators

A star, a plus, a question mark or a count in braces after the part that it repeats. A question mark after
an operator makes it lazy, which does not change what matches. -/

namespace SchemaConstraints

namespace Pattern

/-- How often a part may occur. -/
structure Times where
  min : Nat
  /-- Without a maximum, any number of times from the minimum on. -/
  max : Option Nat

/-- The bounds of an operator that is a single character. -/
def Times.ofOperator? : Char → Option Times
  | '?' => some ⟨0, some 1⟩
  | '*' => some ⟨0, none⟩
  | '+' => some ⟨1, none⟩
  | _ => none

/-- Drop the mark of a lazy operator. -/
def dropLazy : List Char → List Char
  | '?' :: rest => rest
  | rest => rest

/-- The maximum after a comma, if there is one. -/
def countMax (flags : Flags) (cs : List Char) : Except PatternError (Option Nat × List Char) :=
  match skip flags cs with
  | [] => .error .unclosedCountComma
  | '}' :: rest => .ok (none, '}' :: rest)
  | c :: rest => do
    let (max, rest) ← decimal flags (c :: rest)
    if rest.isEmpty then .error .unclosedCountMax else .ok (some max, rest)

/-- The bounds before the closing brace of a count. -/
def countBounds (flags : Flags) (cs : List Char) : Except PatternError (Times × List Char) :=
  match skip flags cs with
  | [] => .error .unclosedCount
  | c :: rest => do
    let (min, rest) ← decimal flags (c :: rest)
    match rest with
    | [] => .error .unclosedCountMin
    | ',' :: rest => do
      let (max, rest) ← countMax flags rest
      return (⟨min, max⟩, rest)
    | rest => .ok (⟨min, some min⟩, rest)

/-- Whether a count has a maximum below its minimum. -/
def Times.impossible (times : Times) : Bool := times.max.any fun max => decide (max < times.min)

/-- A count, after its opening brace. -/
def count (flags : Flags) (cs : List Char) : Except PatternError (Times × List Char) := do
  let (times, rest) ← countBounds flags cs
  match rest with
  | '}' :: rest =>
    if times.impossible then .error .countMinAboveMax
    else .ok (times, dropLazy (skip flags rest))
  | _ => .error .unexpectedInCount

theorem dropLazy_length (cs : List Char) : (dropLazy cs).length ≤ cs.length := by
  unfold dropLazy
  split
  · exact Nat.le_succ _
  · exact Nat.le_refl _

theorem countMax_length {flags : Flags} {cs rest : List Char} {max : Option Nat}
    (h : countMax flags cs = .ok (max, rest)) : rest.length ≤ cs.length := by
  unfold countMax at h
  split at h
  · cases h
  · next tail hs =>
    cases h
    exact length_lt_of_skip hs
  · next c tail _ hs =>
    obtain ⟨⟨n, more⟩, hd, h⟩ := bind_eq_ok h
    dsimp only at h
    split at h
    · cases h
    · cases h
      exact Nat.le_trans (decimal_length hd) (length_lt_of_skip hs)

theorem countBounds_length {flags : Flags} {cs rest : List Char} {times : Times}
    (h : countBounds flags cs = .ok (times, rest)) : rest.length ≤ cs.length := by
  unfold countBounds at h
  split at h
  · cases h
  · next c tail hs =>
    obtain ⟨⟨n, more⟩, hd, h⟩ := bind_eq_ok h
    have hd := Nat.le_trans (decimal_length hd) (length_lt_of_skip hs)
    dsimp only at h
    split at h
    · cases h
    · obtain ⟨⟨max, _⟩, hm, h⟩ := bind_eq_ok h
      cases h
      exact Nat.le_trans (countMax_length hm) (Nat.le_of_lt hd)
    · cases h
      exact hd

theorem count_length {flags : Flags} {cs rest : List Char} {times : Times}
    (h : count flags cs = .ok (times, rest)) : rest.length ≤ cs.length := by
  obtain ⟨⟨bounds, more⟩, hb, h⟩ := bind_eq_ok h
  dsimp only at h
  split at h
  · next tail =>
    split at h
    · cases h
    · cases h
      exact Nat.le_trans (Nat.le_trans (dropLazy_length _) (skip_length flags tail))
        (Nat.le_of_lt (countBounds_length hb))
  · cases h

end Pattern

end SchemaConstraints
