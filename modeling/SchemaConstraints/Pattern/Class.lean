import SchemaConstraints.Pattern.Scan

set_option autoImplicit false

/-! # Character classes

The text between brackets: characters, ranges, escapes and named sets. Directly after the opening bracket,
dashes and, if there are none, a closing bracket stand for themselves. Case is folded over all that was
written before a complement is taken. -/

namespace SchemaConstraints

namespace Pattern

/-- Whether a named set is a complement, and what follows the sign. -/
def unsigned : List Char → Bool × List Char
  | '^' :: rest => (true, rest)
  | rest => (false, rest)

theorem unsigned_length (cs : List Char) : (unsigned cs).2.length ≤ cs.length := by
  unfold unsigned
  split
  · exact Nat.le_succ _
  · exact Nat.le_refl _

/-- A named set, such as `[:alpha:]`, after its opening bracket; none if this is no named set. -/
def namedSet? (cs : List Char) : Option (CharSet × List Char) :=
  match cs with
  | ':' :: rest =>
    match (unsigned rest).2.dropWhile (· != ':') with
    | ':' :: ']' :: after =>
      (CharSet.ofName? (String.ofList ((unsigned rest).2.takeWhile (· != ':')))).map fun set =>
        (set.negatedIf (unsigned rest).1, after)
    | _ => none
  | _ => none

/-- One end of a range, or an item of its own: an escape or a character. -/
def classItem (flags : Flags) : List Char → Except PatternError (Node × List Char)
  | [] => .error .unclosedClass
  | '\\' :: rest => escape flags rest
  | c :: rest => .ok (.char c, rest)

/-- The character that an end of a range must be. -/
def rangeBound : Node → Except PatternError Char
  | .char c => .ok c
  | _ => .error .classRangeBound

/-- The set that an item on its own adds to a class. -/
def itemSet : Node → Except PatternError CharSet
  | .char c => .ok (.single c)
  | .set chars => .ok chars
  | _ => .error .invalidClassEscape

/-- The range between two items. -/
def rangeBetween (first last : Node) : Except PatternError CharSet := do
  let lo ← rangeBound first
  let hi ← rangeBound last
  if h : lo.toNat ≤ hi.toNat then .ok (.ofRanges [.between lo hi h]) else .error .invalidClassRange

/-- An item or a range. A dash before a closing bracket or another dash makes no range. -/
def classRange (flags : Flags) (cs : List Char) : Except PatternError (CharSet × List Char) := do
  let (first, rest) ← classItem flags cs
  match skip flags rest with
  | [] => .error .unclosedClassAfterItem
  | c :: rest =>
    let next := peekAfterDash flags rest
    if c != '-' || next == some ']' || next == some '-' then do
      let set ← itemSet first
      return (set, c :: rest)
    else
      match skip flags rest with
      | [] => .error .unclosedClassAfterDash
      | d :: rest => do
        let (last, rest) ← classItem flags (d :: rest)
        let set ← rangeBetween first last
        return (set, rest)

theorem namedSet?_length {cs rest : List Char} {set : CharSet} (h : namedSet? cs = some (set, rest)) :
    rest.length < cs.length := by
  unfold namedSet? at h
  split at h
  · next tail =>
    split at h
    · next after heq =>
      obtain ⟨_, _, h⟩ := Option.map_eq_some_iff.1 h
      cases h
      have hd := dropWhile_length (· != ':') (unsigned tail).2
      have hu := unsigned_length tail
      rw [heq] at hd
      exact Nat.lt_succ_of_le (Nat.le_trans (Nat.le_of_lt (Nat.lt_of_succ_lt hd)) hu)
    · cases h
  · cases h

theorem classItem_length {flags : Flags} {cs rest : List Char} {node : Node}
    (h : classItem flags cs = .ok (node, rest)) : rest.length < cs.length := by
  unfold classItem at h
  split at h
  · cases h
  · exact Nat.lt_succ_of_lt (escape_length h)
  · cases h
    exact Nat.lt_succ_self _

theorem classRange_length {flags : Flags} {cs rest : List Char} {set : CharSet}
    (h : classRange flags cs = .ok (set, rest)) : rest.length < cs.length := by
  obtain ⟨⟨first, more⟩, hi, h⟩ := bind_eq_ok h
  have hi := classItem_length hi
  dsimp only at h
  split at h
  · cases h
  · next c tail hs =>
    have hs := length_lt_of_skip hs
    split at h
    · obtain ⟨_, _, h⟩ := bind_eq_ok h
      cases h
      exact Nat.lt_of_le_of_lt hs hi
    · split at h
      · cases h
      · next d tail' hs' =>
        have hs' := length_lt_of_skip hs'
        obtain ⟨⟨last, more'⟩, hl, h⟩ := bind_eq_ok h
        obtain ⟨_, _, h⟩ := bind_eq_ok h
        cases h
        exact Nat.lt_trans (Nat.lt_of_lt_of_le (classItem_length hl) hs') (Nat.lt_trans hs hi)

/-- The items of a class up to its closing bracket, added to those that were read before. -/
def classItems (flags : Flags) (found : List CharSet) (cs : List Char) :
    Except PatternError (List CharSet × List Char) :=
  match h : skip flags cs with
  | [] => .error .unclosedClass
  | '[' :: rest =>
    match hn : namedSet? rest with
    | none => .error .nestedClass
    | some (set, tail) =>
      have := Nat.lt_trans (namedSet?_length hn) (length_lt_of_skip h)
      classItems flags (set :: found) tail
  | ']' :: rest => .ok (found.reverse, rest)
  | '&' :: '&' :: _ => .error .classIntersection
  | '-' :: '-' :: _ => .error .classDifference
  | '~' :: '~' :: _ => .error .classSymmetricDifference
  | c :: rest =>
    match hr : classRange flags (c :: rest) with
    | .error e => .error e
    | .ok (set, tail) =>
      have := Nat.lt_of_lt_of_le (classRange_length hr) (length_lt_of_skip h)
      classItems flags (set :: found) tail
  termination_by cs.length

theorem classItems_length {flags : Flags} {found sets : List CharSet} {cs rest : List Char}
    (h : classItems flags found cs = .ok (sets, rest)) : rest.length < cs.length := by
  fun_induction classItems flags found cs with
  | case3 found cs tail heq set more hn hlt ih => exact Nat.lt_trans (ih h) hlt
  | case4 found cs tail heq =>
    cases h
    exact length_lt_of_skip heq
  | case9 found cs c tail _ _ _ _ _ heq set more hr hlt ih => exact Nat.lt_trans (ih h) hlt
  | _ => cases h

/-- The items of a class whose leading dashes have been read. -/
def classBody (flags : Flags) (dashes : List Char) (cs : List Char) :
    Except PatternError (List CharSet × List Char) :=
  if dashes.isEmpty then
    match cs with
    | ']' :: rest =>
      match skip flags rest with
      | [] => .error .unclosedClassAfterBracket
      | c :: rest => classItems flags [.single ']'] (c :: rest)
    | cs => classItems flags [] cs
  else if cs.isEmpty then .error .unclosedClassAfterDash
  else classItems flags [.single '-'] cs

/-- Whether a class is a complement, and what follows the sign. -/
def classSign (flags : Flags) (cs : List Char) : Except PatternError (Bool × List Char) :=
  match skip flags cs with
  | [] => .error .unclosedClass
  | '^' :: rest =>
    match skip flags rest with
    | [] => .error .unclosedNegatedClass
    | c :: rest => .ok (true, c :: rest)
  | c :: rest => .ok (false, c :: rest)

/-- A character class, after its opening bracket. -/
def characterClass (flags : Flags) (cs : List Char) : Except PatternError (CharSet × List Char) := do
  let (negated, rest) ← classSign flags cs
  let (dashes, rest) := collect flags (· == '-') false rest
  let (sets, rest) ← classBody flags dashes rest
  return (((CharSet.union sets).foldedIf flags.ignoreCase).negatedIf negated, rest)

theorem classBody_length {flags : Flags} {dashes cs rest : List Char} {sets : List CharSet}
    (h : classBody flags dashes cs = .ok (sets, rest)) : rest.length < cs.length := by
  unfold classBody at h
  split at h
  · split at h
    · next tail =>
      split at h
      · cases h
      · next c more hs =>
        exact Nat.lt_succ_of_lt (Nat.lt_of_lt_of_le (classItems_length h) (length_lt_of_skip hs))
    · exact classItems_length h
  · split at h
    · cases h
    · exact classItems_length h

theorem classSign_length {flags : Flags} {cs rest : List Char} {negated : Bool}
    (h : classSign flags cs = .ok (negated, rest)) : rest.length ≤ cs.length := by
  unfold classSign at h
  split at h
  · cases h
  · next tail hs =>
    split at h
    · cases h
    · next c more hs' =>
      cases h
      exact Nat.le_of_lt (Nat.lt_of_le_of_lt (length_lt_of_skip hs') (length_lt_of_skip hs))
  · next c tail _ hs =>
    cases h
    exact length_lt_of_skip hs

theorem characterClass_length {flags : Flags} {cs rest : List Char} {set : CharSet}
    (h : characterClass flags cs = .ok (set, rest)) : rest.length < cs.length := by
  obtain ⟨⟨negated, tail⟩, hs, h⟩ := bind_eq_ok h
  obtain ⟨⟨sets, more⟩, hb, h⟩ := bind_eq_ok h
  cases h
  exact Nat.lt_of_lt_of_le (classBody_length hb)
    (Nat.le_trans (collect_length flags (· == '-') false tail) (classSign_length hs))

end Pattern

end SchemaConstraints
