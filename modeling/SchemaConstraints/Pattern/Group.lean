import SchemaConstraints.Pattern.Scan

set_option autoImplicit false

/-! # Openings of groups

What may stand between an opening parenthesis and the contents of a group: nothing, a name, or flags.
Flags without contents are a directive, which holds until the surrounding group ends. -/

namespace SchemaConstraints

namespace Pattern

/-- How a group begins. -/
inductive GroupStart where
  /-- A capturing group, with its name if it has one. -/
  | capture (name : Option String)
  /-- A group that only holds its contents together, under these flags. -/
  | plain (flags : Flags)
  /-- No group, but flags for what follows. -/
  | directive (flags : Flags)

/-- Set or clear the flag that has a letter. Two letters, of greed and of Unicode, change nothing. -/
def Flags.set? (flags : Flags) (enabled : Bool) : Char → Option Flags
  | 'i' => some { flags with ignoreCase := enabled }
  | 'm' => some { flags with multiLine := enabled }
  | 's' => some { flags with dotAll := enabled }
  | 'R' => some { flags with anyLineEnd := enabled }
  | 'x' => some { flags with extended := enabled }
  | 'U' | 'u' => some flags
  | _ => none

/-- Flags up to the colon or parenthesis that ends them. `negated` tells that a dash has been read,
    `dangling` that nothing has been read since, and `seen` holds the letters so far. -/
def flagsEnd (flags : Flags) (negated dangling : Bool) (seen : List Char) :
    List Char → Except PatternError (GroupStart × List Char)
  | [] => .error .unclosedFlags
  | c :: rest =>
    if c = ':' then if dangling then .error .danglingNegation else .ok (.plain flags, rest)
    else if c = ')' then if dangling then .error .danglingNegation else .ok (.directive flags, rest)
    else if c = '-' then
      if negated then .error .repeatedNegation else flagsEnd flags true true seen rest
    else
      match flags.set? (!negated) c with
      | none => .error .unknownFlag
      | some changed =>
        if seen.contains c then .error .duplicateFlag
        else flagsEnd changed negated false (c :: seen) rest

/-- Whether a character may stand in the name of a group. -/
def isNameChar (first : Bool) (c : Char) : Bool :=
  c = '_' || Text.isLetter c ||
    (!first && (c = '.' || c = '[' || c = ']' || Text.isNumeral c))

/-- The characters of a name up to the angle bracket that ends it. -/
def nameChars (first : Bool) : List Char → Except PatternError (List Char × List Char)
  | [] => .error (if first then .missingGroupName else .unclosedGroupName)
  | c :: rest =>
    if c = '>' then .ok ([], rest)
    else if isNameChar first c then do
      let (name, tail) ← nameChars false rest
      return (c :: name, tail)
    else .error .invalidGroupName

/-- A name that is none of those already given. -/
def groupName (names : List String) (cs : List Char) : Except PatternError (GroupStart × List Char) := do
  let (name, rest) ← nameChars true cs
  if name.isEmpty then .error .emptyGroupName
  else if names.contains (String.ofList name) then .error .duplicateGroupName
  else .ok (.capture (some (String.ofList name)), rest)

/-- The opening of a group, after its parenthesis. -/
def groupStart (flags : Flags) (names : List String) (cs : List Char) :
    Except PatternError (GroupStart × List Char) :=
  match skip flags cs with
  | '?' :: '=' :: _ => .error .lookAround
  | '?' :: '!' :: _ => .error .lookAround
  | '?' :: '<' :: '=' :: _ => .error .lookAround
  | '?' :: '<' :: '!' :: _ => .error .lookAround
  | '?' :: 'P' :: '<' :: rest => groupName names rest
  | '?' :: '<' :: rest => groupName names rest
  | '?' :: [] => .error .endAfterQuestionMark
  | '?' :: ')' :: _ => .error .emptyFlags
  | '?' :: c :: rest => flagsEnd flags false false [] (c :: rest)
  | rest => .ok (.capture none, rest)

theorem flagsEnd_length {flags : Flags} {negated dangling : Bool} {seen cs rest : List Char}
    {start : GroupStart} (h : flagsEnd flags negated dangling seen cs = .ok (start, rest)) :
    rest.length < cs.length := by
  induction cs generalizing flags negated dangling seen with
  | nil => cases h
  | cons c tail ih =>
    unfold flagsEnd at h
    split at h
    · split at h
      · cases h
      · cases h
        exact Nat.lt_succ_self _
    · split at h
      · split at h
        · cases h
        · cases h
          exact Nat.lt_succ_self _
      · split at h
        · split at h
          · cases h
          · exact Nat.lt_succ_of_lt (ih h)
        · split at h
          · cases h
          · split at h
            · cases h
            · exact Nat.lt_succ_of_lt (ih h)

theorem nameChars_length {first : Bool} {cs name rest : List Char}
    (h : nameChars first cs = .ok (name, rest)) : rest.length < cs.length := by
  induction cs generalizing first name with
  | nil => cases h
  | cons c tail ih =>
    unfold nameChars at h
    split at h
    · cases h
      exact Nat.lt_succ_self _
    · split at h
      · obtain ⟨⟨inner, more⟩, hn, h⟩ := bind_eq_ok h
        cases h
        exact Nat.lt_succ_of_lt (ih hn)
      · cases h

theorem groupName_length {names : List String} {cs rest : List Char} {start : GroupStart}
    (h : groupName names cs = .ok (start, rest)) : rest.length < cs.length := by
  obtain ⟨⟨name, more⟩, hn, h⟩ := bind_eq_ok h
  dsimp only at h
  split at h
  · cases h
  · split at h
    · cases h
    · cases h
      exact nameChars_length hn

theorem groupStart_length {flags : Flags} {names : List String} {cs rest : List Char}
    {start : GroupStart} (h : groupStart flags names cs = .ok (start, rest)) :
    rest.length ≤ cs.length := by
  have hs := skip_length flags cs
  unfold groupStart at h
  split at h
  · cases h
  · cases h
  · cases h
  · cases h
  · next more heq =>
    rw [heq] at hs
    exact Nat.le_trans (Nat.le_of_lt (groupName_length h)) (Nat.le_trans (Nat.le_add_right _ 3) hs)
  · next more _ _ heq =>
    rw [heq] at hs
    exact Nat.le_trans (Nat.le_of_lt (groupName_length h)) (Nat.le_trans (Nat.le_add_right _ 2) hs)
  · cases h
  · cases h
  · next c more _ _ _ _ _ _ _ heq =>
    rw [heq] at hs
    exact Nat.le_trans (Nat.le_of_lt (flagsEnd_length h)) (Nat.le_of_lt hs)
  · cases h
    exact hs

end Pattern

end SchemaConstraints
