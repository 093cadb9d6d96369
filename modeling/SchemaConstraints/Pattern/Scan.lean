import SchemaConstraints.Pattern.Error
import SchemaConstraints.Pattern.Syntax
import SchemaConstraints.Text.Letter

set_option autoImplicit false

/-! # The parts of pattern text

Each function here reads one part of a pattern from the front of a list of characters and gives what it
stands for together with the characters that follow; the lemmas beside them say that what follows is no
longer, or shorter, than what was there. Under the flag `x`, blanks and comments between the characters of
a part are skipped. -/

namespace SchemaConstraints

namespace Pattern

/-- The flags that decide how pattern text is read. -/
structure Flags where
  /-- `i`: ASCII letters stand for both cases. -/
  ignoreCase : Bool := false
  /-- `m`: `^` and `$` hold at the ends of lines too. -/
  multiLine : Bool := false
  /-- `s`: a dot stands for line ends too. -/
  dotAll : Bool := false
  /-- `R`: a carriage return ends a line too. -/
  anyLineEnd : Bool := false
  /-- `x`: blanks and comments are skipped. -/
  extended : Bool := false
  deriving DecidableEq, Repr

/-! ## Blanks and comments -/

/-- Drop blanks and comments. -/
def dropComments (inComment : Bool) : List Char → List Char
  | [] => []
  | c :: rest =>
    if inComment then dropComments (c != '\n') rest
    else if Text.isBlank c then dropComments false rest
    else if c = '#' then dropComments true rest
    else c :: rest

/-- Skip to the next character that counts. -/
def skip (flags : Flags) (cs : List Char) : List Char :=
  if flags.extended then dropComments false cs else cs

/-- The characters of a kind at the front, and what follows them. -/
def collect (flags : Flags) (keep : Char → Bool) (inComment : Bool) : List Char → List Char × List Char
  | [] => ([], [])
  | c :: rest =>
    if inComment then collect flags keep (c != '\n') rest
    else if flags.extended && Text.isBlank c then collect flags keep false rest
    else if flags.extended && c = '#' then collect flags keep true rest
    else if keep c then (c :: (collect flags keep false rest).1, (collect flags keep false rest).2)
    else ([], c :: rest)

/-- The character after a dash that decides whether the dash is one end of a range. A comment sign is looked
    over, but not the comment. -/
def peekAfterDash (flags : Flags) (cs : List Char) : Option Char :=
  if flags.extended then
    match cs.dropWhile Text.isBlank with
    | '#' :: rest => (rest.dropWhile Text.isBlank).head?
    | rest => rest.head?
  else cs.head?

theorem dropComments_length (inComment : Bool) (cs : List Char) :
    (dropComments inComment cs).length ≤ cs.length := by
  induction cs generalizing inComment with
  | nil => exact Nat.le_refl _
  | cons c rest ih =>
    unfold dropComments
    split
    · exact Nat.le_succ_of_le (ih _)
    · split
      · exact Nat.le_succ_of_le (ih _)
      · split
        · exact Nat.le_succ_of_le (ih _)
        · exact Nat.le_refl _

theorem skip_length (flags : Flags) (cs : List Char) : (skip flags cs).length ≤ cs.length := by
  unfold skip
  split
  · exact dropComments_length false cs
  · exact Nat.le_refl _

/-- A character that is left after skipping has been there before. -/
theorem length_lt_of_skip {flags : Flags} {cs rest : List Char} {c : Char}
    (h : skip flags cs = c :: rest) : rest.length < cs.length := by
  have := skip_length flags cs
  rwa [h] at this

theorem collect_length (flags : Flags) (keep : Char → Bool) (inComment : Bool) (cs : List Char) :
    (collect flags keep inComment cs).2.length ≤ cs.length := by
  induction cs generalizing inComment with
  | nil => exact Nat.le_refl _
  | cons c rest ih =>
    unfold collect
    split
    · exact Nat.le_succ_of_le (ih _)
    · split
      · exact Nat.le_succ_of_le (ih _)
      · split
        · exact Nat.le_succ_of_le (ih _)
        · split
          · exact Nat.le_succ_of_le (ih _)
          · exact Nat.le_refl _

/-- A reader that goes on after another one succeeds only if the other one does. -/
theorem bind_eq_ok {α β : Type} {first : Except PatternError α} {next : α → Except PatternError β} {b : β}
    (h : first >>= next = .ok b) : ∃ a, first = .ok a ∧ next a = .ok b := by
  cases first with
  | error e => cases h
  | ok a => exact ⟨a, rfl, h⟩

/-! ## Numbers -/

/-- The value of a hexadecimal digit. -/
def hexDigit? (c : Char) : Option Nat :=
  if '0' ≤ c ∧ c ≤ '9' then some (c.toNat - '0'.toNat)
  else if 'a' ≤ c ∧ c ≤ 'f' then some (c.toNat - 'a'.toNat + 10)
  else if 'A' ≤ c ∧ c ≤ 'F' then some (c.toNat - 'A'.toNat + 10)
  else none

/-- The number that digits spell in a base. -/
def numberOf (base : Nat) (digits : List Char) : Nat :=
  digits.foldl (fun n c => base * n + (hexDigit? c).getD 0) 0

/-- The character with a code point, or an error if there is none. -/
def charOf (missing : PatternError) (n : Nat) : Except PatternError Char :=
  if n.isValidChar then .ok (Char.ofNat n) else .error missing

/-- The limit of the numbers in braces. -/
def decimalLimit : Nat := UInt32.size

/-- A decimal number, which blanks may surround. -/
def decimal (flags : Flags) (cs : List Char) : Except PatternError (Nat × List Char) :=
  let (digits, rest) := collect flags Char.isDigit false (cs.dropWhile Text.isBlank)
  if digits.isEmpty then .error .missingDecimal
  else if numberOf 10 digits < decimalLimit then
    .ok (numberOf 10 digits, rest.dropWhile Text.isBlank)
  else .error .invalidDecimal

/-- A number of `count` hexadecimal digits. -/
def fixedHex (flags : Flags) (value : Nat) : Nat → List Char → Except PatternError (Nat × List Char)
  | 0, cs => .ok (value, cs)
  | _ + 1, [] => .error .shortHex
  | count + 1, c :: rest =>
    match hexDigit? c with
    | none => .error .invalidHexDigit
    | some digit => fixedHex flags (16 * value + digit) count (skip flags rest)

/-- A character given by its code point, after the letter that announces it. -/
def hexChar (flags : Flags) (count : Nat) (cs : List Char) : Except PatternError (Char × List Char) :=
  match skip flags cs with
  | [] => .error .missingHex
  | '{' :: rest =>
    match collect flags (fun c => (hexDigit? c).isSome) false rest with
    | (_, []) => .error .unclosedHexBraces
    | (digits, '}' :: rest) =>
      if digits.isEmpty then .error .emptyHexBraces
      else do
        let c ← charOf .invalidHexBraces (numberOf 16 digits)
        return (c, skip flags rest)
    | _ => .error .invalidHexBracesDigit
  | first :: rest => do
    let (n, rest) ← fixedHex flags 0 count (first :: rest)
    let c ← charOf .invalidHex n
    return (c, rest)

theorem dropWhile_length (p : Char → Bool) (cs : List Char) : (cs.dropWhile p).length ≤ cs.length :=
  (List.dropWhile_suffix _).length_le

theorem decimal_length {flags : Flags} {cs rest : List Char} {n : Nat}
    (h : decimal flags cs = .ok (n, rest)) : rest.length ≤ cs.length := by
  unfold decimal at h
  dsimp only at h
  split at h
  · cases h
  · split at h
    · cases h
      exact Nat.le_trans (dropWhile_length _ _)
        (Nat.le_trans (collect_length _ _ _ _) (dropWhile_length _ _))
    · cases h

theorem fixedHex_length {flags : Flags} {value count n : Nat} {cs rest : List Char}
    (h : fixedHex flags value count cs = .ok (n, rest)) : rest.length ≤ cs.length := by
  induction count generalizing value cs with
  | zero =>
    cases h
    exact Nat.le_refl _
  | succ count ih =>
    cases cs with
    | nil => cases h
    | cons c tail =>
      unfold fixedHex at h
      split at h
      · cases h
      · exact Nat.le_succ_of_le (Nat.le_trans (ih h) (skip_length flags tail))

theorem hexChar_length {flags : Flags} {count : Nat} {cs rest : List Char} {c : Char}
    (h : hexChar flags count cs = .ok (c, rest)) : rest.length ≤ cs.length := by
  unfold hexChar at h
  split at h
  · cases h
  · next tail hs =>
    have hc := collect_length flags (fun c => (hexDigit? c).isSome) false tail
    split at h
    · cases h
    · next digits more hm =>
      rw [hm] at hc
      split at h
      · cases h
      · obtain ⟨_, _, h⟩ := bind_eq_ok h
        cases h
        exact Nat.le_trans (skip_length flags more)
          (Nat.le_of_lt (Nat.lt_trans (Nat.lt_of_succ_le hc) (length_lt_of_skip hs)))
    · cases h
  · next first tail _ hs =>
    obtain ⟨⟨n, more⟩, hm, h⟩ := bind_eq_ok h
    obtain ⟨_, _, h⟩ := bind_eq_ok h
    cases h
    exact Nat.le_trans (fixedHex_length hm) (length_lt_of_skip hs)

/-! ## Escapes -/

/-- How many hexadecimal digits a letter after a backslash announces. -/
def hexCount? : Char → Option Nat
  | 'x' => some 2
  | 'u' => some 4
  | 'U' => some 8
  | _ => none

/-- The control character that a letter after a backslash stands for. -/
def control? : Char → Option Char
  | 'a' => some '\x07'
  | 'f' => some '\x0c'
  | 't' => some '\t'
  | 'n' => some '\n'
  | 'r' => some '\r'
  | 'v' => some '\x0b'
  | _ => none

/-- The assertion that a single character after a backslash stands for. -/
def assertion? : Char → Option Assertion
  | 'A' => some .textStart
  | 'z' => some .textEnd
  | 'B' => some .noWordBoundary
  | '<' => some .wordStart
  | '>' => some .wordEnd
  | _ => none

/-- Whether a character may stand after a backslash for itself. -/
def isEscapable (c : Char) : Bool := decide (c.toNat < 128) && !c.isAlphanum

/-- What a single character after a backslash stands for. -/
def singleEscape? (flags : Flags) (c : Char) : Option Node :=
  match assertion? c, CharSet.ofEscape? c, control? c with
  | some condition, _, _ => some (.assertion condition)
  | none, some chars, _ => some (.set chars)
  | none, none, some c => some (.ofChar flags.ignoreCase c)
  | none, none, none => if isEscapable c then some (.ofChar flags.ignoreCase c) else none

/-- The characters that names of word boundaries are made of. -/
def isBoundaryChar (c : Char) : Bool := c.isAlpha || c = '-'

/-- The word boundary that a name in braces stands for. -/
def boundaryOf? : String → Option Assertion
  | "start" => some .wordStart
  | "end" => some .wordEnd
  | "start-half" => some .wordStartHalf
  | "end-half" => some .wordEndHalf
  | _ => none

/-- The word boundary after `\b`: a name in braces, or the plain one. A brace that holds no name begins a
    repetition and is left alone. -/
def boundary (flags : Flags) (cs : List Char) : Except PatternError (Assertion × List Char) :=
  match cs with
  | '{' :: rest =>
    match skip flags rest with
    | [] => .error .unfinishedWordBoundary
    | first :: _ =>
      if isBoundaryChar first then
        match collect flags isBoundaryChar false rest with
        | (name, '}' :: rest) =>
          match boundaryOf? (String.ofList name) with
          | some condition => .ok (condition, rest)
          | none => .error .unknownWordBoundary
        | _ => .error .unclosedWordBoundary
      else .ok (.wordBoundary, cs)
  | cs => .ok (.wordBoundary, cs)

/-- What stands after a backslash. -/
def escape (flags : Flags) : List Char → Except PatternError (Node × List Char)
  | [] => .error .unfinishedEscape
  | c :: rest =>
    if c.isDigit then .error .backreference
    else if c = 'p' || c = 'P' then .error .unicodeClass
    else if c = 'b' then do
      let (condition, rest) ← boundary flags rest
      return (.assertion condition, rest)
    else
      match hexCount? c with
      | some count => do
        let (c, rest) ← hexChar flags count rest
        return (.ofChar flags.ignoreCase c, rest)
      | none =>
        match singleEscape? flags c with
        | some node => .ok (node, rest)
        | none => .error .unknownEscape

theorem boundary_length {flags : Flags} {cs rest : List Char} {condition : Assertion}
    (h : boundary flags cs = .ok (condition, rest)) : rest.length ≤ cs.length := by
  unfold boundary at h
  split at h
  · next tail =>
    have hc := collect_length flags isBoundaryChar false tail
    split at h
    · cases h
    · split at h
      · split at h
        · next name more hm =>
          rw [hm] at hc
          split at h
          · cases h
            exact Nat.le_of_lt (Nat.lt_succ_of_lt hc)
          · cases h
        · cases h
      · cases h
        exact Nat.le_refl _
  · cases h
    exact Nat.le_refl _

theorem escape_length {flags : Flags} {cs rest : List Char} {node : Node}
    (h : escape flags cs = .ok (node, rest)) : rest.length < cs.length := by
  unfold escape at h
  split at h
  · cases h
  · split at h
    · cases h
    · split at h
      · cases h
      · split at h
        · obtain ⟨⟨condition, more⟩, hb, h⟩ := bind_eq_ok h
          cases h
          exact Nat.lt_succ_of_le (boundary_length hb)
        · split at h
          · obtain ⟨⟨d, more⟩, hx, h⟩ := bind_eq_ok h
            cases h
            exact Nat.lt_succ_of_le (hexChar_length hx)
          · split at h
            · cases h
              exact Nat.lt_succ_self _
            · cases h

end Pattern

end SchemaConstraints
