import SchemaConstraints.Decimal.Text
import SchemaConstraints.Json.Basic

set_option autoImplicit false

/-! # Reading JSON text

Text is cut into tokens, and the tokens are folded into a value with a stack of the containers that are
still open. A number literal without point and exponent is an integer if it lies between `-2 ^ 63` and
`2 ^ 64 - 1`, and any other one is the nearest floating-point number; `-0`, which no integer spells, is
floating-point too. An object keeps the last of several members of one name. -/

namespace SchemaConstraints

namespace Json

/-- A piece of JSON text: a punctuation mark or a value that is no container. -/
inductive Token where
  | openObject
  | closeObject
  | openArray
  | closeArray
  | comma
  | colon
  | value (json : Json)

namespace Token

/-! ## Strings -/

/-- A unit of a string literal: a character, or a 16-bit unit that was spelled in hexadecimal. -/
inductive Unit16 where
  | char (c : Char)
  | unit (n : Nat)

/-- The value of a hexadecimal digit. -/
def hexValue? (c : Char) : Option Nat :=
  if '0' ≤ c ∧ c ≤ '9' then some (c.toNat - '0'.toNat)
  else if 'a' ≤ c ∧ c ≤ 'f' then some (c.toNat - 'a'.toNat + 10)
  else if 'A' ≤ c ∧ c ≤ 'F' then some (c.toNat - 'A'.toNat + 10)
  else none

/-- The number that hexadecimal digits spell. -/
def hexNumber? (digits : List Char) : Option Nat :=
  digits.foldlM (fun n c => (hexValue? c).map (16 * n + ·)) 0

/-- The character that a letter after a backslash stands for. -/
def escaped? : Char → Option Char
  | '"' => some '"'
  | '\\' => some '\\'
  | '/' => some '/'
  | 'b' => some '\x08'
  | 'f' => some '\x0c'
  | 'n' => some '\n'
  | 'r' => some '\r'
  | 't' => some '\t'
  | _ => none

/-- The units of a string literal after its opening quote, and what follows its closing quote. -/
def stringUnits : List Char → Option (List Unit16 × List Char)
  | [] => none
  | '"' :: rest => some ([], rest)
  | '\\' :: 'u' :: a :: b :: c :: d :: rest => do
    let n ← hexNumber? [a, b, c, d]
    let (units, rest) ← stringUnits rest
    return (.unit n :: units, rest)
  | '\\' :: c :: rest => do
    let c ← escaped? c
    let (units, rest) ← stringUnits rest
    return (.char c :: units, rest)
  | c :: rest =>
    if c < ' ' then none
    else do
      let (units, rest) ← stringUnits rest
      return (.char c :: units, rest)

/-- Join pairs of surrogates; a surrogate without partner is an error. -/
def joinUnits : List Unit16 → Option (List Char)
  | [] => some []
  | .char c :: rest => (joinUnits rest).map (c :: ·)
  | .unit n :: rest =>
    if n < 0xD800 ∨ 0xDFFF < n then (joinUnits rest).map (Char.ofNat n :: ·)
    else
      match rest with
      | .unit m :: rest =>
        if n < 0xDC00 ∧ 0xDC00 ≤ m ∧ m ≤ 0xDFFF then
          (joinUnits rest).map (Char.ofNat (0x10000 + (n - 0xD800) * 0x400 + (m - 0xDC00)) :: ·)
        else none
      | _ => none

/-! ## Numbers -/

/-- The characters that number literals are made of. -/
def isNumberChar (c : Char) : Bool :=
  c.isDigit || c = '-' || c = '+' || c = '.' || c = 'e' || c = 'E'

/-- The whole part of a number literal is one digit, or several of which the first is not zero. -/
def wholePartOk : List Char → Bool
  | [] => false
  | [_] => true
  | first :: _ => first != '0'

/-- The value of a number literal. -/
def number? (chars : List Char) : Option Json :=
  let (negative, unsigned) :=
    match chars with
    | '-' :: rest => (true, rest)
    | rest => (false, rest)
  let (whole, rest) := unsigned.span Char.isDigit
  if !wholePartOk whole then none
  else if rest.isEmpty then
    let n : Int := Binary64.digitsValue whole
    let n := if negative then -n else n
    if negative && n == 0 then some (.float (Binary64.zero.neg))
    else if Int64.minValue.toInt ≤ n ∧ n < UInt64.size then some (.integer n)
    else some (.float (.ofInt n))
  else
    let placesOk :=
      match rest with
      | '.' :: next :: _ => next.isDigit
      | '.' :: [] => false
      | _ => true
    if placesOk then
      (Binary64.readDecimal? unsigned).map fun d => .float (.ofDecimal negative d.digits d.exponent)
    else none

/-! ## Tokens -/

/-- The token that begins with the character `first`, and what follows it. -/
def next? (first : Char) (rest : List Char) : Option (Token × List Char) :=
  match first, rest with
  | '{', rest => some (.openObject, rest)
  | '}', rest => some (.closeObject, rest)
  | '[', rest => some (.openArray, rest)
  | ']', rest => some (.closeArray, rest)
  | ',', rest => some (.comma, rest)
  | ':', rest => some (.colon, rest)
  | 'n', 'u' :: 'l' :: 'l' :: rest => some (.value .null, rest)
  | 't', 'r' :: 'u' :: 'e' :: rest => some (.value (.bool true), rest)
  | 'f', 'a' :: 'l' :: 's' :: 'e' :: rest => some (.value (.bool false), rest)
  | '"', rest => do
    let (units, rest) ← stringUnits rest
    let chars ← joinUnits units
    return (.value (.string (String.ofList chars)), rest)
  | c, rest => do
    let json ← number? (c :: rest.takeWhile isNumberChar)
    return (.value json, rest.dropWhile isNumberChar)

theorem stringUnits_length {cs rest : List Char} {units : List Unit16}
    (h : stringUnits cs = some (units, rest)) : rest.length < cs.length := by
  fun_induction stringUnits cs generalizing units rest with
  | case1 => simp at h
  | case2 => simp_all
  | case3 a b c d tail ih =>
    simp only [Option.pure_def, Option.bind_eq_bind, Option.bind_eq_some_iff, Option.some.injEq,
      Prod.mk.injEq, Prod.exists] at h
    obtain ⟨_, _, _, _, h, _, rfl⟩ := h
    have := ih h
    simp only [List.length_cons]
    omega
  | case4 c tail _ ih =>
    simp only [Option.pure_def, Option.bind_eq_bind, Option.bind_eq_some_iff, Option.some.injEq,
      Prod.mk.injEq, Prod.exists] at h
    obtain ⟨_, _, _, _, h, _, rfl⟩ := h
    have := ih h
    simp only [List.length_cons]
    omega
  | case5 => simp at h
  | case6 c tail _ _ _ _ ih =>
    simp only [Option.pure_def, Option.bind_eq_bind, Option.bind_eq_some_iff, Option.some.injEq,
      Prod.mk.injEq, Prod.exists] at h
    obtain ⟨_, _, h, _, rfl⟩ := h
    have := ih h
    simp only [List.length_cons]
    omega

theorem next?_length {first : Char} {rest tail : List Char} {token : Token}
    (h : next? first rest = some (token, tail)) : tail.length ≤ rest.length := by
  unfold next? at h
  split at h
  case h_1 | h_2 | h_3 | h_4 | h_5 | h_6 =>
    cases h
    exact Nat.le_refl _
  case h_7 | h_8 =>
    cases h
    exact Nat.le_add_right _ 3
  case h_9 =>
    cases h
    exact Nat.le_add_right _ 4
  case h_10 =>
    simp only [Option.pure_def, Option.bind_eq_bind, Option.bind_eq_some_iff, Option.some.injEq,
      Prod.mk.injEq, Prod.exists] at h
    obtain ⟨_, _, h, _, _, _, rfl⟩ := h
    exact Nat.le_of_lt (stringUnits_length h)
  case h_11 =>
    simp only [Option.pure_def, Option.bind_eq_bind, Option.bind_eq_some_iff, Option.some.injEq,
      Prod.mk.injEq] at h
    obtain ⟨_, _, _, rfl⟩ := h
    exact (List.dropWhile_suffix _).length_le

/-- The blanks between tokens. -/
def isBlank (c : Char) : Bool := c = ' ' || c = '\t' || c = '\n' || c = '\r'

/-- The tokens of a text. -/
def scan (cs : List Char) : Option (List Token) :=
  match cs with
  | [] => some []
  | c :: rest =>
    if isBlank c then scan rest
    else
      match h : next? c rest with
      | none => none
      | some (token, tail) =>
        have := next?_length h
        (scan tail).map (token :: ·)
  termination_by cs.length

end Token

/-! ## From tokens to a value -/

/-- A container that is still open, with what it holds so far, last first. -/
inductive Frame where
  | array (items : List Json)
  | object (members : List (String × Json)) (name : String)

/-- What has been read and what may come next. -/
inductive Reading where
  /-- A value comes next or, directly after an opening bracket, the closing one. -/
  | value (closable : Bool) (frames : List Frame)
  /-- A member's name comes next or, directly after an opening brace, the closing one. -/
  | key (closable : Bool) (members : List (String × Json)) (frames : List Frame)
  | colon (members : List (String × Json)) (name : String) (frames : List Frame)
  | afterItem (items : List Json) (frames : List Frame)
  | afterMember (members : List (String × Json)) (frames : List Frame)
  | done (json : Json)

namespace Reading

/-- Give a finished value to the container it stands in. -/
def finish (json : Json) : List Frame → Reading
  | [] => .done json
  | .array items :: frames => .afterItem (json :: items) frames
  | .object members name :: frames => .afterMember ((name, json) :: members) frames

/-- Read one token. -/
def step : Reading → Token → Option Reading
  | .value _ frames, .value json => some (finish json frames)
  | .value _ frames, .openArray => some (.value true (.array [] :: frames))
  | .value _ frames, .openObject => some (.key true [] frames)
  | .value true (.array [] :: frames), .closeArray => some (finish (.array []) frames)
  | .key _ members frames, .value (.string name) => some (.colon members name frames)
  | .key true members frames, .closeObject => some (finish (.ofMembers members.reverse) frames)
  | .colon members name frames, .colon => some (.value false (.object members name :: frames))
  | .afterItem items frames, .comma => some (.value false (.array items :: frames))
  | .afterItem items frames, .closeArray => some (finish (.array items.reverse) frames)
  | .afterMember members frames, .comma => some (.key false members frames)
  | .afterMember members frames, .closeObject => some (finish (.ofMembers members.reverse) frames)
  | _, _ => none

end Reading

/-- The value that a text spells; none if it is not JSON. -/
def parse? (text : String) : Option Json := do
  let tokens ← Token.scan text.toList
  let state ← tokens.foldlM Reading.step (.value false [])
  match state with
  | .done json => some json
  | _ => none

end Json

end SchemaConstraints
