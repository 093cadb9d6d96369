import SchemaConstraints.Json.Printer
import SchemaConstraints.Proofs.Fields
import SchemaConstraints.Proofs.Number.Literal

set_option autoImplicit false

/-! # JSON text read back

Text is cut into tokens where it was put together, as long as nothing that follows continues a number (`ScansAs`),
and the tokens of a value are folded into this value wherever it stands (`ReadsBack`). So a value that a text can
spell is read back from its own text (`parse?_compact`). -/

namespace SchemaConstraints

namespace Json

namespace Token

/-! ## Strings -/

theorem hexNumber?_control {n : Nat} (h : n < 32) :
    hexNumber? ['0', '0', hexDigit (n / 16), hexDigit (n % 16)] = some n := by
  have hall : ∀ n < 32, hexNumber? ['0', '0', hexDigit (n / 16), hexDigit (n % 16)] = some n := by decide
  exact hall n h

theorem joinUnits_control {n : Nat} (h : n < 32) (units : List Unit16) :
    joinUnits (.unit n :: units) = (joinUnits units).map (Char.ofNat n :: ·) := by
  have hsurrogate : n < 0xD800 := by omega
  rw [joinUnits.eq_def]
  exact if_pos (.inl hsurrogate)

theorem stringUnits_escape {letter c : Char} (hletter : letter ≠ 'u') (h : escaped? letter = some c)
    (rest : List Char) :
    stringUnits ('\\' :: letter :: rest) = (stringUnits rest).map fun read => (.char c :: read.1, read.2) := by
  rw [stringUnits.eq_4 letter rest fun _ _ _ _ _ hu => (hletter hu).elim, h]
  cases stringUnits rest <;> rfl

/-- A character inside a string literal is read as one unit that stands for it. -/
theorem exists_unit (c : Char) : ∃ unit,
    (∀ rest, stringUnits (escapeChar c ++ rest) = (stringUnits rest).map fun read => (unit :: read.1, read.2)) ∧
    ∀ units, joinUnits (unit :: units) = (joinUnits units).map (c :: ·) := by
  unfold escapeChar
  split
  case h_8 hquote hbackslash _ _ _ _ _ =>
    by_cases hcontrol : c < ' '
    · have hlt : c.toNat < 32 := hcontrol
      refine ⟨.unit c.toNat, fun rest => ?_, fun units => ?_⟩
      · rw [if_pos hcontrol]
        simp only [List.cons_append, List.nil_append, stringUnits, hexNumber?_control hlt]
        cases stringUnits rest <;> rfl
      · rw [joinUnits_control hlt, Char.ofNat_toNat]
    · refine ⟨.char c, fun rest => ?_, fun units => rfl⟩
      rw [if_neg hcontrol, List.singleton_append, stringUnits.eq_5 c rest hquote (fun _ _ _ _ _ h => (hbackslash h).elim)
        fun _ _ h => (hbackslash h).elim, if_neg hcontrol]
      cases stringUnits rest <;> rfl
  all_goals exact ⟨.char _, stringUnits_escape (by decide) rfl, fun _ => rfl⟩

/-- The text of a string is read up to its closing quote. -/
theorem exists_stringUnits (chars rest : List Char) :
    ∃ units, stringUnits (chars.flatMap escapeChar ++ '"' :: rest) = some (units, rest) ∧
      joinUnits units = some chars := by
  induction chars with
  | nil => exact ⟨[], rfl, rfl⟩
  | cons c chars ih =>
    obtain ⟨units, hunits, hjoin⟩ := ih
    obtain ⟨unit, hunit, hc⟩ := exists_unit c
    refine ⟨unit :: units, ?_, ?_⟩
    · rw [List.flatMap_cons, List.append_assoc, hunit, hunits, Option.map_some]
    · rw [hc, hjoin, Option.map_some]

/-! ## Numbers -/

theorem isNumberChar_of_isDigit {c : Char} (h : c.isDigit = true) : isNumberChar c = true := by simp [isNumberChar, h]

theorem isNumberChar_of_mem_exponentChars {exponent : Option Int} :
    ∀ c ∈ Literal.exponentChars exponent, isNumberChar c = true := by
  cases exponent with
  | none => simp [Literal.exponentChars]
  | some e =>
    have hdigits : ∀ c ∈ Decimal.digitChars e.natAbs, isNumberChar c = true :=
      fun c hc => isNumberChar_of_isDigit (Decimal.allDigits_digitChars _ c hc)
    have hsign : isNumberChar (if e < 0 then '-' else '+') = true := by
      split <;> rfl
    exact List.forall_mem_cons.2 ⟨rfl, List.forall_mem_cons.2 ⟨hsign, hdigits⟩⟩

/-- A literal is made of the characters of numbers. -/
theorem isNumberChar_of_mem_chars {literal : Literal} (h : literal.WellFormed) (negative : Bool) :
    ∀ c ∈ signed negative literal.chars, isNumberChar c = true := by
  have hwhole : ∀ c ∈ literal.whole, isNumberChar c = true := fun c hc => isNumberChar_of_isDigit (h.whole c hc)
  have hplaces : ∀ c ∈ literal.places, isNumberChar c = true := fun c hc => isNumberChar_of_isDigit (h.places c hc)
  have htail : ∀ c ∈ literal.tail, isNumberChar c = true := by
    unfold Literal.tail
    split
    · exact isNumberChar_of_mem_exponentChars
    · exact List.forall_mem_cons.2 ⟨rfl, List.forall_mem_append.2 ⟨hplaces, isNumberChar_of_mem_exponentChars⟩⟩
  have hchars : ∀ c ∈ literal.chars, isNumberChar c = true := List.forall_mem_append.2 ⟨hwhole, htail⟩
  unfold signed
  split
  · exact List.forall_mem_cons.2 ⟨rfl, hchars⟩
  · exact hchars

/-! ## Tokens -/

/-- Nothing follows that continues a number. -/
def EndsNumber (rest : List Char) : Prop := ∀ c, rest.head? = some c → isNumberChar c = false

/-- The characters are cut into the tokens, in front of all that does not continue a number. -/
def ScansAs (chars : List Char) (tokens : List Token) : Prop :=
  ∀ rest, EndsNumber rest → scan (chars ++ rest) = (scan rest).map (tokens ++ ·)

variable {c : Char} {chars more rest tail : List Char} {token : Token} {tokens others : List Token}

theorem endsNumber_cons (h : isNumberChar c = false) (rest : List Char) : EndsNumber (c :: rest) := by
  intro first hfirst
  obtain rfl := Option.some.inj hfirst
  exact h

theorem EndsNumber.append (hmore : EndsNumber more) (hrest : EndsNumber rest) : EndsNumber (more ++ rest) := by
  cases more with
  | nil => exact hrest
  | cons c more => exact endsNumber_cons (hmore c rfl) _

theorem scan_cons (hblank : isBlank c = false) (h : next? c rest = some (token, tail)) :
    scan (c :: rest) = (scan tail).map (token :: ·) := by
  rw [scan, if_neg (by simp [hblank])]
  split
  · rename_i hnone
    rw [hnone] at h
    simp at h
  · rename_i hsome
    obtain ⟨rfl, rfl⟩ := Prod.mk.inj (Option.some.inj (hsome.symm.trans h))
    rfl

/-- Texts are cut where the second one does not continue a number. -/
theorem ScansAs.append (hchars : ScansAs chars tokens) (hmore : ScansAs more others) (hends : EndsNumber more) :
    ScansAs (chars ++ more) (tokens ++ others) := by
  intro rest hrest
  rw [List.append_assoc, hchars _ (hends.append hrest), hmore rest hrest, Option.map_map]
  exact Option.map_congr fun read _ => (List.append_assoc tokens others read).symm

/-- A punctuation mark is a token in front of everything. -/
theorem ScansAs.cons (hblank : isBlank c = false) (hnext : ∀ rest, next? c rest = some (token, rest))
    (h : ScansAs more others) : ScansAs (c :: more) (token :: others) := by
  intro rest hrest
  rw [List.cons_append, scan_cons hblank (hnext _), h rest hrest, Option.map_map]
  rfl

theorem scansAs_of_next? (hblank : isBlank c = false)
    (hnext : ∀ rest, EndsNumber rest → next? c (chars ++ rest) = some (token, rest)) :
    ScansAs (c :: chars) [token] :=
  fun rest hrest => scan_cons hblank (hnext rest hrest)

/-- No word and no punctuation mark begins with a character of numbers. -/
theorem next?_of_isNumberChar (hc : isNumberChar c = true) (rest : List Char) :
    next? c rest = (number? (c :: rest.takeWhile isNumberChar)).map fun json =>
      (.value json, rest.dropWhile isNumberChar) := by
  unfold next?
  split
  case h_11 => cases number? (c :: rest.takeWhile isNumberChar) <;> rfl
  all_goals exact absurd hc (by decide)

theorem isBlank_of_isNumberChar (h : isNumberChar c = true) : isBlank c = false := by
  rw [Bool.eq_false_iff]
  intro hblank
  simp only [isBlank, Bool.or_eq_true, decide_eq_true_eq] at hblank
  rcases hblank with ((rfl | rfl) | rfl) | rfl <;> exact absurd h (by decide)

/-- A numeral is one token. -/
theorem scansAs_number {json : Json} (hne : chars ≠ []) (hall : ∀ c ∈ chars, isNumberChar c = true)
    (hnumber : number? chars = some json) : ScansAs chars [.value json] := by
  obtain ⟨c, chars, rfl⟩ := List.exists_cons_of_ne_nil hne
  obtain ⟨hc, hchars⟩ := List.forall_mem_cons.1 hall
  refine scansAs_of_next? (isBlank_of_isNumberChar hc) fun rest hrest => ?_
  obtain ⟨htake, hdrop⟩ := Prod.mk.inj ((List.span_eq_takeWhile_dropWhile ..).symm.trans (span_append hchars hrest))
  rw [next?_of_isNumberChar hc, htake, hdrop, hnumber, Option.map_some]

theorem scansAs_numeral {text : String} {json : Json} (h : IsNumeral text json) :
    ScansAs text.toList [.value json] := by
  obtain ⟨negative, literal, hliteral, htext, hnumber⟩ := h
  refine scansAs_number ?_ (htext ▸ isNumberChar_of_mem_chars hliteral negative) hnumber
  rw [htext, signed]
  split
  · simp
  · simp [Literal.chars, Literal.whole_ne_nil hliteral]

theorem scansAs_quote (s : String) : ScansAs (quote s).toList [.value (.string s)] := by
  have hchars : (quote s).toList = '"' :: (s.toList.flatMap escapeChar ++ ['"']) := String.toList_ofList
  rw [hchars]
  refine scansAs_of_next? rfl fun rest _ => ?_
  obtain ⟨units, hunits, hjoin⟩ := exists_stringUnits s.toList rest
  rw [List.append_assoc]
  simp [next?, hunits, hjoin]

end Token

/-! ## Values -/

/-- A text can spell the value: its integers are within their bounds and its other numbers are finite, and the
    members of its objects are in order. -/
inductive Printable : Json → Prop
  | null : Printable .null
  | bool (b : Bool) : Printable (.bool b)
  | integer {n : Int} (hlower : Int64.minValue.toInt ≤ n) (hupper : n < UInt64.size) : Printable (.integer n)
  | float {x : Binary64} (h : x.isFinite = true) : Printable (.float x)
  | string (s : String) : Printable (.string s)
  | array {items : List Json} (h : ∀ item ∈ items, Printable item) : Printable (.array items)
  | object {members : List (String × Json)} (hascending : Fields.Ascending members)
      (h : ∀ member ∈ members, Printable member.2) : Printable (.object members)

/-- The text of the value is cut into tokens that are folded into the value, wherever it stands. -/
def ReadsBack (json : Json) : Prop :=
  ∃ tokens, Token.ScansAs json.compact.toList tokens ∧
    ∀ closable frames, tokens.foldlM Reading.step (.value closable frames) = some (.finish json frames)

open Token

theorem readsBack_of_scansAs {json : Json} (h : ScansAs json.compact.toList [.value json]) : json.ReadsBack := by
  refine ⟨_, h, fun closable frames => ?_⟩
  simp [Reading.step]

/-- The text adds the elements to what a container holds so far, last first. -/
def Adds {α : Type} (expecting : Bool → List α → List Frame → Reading) (after : List α → List Frame → Reading)
    (text : String) (added : List α) : Prop :=
  ∃ tokens, ScansAs text.toList tokens ∧ ∀ closable before frames,
    tokens.foldlM Reading.step (expecting closable before frames) = some (after (added ++ before) frames)

/-- **Elements between commas are added one after the other** if a comma leads from one to the next. -/
theorem adds_intercalate {α : Type} {expecting : Bool → List α → List Frame → Reading}
    {after : List α → List Frame → Reading} {text : α → String} {elements : List α} (hne : elements ≠ [])
    (hcomma : ∀ before frames, (after before frames).step .comma = some (expecting false before frames))
    (h : ∀ a ∈ elements, Adds expecting after (text a) [a]) :
    Adds expecting after (",".intercalate (elements.map text)) elements.reverse := by
  induction elements with
  | nil => exact absurd rfl hne
  | cons a elements ih =>
    obtain ⟨hfirst, helements⟩ := List.forall_mem_cons.1 h
    cases elements with
    | nil => simpa using hfirst
    | cons next elements =>
      obtain ⟨tokens, hscan, hfold⟩ := hfirst
      obtain ⟨others, hothers, hrest⟩ := ih (by simp) helements
      refine ⟨tokens ++ .comma :: others, ?_, fun closable before frames => ?_⟩
      · have htext : (",".intercalate ((a :: next :: elements).map text)).toList =
            (text a).toList ++ ',' :: (",".intercalate ((next :: elements).map text)).toList := by
          simp [String.intercalate_cons_cons]
        rw [htext]
        exact hscan.append (.cons rfl (fun _ => rfl) hothers) (endsNumber_cons rfl _)
      · rw [List.foldlM_append, hfold, Option.bind_eq_bind, Option.bind_some, List.foldlM_cons, hcomma,
          Option.bind_eq_bind, Option.bind_some, hrest]
        simp

theorem compactItems_eq_map (items : List Json) : compactItems items = items.map compact := by
  induction items with
  | nil => rfl
  | cons item items ih => rw [compactItems, ih, List.map_cons]

/-- The text of a member of an object. -/
def compactMember (member : String × Json) : String := quote member.1 ++ ":" ++ compact member.2

theorem compactMembers_eq_map (members : List (String × Json)) :
    compactMembers members = members.map compactMember := by
  induction members with
  | nil => rfl
  | cons member members ih =>
    rw [compactMembers, ih]
    rfl

/-- An item of an array is added to those before it. -/
theorem adds_item {item : Json} (h : item.ReadsBack) :
    Adds (fun closable before frames => .value closable (.array before :: frames)) .afterItem item.compact [item] := by
  obtain ⟨tokens, hscan, hfold⟩ := h
  exact ⟨tokens, hscan, fun closable before frames => hfold closable (.array before :: frames)⟩

theorem readsBack_array {items : List Json} (h : ∀ item ∈ items, item.ReadsBack) : (Json.array items).ReadsBack := by
  have htext : (compact (.array items)).toList = '[' :: ((",".intercalate (items.map compact)).toList ++ [']']) := by
    simp [compact, compactItems_eq_map]
  have hclose : ScansAs [']'] [.closeArray] := scansAs_of_next? rfl fun _ _ => rfl
  rw [ReadsBack, htext]
  by_cases hne : items = []
  · subst hne
    exact ⟨[.openArray, .closeArray], .cons rfl (fun _ => rfl) hclose, fun _ _ => rfl⟩
  · obtain ⟨tokens, hscan, hfold⟩ := adds_intercalate hne (fun _ _ => rfl) fun item hitem => adds_item (h item hitem)
    refine ⟨.openArray :: (tokens ++ [.closeArray]), ?_, fun closable frames => ?_⟩
    · exact .cons rfl (fun _ => rfl) (hscan.append hclose (endsNumber_cons rfl []))
    · simp [hfold, Reading.step]

/-- So is a member of an object, with its name. -/
theorem adds_member {member : String × Json} (h : member.2.ReadsBack) :
    Adds .key .afterMember (compactMember member) [member] := by
  obtain ⟨tokens, hscan, hfold⟩ := h
  refine ⟨.value (.string member.1) :: .colon :: tokens, ?_, fun closable before frames => ?_⟩
  · have htext : (compactMember member).toList = (quote member.1).toList ++ ':' :: (compact member.2).toList := by
      simp [compactMember]
    rw [htext]
    exact (scansAs_quote member.1).append (.cons rfl (fun _ => rfl) hscan) (endsNumber_cons rfl _)
  · exact hfold false (.object before member.1 :: frames)

theorem readsBack_object {members : List (String × Json)} (hascending : Fields.Ascending members)
    (h : ∀ member ∈ members, member.2.ReadsBack) : (Json.object members).ReadsBack := by
  have htext : (compact (.object members)).toList =
      '\x7b' :: ((",".intercalate (members.map compactMember)).toList ++ ['\x7d']) := by
    simp [compact, compactMembers_eq_map]
  have hclose : ScansAs ['\x7d'] [.closeObject] := scansAs_of_next? rfl fun _ _ => rfl
  rw [ReadsBack, htext]
  by_cases hne : members = []
  · subst hne
    exact ⟨[.openObject, .closeObject], .cons rfl (fun _ => rfl) hclose, fun _ _ => rfl⟩
  · obtain ⟨tokens, hscan, hfold⟩ :=
      adds_intercalate hne (fun _ _ => rfl) fun member hmember => adds_member (h member hmember)
    refine ⟨.openObject :: (tokens ++ [.closeObject]), ?_, fun closable frames => ?_⟩
    · exact .cons rfl (fun _ => rfl) (hscan.append hclose (endsNumber_cons rfl []))
    · simp [hfold, Reading.step, ofMembers, hascending.ofEntries_eq]

/-- **A value that a text can spell is read wherever its text stands.** -/
theorem Printable.readsBack {json : Json} (h : json.Printable) : json.ReadsBack := by
  induction h with
  | null => exact readsBack_of_scansAs (scansAs_of_next? rfl fun _ _ => rfl)
  | bool b =>
    apply readsBack_of_scansAs
    cases b with
    | false => exact scansAs_of_next? rfl fun _ _ => rfl
    | true => exact scansAs_of_next? rfl fun _ _ => rfl
  | integer hlower hupper =>
    apply readsBack_of_scansAs
    rw [compact]
    exact scansAs_numeral (isNumeral_toString hlower hupper)
  | float hfinite =>
    apply readsBack_of_scansAs
    rw [compact]
    exact scansAs_numeral (Binary64.isNumeral_text hfinite)
  | string s =>
    apply readsBack_of_scansAs
    rw [compact]
    exact scansAs_quote s
  | array _ ih => exact readsBack_array ih
  | object hascending _ ih => exact readsBack_object hascending ih

/-- **A value that a text can spell is read back from its text.** -/
theorem parse?_compact {json : Json} (h : json.Printable) : parse? json.compact = some json := by
  obtain ⟨tokens, hscan, hfold⟩ := h.readsBack
  have hall := hscan [] (by simp [EndsNumber])
  rw [List.append_nil, scan, Option.map_some, List.append_nil] at hall
  simp [parse?, hall, hfold, Reading.finish]

end Json

end SchemaConstraints
