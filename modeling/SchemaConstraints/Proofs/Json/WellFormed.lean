import SchemaConstraints.Json.Reader
import SchemaConstraints.Proofs.Fields
import SchemaConstraints.Proofs.Number.Magnitude

set_option autoImplicit false

/-! # Well-formed JSON values

Objects are maps and numbers are numbers: in a well-formed JSON value no object has two members of one
name, and no number is NaN. All that is read from a text is well-formed (`wellFormed_of_parse?`), because
an object keeps one of several members of a name and every literal is rounded to a number. The type `Json`
itself has values that no text spells, and what is said of directive arguments is said of well-formed
ones where this makes a difference. -/

namespace SchemaConstraints

/-! ## Rounding gives numbers -/

namespace Binary64

theorem isNaN_ofInt (n : Int) : (ofInt n).isNaN = false := isNaN_ofCode _ _

theorem isNaN_ofDecimal (negative : Bool) (digits : Nat) (exponent : Int) :
    (ofDecimal negative digits exponent).isNaN = false := by
  have hinfinity : (infinity negative).isNaN = false := by simp [isNaN, infinity]
  simp only [ofDecimal, ofUnits, apply_ite isNaN, isNaN_ofCode, hinfinity, ite_self]

end Binary64

/-! ## Well-formed values -/

namespace Json

/-- No object in the value has two members of one name, and no number in it is NaN. -/
inductive WellFormed : Json → Prop
  | null : WellFormed .null
  | bool (b : Bool) : WellFormed (.bool b)
  | integer (n : Int) : WellFormed (.integer n)
  | float {x : Binary64} (h : x.isNaN = false) : WellFormed (.float x)
  | string (s : String) : WellFormed (.string s)
  | array {items : List Json} (h : ∀ item ∈ items, WellFormed item) : WellFormed (.array items)
  | object {members : List (String × Json)} (hnodup : (members.map (·.1)).Nodup)
      (h : ∀ member ∈ members, WellFormed member.2) : WellFormed (.object members)

attribute [simp] WellFormed.null WellFormed.bool WellFormed.integer WellFormed.string

@[simp] theorem wellFormed_array_iff {items : List Json} :
    (Json.array items).WellFormed ↔ ∀ item ∈ items, item.WellFormed := by
  refine ⟨fun h => ?_, .array⟩
  cases h with
  | array hitems => exact hitems

@[simp] theorem wellFormed_object_iff {members : List (String × Json)} :
    (Json.object members).WellFormed ↔
      (members.map (·.1)).Nodup ∧ ∀ member ∈ members, member.2.WellFormed := by
  refine ⟨fun h => ?_, fun h => .object h.1 h.2⟩
  cases h with
  | object hnodup hmembers => exact ⟨hnodup, hmembers⟩

theorem WellFormed.ofMembers {members : List (String × Json)} (h : ∀ member ∈ members, member.2.WellFormed) :
    (Json.ofMembers members).WellFormed :=
  .object (Fields.nodup_ofEntries members) fun member hmember => h member (Fields.mem_ofEntries hmember)

/-! ## Reading -/

namespace Token

/-- The value that a token may be is well-formed. -/
def WellFormed : Token → Prop
  | .value json => json.WellFormed
  | _ => True

theorem wellFormed_of_number? {chars : List Char} {json : Json} (h : number? chars = some json) :
    json.WellFormed := by
  simp only [number?] at h
  -- with a sign or without one
  split at h
  all_goals
    rw [Option.ite_none_left_eq_some] at h
    obtain ⟨-, h⟩ := h
    split at h
    · -- no point and no exponent: the negative zero, an integer, or the nearest number
      obtain ⟨-, h⟩ | ⟨-, h⟩ := ite_eq_iff.1 h
      · obtain rfl := Option.some.inj h
        exact .float rfl
      · obtain ⟨-, h⟩ | ⟨-, h⟩ := ite_eq_iff.1 h
        · obtain rfl := Option.some.inj h
          exact .integer _
        · obtain rfl := Option.some.inj h
          exact .float (Binary64.isNaN_ofInt _)
    · rw [Option.ite_none_right_eq_some] at h
      obtain ⟨_, _, rfl⟩ := Option.map_eq_some_iff.1 h.2
      exact .float (Binary64.isNaN_ofDecimal _ _ _)

theorem wellFormed_of_next? {first : Char} {rest tail : List Char} {token : Token}
    (h : next? first rest = some (token, tail)) : token.WellFormed := by
  unfold next? at h
  split at h
  case h_10 =>
    simp only [Option.pure_def, Option.bind_eq_bind, Option.bind_eq_some_iff, Option.some.injEq,
      Prod.mk.injEq, Prod.exists] at h
    obtain ⟨_, _, _, _, _, rfl, _⟩ := h
    exact .string _
  case h_11 =>
    simp only [Option.pure_def, Option.bind_eq_bind, Option.bind_eq_some_iff, Option.some.injEq,
      Prod.mk.injEq] at h
    obtain ⟨json, hnumber, rfl, _⟩ := h
    exact wellFormed_of_number? hnumber
  all_goals
    cases h
    first | trivial | exact .null | exact .bool _

theorem wellFormed_of_scan {cs : List Char} {tokens : List Token} (h : scan cs = some tokens) :
    ∀ token ∈ tokens, token.WellFormed := by
  fun_induction scan cs generalizing tokens with
  | case1 =>
    obtain rfl := Option.some.inj h
    simp
  | case2 _ _ _ ih => exact ih h
  | case3 => simp at h
  | case4 c rest _ token tail hnext _ ih =>
    obtain ⟨others, hothers, rfl⟩ := Option.map_eq_some_iff.1 h
    exact List.forall_mem_cons.2 ⟨wellFormed_of_next? hnext, ih hothers⟩

end Token

/-- What a container holds so far is well-formed. -/
def Frame.WellFormed : Frame → Prop
  | .array items => ∀ item ∈ items, item.WellFormed
  | .object members _ => ∀ member ∈ members, member.2.WellFormed

namespace Reading

/-- All that has been read is well-formed. -/
def WellFormed : Reading → Prop
  | .value _ frames => ∀ frame ∈ frames, frame.WellFormed
  | .key _ members frames | .colon members _ frames | .afterMember members frames =>
    (∀ member ∈ members, member.2.WellFormed) ∧ ∀ frame ∈ frames, frame.WellFormed
  | .afterItem items frames =>
    (∀ item ∈ items, item.WellFormed) ∧ ∀ frame ∈ frames, frame.WellFormed
  | .done json => json.WellFormed

theorem wellFormed_finish {json : Json} {frames : List Frame} (hjson : json.WellFormed)
    (h : ∀ frame ∈ frames, frame.WellFormed) : (finish json frames).WellFormed := by
  cases frames with
  | nil => exact hjson
  | cons frame frames =>
    obtain ⟨hframe, hframes⟩ := List.forall_mem_cons.1 h
    cases frame with
    | array items => exact ⟨List.forall_mem_cons.2 ⟨hjson, hframe⟩, hframes⟩
    | object members name => exact ⟨List.forall_mem_cons.2 ⟨hjson, hframe⟩, hframes⟩

/-- Reading a token keeps what has been read well-formed. -/
theorem wellFormed_of_step {reading next : Reading} {token : Token} (hreading : reading.WellFormed)
    (htoken : token.WellFormed) (h : reading.step token = some next) : next.WellFormed := by
  unfold step at h
  split at h
  all_goals try obtain rfl := Option.some.inj h
  · exact wellFormed_finish htoken hreading
  · exact List.forall_mem_cons.2 ⟨by simp [Frame.WellFormed], hreading⟩
  · exact ⟨by simp, hreading⟩
  · exact wellFormed_finish (.array (by simp)) (List.forall_mem_cons.1 hreading).2
  · exact hreading
  · exact wellFormed_finish (.ofMembers (by simpa using hreading.1)) hreading.2
  · exact List.forall_mem_cons.2 ⟨hreading.1, hreading.2⟩
  · exact List.forall_mem_cons.2 ⟨hreading.1, hreading.2⟩
  · exact wellFormed_finish (.array (by simpa using hreading.1)) hreading.2
  · exact hreading
  · exact wellFormed_finish (.ofMembers (by simpa using hreading.1)) hreading.2
  · simp at h

/-- So does reading several. -/
theorem wellFormed_of_foldlM_step {tokens : List Token} {reading last : Reading} (hreading : reading.WellFormed)
    (htokens : ∀ token ∈ tokens, token.WellFormed) (h : tokens.foldlM step reading = some last) :
    last.WellFormed := by
  induction tokens generalizing reading with
  | nil =>
    obtain rfl := Option.some.inj h
    exact hreading
  | cons token tokens ih =>
    obtain ⟨htoken, htokens⟩ := List.forall_mem_cons.1 htokens
    obtain ⟨next, hnext, h⟩ := Option.bind_eq_some_iff.1 (List.foldlM_cons.symm.trans h)
    exact ih (wellFormed_of_step hreading htoken hnext) htokens h

end Reading

/-- **Whatever a text spells is well-formed.** -/
theorem wellFormed_of_parse? {text : String} {json : Json} (h : parse? text = some json) : json.WellFormed := by
  simp only [parse?, Option.bind_eq_bind, Option.bind_eq_some_iff] at h
  obtain ⟨tokens, htokens, last, hlast, h⟩ := h
  have hwell : last.WellFormed :=
    Reading.wellFormed_of_foldlM_step (by simp [Reading.WellFormed]) (Token.wellFormed_of_scan htokens) hlast
  cases last with
  | done read =>
    obtain rfl := Option.some.inj h
    exact hwell
  | _ => simp at h

end Json

end SchemaConstraints
