import SchemaConstraints.Schema.Coordinate
import SchemaConstraints.Schema.Type
import Mathlib.Data.List.TakeWhile

set_option autoImplicit false

/-! # Texts that name one thing

Errors name a place in the schema and its type by their texts alone. As long as names hold none of the marks
that are written around them, this is enough: a coordinate can be read back from its text
(`Coordinate.ofText_text`), and the text of a type gives away its wrappers one by one, as the outermost one
writes the last mark (`TypeRef.text_eq_text_iff`). What the text of a type does not say is the kind of the
named type. -/

namespace SchemaConstraints

/-- The name holds none of some marks. -/
def Unmarked (marks : List Char) (name : String) : Prop := ∀ c ∈ name.toList, c ∉ marks

/-! ## Coordinates -/

namespace Coordinate

/-- The characters that are written around the names of a coordinate. -/
def marks : List Char := ['.', '(', ')', ':', '$']

/-- All names of the coordinate are free of marks. -/
def Plain (coordinate : Coordinate) : Prop := ∀ name ∈ coordinate.names, Unmarked marks name

/-- The coordinate that a path spells: a name up to a point, one up to a parenthesis, and one up to a colon. -/
def ofPath (path : List Char) : Coordinate :=
  let owner := String.ofList (path.takeWhile (· != '.'))
  match path.dropWhile (· != '.') with
  | [] => .type owner
  | _ :: rest =>
    let name := String.ofList (rest.takeWhile (· != '('))
    match rest.dropWhile (· != '(') with
    | [] => .field owner name
    | _ :: rest => .argument owner name (String.ofList (rest.takeWhile (· != ':')))

/-- The coordinate that a text spells. -/
def ofText (text : String) : Coordinate :=
  match text.toList with
  | '$' :: name => .variable (String.ofList name)
  | path => ofPath path

section

variable {name : String} {mark : Char} {rest : List Char}

theorem bne_of_unmarked (h : Unmarked marks name) (hmark : mark ∈ marks) :
    ∀ c ∈ name.toList, (c != mark) = true := by
  intro c hc
  refine bne_iff_ne.2 ?_
  rintro rfl
  exact h c hc hmark

/-- A name ends before the next mark. -/
theorem takeWhile_name (h : Unmarked marks name) (hmark : mark ∈ marks) :
    (name.toList ++ mark :: rest).takeWhile (· != mark) = name.toList := by
  rw [List.takeWhile_append_of_pos (bne_of_unmarked h hmark), List.takeWhile_cons_of_neg (by simp), List.append_nil]

theorem dropWhile_name (h : Unmarked marks name) (hmark : mark ∈ marks) :
    (name.toList ++ mark :: rest).dropWhile (· != mark) = mark :: rest := by
  rw [List.dropWhile_append_of_pos (bne_of_unmarked h hmark), List.dropWhile_cons_of_neg (by simp)]

/-- A name after which there is nothing goes to the end. -/
theorem takeWhile_last (h : Unmarked marks name) (hmark : mark ∈ marks) :
    name.toList.takeWhile (· != mark) = name.toList := List.takeWhile_eq_self_iff.2 (bne_of_unmarked h hmark)

theorem dropWhile_last (h : Unmarked marks name) (hmark : mark ∈ marks) :
    name.toList.dropWhile (· != mark) = [] := List.dropWhile_eq_nil_iff.2 (bne_of_unmarked h hmark)

theorem ofPath_name (h : Unmarked marks name) : ofPath name.toList = .type name := by
  have hpoint : '.' ∈ marks := by decide
  rw [ofPath, takeWhile_last h hpoint, dropWhile_last h hpoint, String.ofList_toList]

theorem ofPath_member {owner : String} (howner : Unmarked marks owner) (h : Unmarked marks name) :
    ofPath (owner.toList ++ '.' :: name.toList) = .field owner name := by
  have hpoint : '.' ∈ marks := by decide
  have hopen : '(' ∈ marks := by decide
  rw [ofPath, takeWhile_name howner hpoint, dropWhile_name howner hpoint]
  simp [takeWhile_last h hopen, dropWhile_last h hopen]

theorem ofPath_argument {owner fieldName : String} (howner : Unmarked marks owner)
    (hfield : Unmarked marks fieldName) (h : Unmarked marks name) :
    ofPath (owner.toList ++ '.' :: (fieldName.toList ++ '(' :: (name.toList ++ ':' :: rest))) =
      .argument owner fieldName name := by
  have hpoint : '.' ∈ marks := by decide
  have hopen : '(' ∈ marks := by decide
  have hcolon : ':' ∈ marks := by decide
  rw [ofPath, takeWhile_name howner hpoint, dropWhile_name howner hpoint]
  simp [takeWhile_name hfield hopen, dropWhile_name hfield hopen, takeWhile_name h hcolon]

/-- A text that begins with a name is no variable's. -/
theorem ofText_of_name {text : String} (h : Unmarked marks name) (hrest : rest.head? ≠ some '$')
    (htext : text.toList = name.toList ++ rest) : ofText text = ofPath text.toList := by
  have hhead : text.toList.head? ≠ some '$' := by
    rw [htext]
    cases hchars : name.toList with
    | nil => simpa using hrest
    | cons c chars =>
      have hc : c ∉ marks := h c (by simp [hchars])
      simp only [List.cons_append, List.head?_cons, ne_eq, Option.some.injEq]
      rintro rfl
      exact hc (by decide)
  rw [ofText]
  split
  · next heq => simp [heq] at hhead
  · rfl

end

/-- A coordinate is read back from its text. -/
theorem ofText_text {coordinate : Coordinate} (h : coordinate.Plain) : ofText coordinate.text = coordinate := by
  cases coordinate with
  | type name =>
    have hname : Unmarked marks name := h name (by simp [names])
    have htext : name.toList = name.toList ++ [] := by simp
    rw [text, ofText_of_name hname (by simp) htext, ofPath_name hname]
  | field owner name =>
    have howner : Unmarked marks owner := h owner (by simp [names])
    have hname : Unmarked marks name := h name (by simp [names])
    have htext : (owner ++ "." ++ name).toList = owner.toList ++ '.' :: name.toList := by simp
    rw [text, ofText_of_name howner (by simp) htext, htext, ofPath_member howner hname]
  | argument owner fieldName name =>
    have howner : Unmarked marks owner := h owner (by simp [names])
    have hfield : Unmarked marks fieldName := h fieldName (by simp [names])
    have hname : Unmarked marks name := h name (by simp [names])
    have htext : (owner ++ "." ++ fieldName ++ "(" ++ name ++ ":)").toList =
        owner.toList ++ '.' :: (fieldName.toList ++ '(' :: (name.toList ++ ':' :: [')'])) := by simp
    rw [text, ofText_of_name howner (by simp) htext, htext, ofPath_argument howner hfield hname]
  | «variable» name => simp [ofText, text]

/-- **Coordinates of one text are the same coordinate.** -/
theorem text_eq_text_iff {a b : Coordinate} (ha : a.Plain) (hb : b.Plain) : a.text = b.text ↔ a = b := by
  constructor
  · intro h
    rw [← ofText_text ha, h, ofText_text hb]
  · exact congrArg text

end Coordinate

/-! ## Types -/

/-- What may stand around a type. -/
inductive Wrapper where
  | list
  | nonNull
  deriving DecidableEq, Repr

/-- The mark that a wrapper writes last. -/
def Wrapper.mark : Wrapper → Char
  | .list => ']'
  | .nonNull => '!'

namespace TypeRef

/-- The characters that are written around the name of a type. -/
def marks : List Char := ['[', ']', '!']

/-- The wrappers of a type, from the outside to the inside. -/
def wrappers : TypeRef → List Wrapper
  | .named _ => []
  | .list inner => .list :: inner.wrappers
  | .nonNull inner => .nonNull :: inner.wrappers

/-- The name inside the wrappers is free of marks. -/
def Plain (type : TypeRef) : Prop := Unmarked marks type.leaf.name

theorem toList_text_list (inner : TypeRef) : (list inner).text.toList = '[' :: inner.text.toList ++ [']'] := by
  simp [text]

theorem toList_text_nonNull (inner : TypeRef) : (nonNull inner).text.toList = inner.text.toList ++ ['!'] := by
  simp [text]

/-- A text ends with the mark of the outermost wrapper, and with no mark if there is no wrapper. -/
theorem lastMark_text {type : TypeRef} (h : type.Plain) :
    type.text.toList.getLast?.filter (· ∈ marks) = type.wrappers.head?.map Wrapper.mark := by
  cases type with
  | named type =>
    rw [text]
    cases hlast : type.name.toList.getLast? with
    | none => rfl
    | some c =>
      have hc : c ∉ marks := h c (List.mem_of_getLast? hlast)
      simp [Option.filter, hc, wrappers]
  | list inner =>
    rw [toList_text_list, List.getLast?_concat]
    rfl
  | nonNull inner =>
    rw [toList_text_nonNull, List.getLast?_concat]
    rfl

/-- Types whose outermost wrappers differ are written differently. -/
theorem text_ne_of_head?_ne {a b : TypeRef} (ha : a.Plain) (hb : b.Plain)
    (hne : a.wrappers.head? ≠ b.wrappers.head?) : a.text ≠ b.text := by
  have hmark : Function.Injective Wrapper.mark := by
    intro v w
    cases v <;> cases w <;> simp [Wrapper.mark]
  intro h
  refine hne (Option.map_injective hmark ?_)
  rw [← lastMark_text ha, ← lastMark_text hb, h]

/-- **Types of one text have the same wrappers around the same name.** -/
theorem text_eq_text_iff {a b : TypeRef} (ha : a.Plain) (hb : b.Plain) :
    a.text = b.text ↔ a.wrappers = b.wrappers ∧ a.leaf.name = b.leaf.name := by
  induction a generalizing b with
  | named type =>
    cases b with
    | named other => simp [text, wrappers, leaf]
    | list | nonNull => refine iff_of_false (text_ne_of_head?_ne ha hb ?_) ?_ <;> simp [wrappers]
  | list inner ih =>
    cases b with
    | list other =>
      have hinside : (list inner).text = (list other).text ↔ inner.text = other.text := by
        rw [← String.toList_inj, toList_text_list, toList_text_list, List.append_cancel_right_eq, List.cons.injEq,
          String.toList_inj]
        exact and_iff_right rfl
      rw [hinside, @ih other ha hb]
      simp [wrappers, leaf]
    | named | nonNull => refine iff_of_false (text_ne_of_head?_ne ha hb ?_) ?_ <;> simp [wrappers]
  | nonNull inner ih =>
    cases b with
    | nonNull other =>
      have hinside : (nonNull inner).text = (nonNull other).text ↔ inner.text = other.text := by
        rw [← String.toList_inj, toList_text_nonNull, toList_text_nonNull, List.append_cancel_right_eq,
          String.toList_inj]
      rw [hinside, @ih other ha hb]
      simp [wrappers, leaf]
    | named | list => refine iff_of_false (text_ne_of_head?_ne ha hb ?_) ?_ <;> simp [wrappers]

end TypeRef

/-! ## Both texts -/

/-- **A text names one place and one type.** Coordinates of any forms that are written alike are the same, and types
    that are written alike have the same wrappers, doubled ones included, around the same name. -/
theorem texts_unambiguous :
    (∀ a b : Coordinate, a.Plain → b.Plain → (a.text = b.text ↔ a = b)) ∧
      ∀ a b : TypeRef, a.Plain → b.Plain →
        (a.text = b.text ↔ a.wrappers = b.wrappers ∧ a.leaf.name = b.leaf.name) :=
  ⟨fun _ _ => Coordinate.text_eq_text_iff, fun _ _ => TypeRef.text_eq_text_iff⟩

/-- An argument is not mistaken for its field, and a doubled wrapper shows, but a kind does not. -/
theorem texts_unambiguous_of_users :
    let first : Coordinate := .argument "Query" "users" "first"
    let users : Coordinate := .field "Query" "users"
    let emails := TypeRef.list (.ofName "Email" .customScalar)
    let strings := TypeRef.list (.ofName "Email" .string)
    first.Plain ∧ users.Plain ∧ first.text ≠ users.text ∧ emails.Plain ∧ strings.Plain ∧
      emails.nonNull.text ≠ emails.nonNull.nonNull.text ∧ emails.nonNull.text = strings.nonNull.text := by
  intro first users emails strings
  have hfirst : first.Plain := by
    simp [first, Coordinate.Plain, Coordinate.names, Unmarked, Coordinate.marks]
  have husers : users.Plain := by
    simp [users, Coordinate.Plain, Coordinate.names, Unmarked, Coordinate.marks]
  have hemails : emails.Plain := by
    simp [emails, TypeRef.Plain, TypeRef.ofName, TypeRef.leaf, Unmarked, TypeRef.marks]
  refine ⟨hfirst, husers, ?_, hemails, hemails, ?_, ?_⟩
  · rw [ne_eq, texts_unambiguous.1 first users hfirst husers]
    simp [first, users]
  · rw [ne_eq, texts_unambiguous.2 emails.nonNull emails.nonNull.nonNull hemails hemails]
    simp [TypeRef.wrappers, emails]
  · exact (texts_unambiguous.2 emails.nonNull strings.nonNull hemails hemails).2 ⟨rfl, rfl⟩

end SchemaConstraints
