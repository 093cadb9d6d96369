import SchemaConstraints.Proofs.Evaluate.Identity
import SchemaConstraints.Proofs.Fields
import SchemaConstraints.Proofs.Number.Units
import SchemaConstraints.Value.Equality

set_option autoImplicit false

/-! # Which items are duplicates

The check for duplicates compares identities. Here is what this comes to on the items themselves: two
values are duplicates if they agree part by part, where an enum value stands for its representation and a
variable for its value. On acyclic bindings these are exactly the values of one identity
(`duplicates_iff_ofValue_eq`), so a list without duplicates is a list of pairwise distinct items
(`unique_check_iff_no_duplicates`). -/

namespace SchemaConstraints

namespace Value

/-- Two items of a list are duplicates. Between kinds other than enum values and variables only a value of
    the same kind is a duplicate, so an integer never is one of a floating-point number. -/
inductive Duplicates (bindings : Bindings) : Value → Value → Prop
  | null : Duplicates bindings .null .null
  | bool (b : Bool) : Duplicates bindings (.bool b) (.bool b)
  | int (n : Int64) : Duplicates bindings (.int n) (.int n)
  | float {x y : Binary64} (h : x = y ∨ x.isZero = true ∧ y.isZero = true) :
    Duplicates bindings (.float x) (.float y)
  | string (s : String) : Duplicates bindings (.string s) (.string s)
  | upload (file : UploadedFile) : Duplicates bindings (.upload file) (.upload file)
  /-- Lists item by item, in order. -/
  | list {as bs : List Value} (hlength : as.length = bs.length)
    (h : ∀ (i : Nat) (ha : i < as.length) (hb : i < bs.length), Duplicates bindings as[i] bs[i]) :
    Duplicates bindings (.list as) (.list bs)
  /-- Objects field by field, whatever their shapes and the order of their fields. -/
  | object {s t : ObjectShape} {fs gs : List (String × Value)}
    (hnames : ∀ name, Fields.has name fs = Fields.has name gs)
    (h : ∀ name a b, Fields.find? name fs = some a → Fields.find? name gs = some b → Duplicates bindings a b) :
    Duplicates bindings (.object s fs) (.object t gs)
  | enumLeft {name : String} {repr b : Value} (h : Duplicates bindings repr b) :
    Duplicates bindings (.enum name repr) b
  | enumRight {name : String} {a repr : Value} (h : Duplicates bindings a repr) :
    Duplicates bindings a (.enum name repr)
  | variableLeft {name : String} {b : Value} (h : Duplicates bindings (standIn bindings name) b) :
    Duplicates bindings (.variable name) b
  | variableRight {name : String} {a : Value} (h : Duplicates bindings a (standIn bindings name)) :
    Duplicates bindings a (.variable name)

/-- Neither an enum value nor a variable, so that the kind of the value is the kind of its identity. -/
def IsPlain : Value → Prop
  | .enum _ _ | .variable _ => False
  | _ => True

theorem mem_parts_of_find? {shape : ObjectShape} {fields : List (String × Value)} {name : String} {value : Value}
    (h : Fields.find? name fields = some value) : value ∈ (Value.object shape fields).parts :=
  List.mem_map_of_mem (Fields.mem_of_find? h)

theorem canonicalItems_eq_map (items : List Value) : canonicalItems items = items.map canonical := by
  induction items with
  | nil => rfl
  | cons item items ih => rw [canonicalItems, ih, List.map_cons]

theorem canonicalFields_eq_mapValues (fields : List (String × Value)) :
    canonicalFields fields = Fields.mapValues canonical fields := by
  induction fields with
  | nil => rfl
  | cons field fields ih =>
    rw [canonicalFields, ih]
    rfl

end Value

open Value

namespace Identity

variable {bindings : Bindings}

/-- Objects have the same identity if they bind every name to values of the same identity. -/
theorem sorted_ofFields_eq_iff {fs gs : List (String × Value)} :
    Fields.sorted (ofFields bindings fs) = Fields.sorted (ofFields bindings gs) ↔
      ∀ name, (Fields.find? name fs).map (ofValue bindings) = (Fields.find? name gs).map (ofValue bindings) := by
  simp only [Fields.sorted_eq_sorted_iff, ofFields_eq_mapValues, Fields.find?_mapValues]

/-! ## Duplicates and identities -/

theorem ofValue_eq_of_duplicates (hacyclic : bindings.Acyclic) {a b : Value} (h : Duplicates bindings a b) :
    ofValue bindings a = ofValue bindings b := by
  induction h with
  | null | bool | int | string | upload => rfl
  | float h => rw [ofValue, ofValue, Binary64.foldZero_eq_iff.2 h]
  | @list as bs hlength _ ih =>
    have hitems : as.map (ofValue bindings) = bs.map (ofValue bindings) := by
      refine List.ext_getElem (by simpa using hlength) fun i ha hb => ?_
      rw [List.getElem_map, List.getElem_map]
      exact ih i _ _
    rw [ofValue, ofValue, ofItems_eq_map, ofItems_eq_map, hitems]
  | @object _ _ fs gs hnames _ ih =>
    have hfields : ∀ name,
        (Fields.find? name fs).map (ofValue bindings) = (Fields.find? name gs).map (ofValue bindings) := by
      intro name
      have hname := hnames name
      cases hf : Fields.find? name fs <;> cases hg : Fields.find? name gs <;> simp [Fields.has, hf, hg] at hname
      case none.none => rfl
      case some.some a b => exact congrArg some (ih name a b hf hg)
    rw [ofValue, ofValue, sorted_ofFields_eq_iff.2 hfields]
  | enumLeft _ ih => rwa [ofValue]
  | enumRight _ ih => rw [ih, ofValue]
  | variableLeft _ ih => rwa [ofValue_variable hacyclic]
  | variableRight _ ih => rw [ih, ofValue_variable hacyclic]

/-- Behind every value there is a plain one of the same identity, and what duplicates that duplicates the value. -/
theorem exists_isPlain (hacyclic : bindings.Acyclic) (b : Value) :
    ∃ plain : Value, plain.IsPlain ∧ ofValue bindings plain = ofValue bindings b ∧
      ∀ a, Duplicates bindings a plain → Duplicates bindings a b := by
  induction b using Value.induction_of_standIn hacyclic with
  | direct b hdirect ih =>
    cases b with
    | enum name repr =>
      obtain ⟨plain, hplain, hid, hlift⟩ := ih repr (List.mem_singleton_self repr)
      exact ⟨plain, hplain, by rw [hid, ofValue], fun a ha => .enumRight (hlift a ha)⟩
    | «variable» name => exact absurd rfl (hdirect name)
    | _ =>
      refine ⟨_, ?_, rfl, fun _ => id⟩
      trivial
  | indirect name ih =>
    obtain ⟨plain, hplain, hid, hlift⟩ := ih
    exact ⟨plain, hplain, by rw [hid, ofValue_variable hacyclic], fun a ha => .variableRight (hlift a ha)⟩

/-- Plain values of the same identity are duplicates if their parts of the same identity are. -/
theorem duplicates_of_isPlain {a b : Value} (ha : a.IsPlain) (hb : b.IsPlain)
    (hid : ofValue bindings a = ofValue bindings b)
    (hparts : ∀ part ∈ a.parts, ∀ other, ofValue bindings part = ofValue bindings other →
      Duplicates bindings part other) : Duplicates bindings a b := by
  cases a with
  | enum | «variable» => exact ha.elim
  | list as =>
    cases b with
    | enum | «variable» => exact hb.elim
    | list bs =>
      have hitems : as.map (ofValue bindings) = bs.map (ofValue bindings) := by
        simpa only [ofValue, list.injEq, ofItems_eq_map] using hid
      have hlength : as.length = bs.length := by simpa using congrArg List.length hitems
      refine .list hlength fun i hi hj => hparts as[i] (List.getElem_mem hi) _ ?_
      have hget := congrArg (·[i]?) hitems
      simpa [List.getElem?_eq_getElem, hi, hj] using hget
    | _ => simp [ofValue] at hid
  | object s fs =>
    cases b with
    | enum | «variable» => exact hb.elim
    | object t gs =>
      have hfields : ∀ name,
          (Fields.find? name fs).map (ofValue bindings) = (Fields.find? name gs).map (ofValue bindings) := by
        rwa [ofValue, ofValue, object.injEq, sorted_ofFields_eq_iff] at hid
      refine .object (fun name => ?_) fun name x y hx hy => hparts x (mem_parts_of_find? hx) y ?_
      · simpa [Fields.has] using congrArg Option.isSome (hfields name)
      · simpa [hx, hy] using hfields name
    | _ => simp [ofValue] at hid
  | float x =>
    cases b with
    | enum | «variable» => exact hb.elim
    | float y => exact .float (Binary64.foldZero_eq_iff.1 (by simpa [ofValue] using hid))
    | _ => simp [ofValue] at hid
  | null | bool | int | string | upload =>
    -- the identity is the value itself
    cases b <;> simp [ofValue, IsPlain] at hid hb
    all_goals
      subst_vars
      constructor

/-- **Duplicates are the values of one identity.** -/
theorem duplicates_iff_ofValue_eq (hacyclic : bindings.Acyclic) {a b : Value} :
    Duplicates bindings a b ↔ ofValue bindings a = ofValue bindings b := by
  refine ⟨ofValue_eq_of_duplicates hacyclic, fun hid => ?_⟩
  induction a using Value.induction_of_standIn hacyclic generalizing b with
  | direct a hdirect ih =>
    cases a with
    | enum name repr => exact .enumLeft (ih repr (List.mem_singleton_self repr) (by rwa [ofValue] at hid))
    | «variable» name => exact absurd rfl (hdirect name)
    | _ =>
      obtain ⟨plain, hplain, hplainid, hlift⟩ := exists_isPlain hacyclic b
      refine hlift _ (duplicates_of_isPlain ?_ hplain (hid.trans hplainid.symm) fun part hpart _ => ih part hpart)
      trivial
  | indirect name ih => exact .variableLeft (ih (by rwa [ofValue_variable hacyclic] at hid))

/-- So a list falls into classes of duplicates, and forbidding duplicates allows one item of each class. -/
theorem equivalence_duplicates (hacyclic : bindings.Acyclic) : Equivalence (Duplicates bindings) := by
  have hiff : ∀ {a b}, Duplicates bindings a b ↔ ofValue bindings a = ofValue bindings b :=
    duplicates_iff_ofValue_eq hacyclic
  exact ⟨fun _ => hiff.2 rfl, fun h => hiff.2 (hiff.1 h).symm, fun h h' => hiff.2 ((hiff.1 h).trans (hiff.1 h'))⟩

/-! ## Equal values -/

/-- The order of the fields of an object does not matter to its identity. -/
theorem ofValue_canonical (bindings : Bindings) (value : Value) :
    ofValue bindings value.canonical = ofValue bindings value := by
  induction value using Value.induction_of_parts with
  | step value ih =>
    cases value with
    | enum name repr =>
      rw [canonical, ofValue, ofValue]
      exact ih repr (List.mem_singleton_self repr)
    | list items =>
      have hitems : (items.map canonical).map (ofValue bindings) = items.map (ofValue bindings) := by
        rw [List.map_map]
        exact List.map_congr_left ih
      rw [canonical, canonicalItems_eq_map, ofValue, ofValue, ofItems_eq_map, ofItems_eq_map, hitems]
    | object shape fields =>
      rw [canonical, canonicalFields_eq_mapValues, ofValue, ofValue, object.injEq, sorted_ofFields_eq_iff]
      intro name
      rw [Fields.find?_sorted, Fields.find?_mapValues]
      cases hfind : Fields.find? name fields with
      | none => rfl
      | some value => exact congrArg some (ih value (mem_parts_of_find? hfind))
    | _ => simp [canonical]

mutual

theorem ofValue_eq_of_sameForm (bindings : Bindings) {a b : Value} (h : sameForm a b = true) :
    ofValue bindings a = ofValue bindings b := by
  cases a <;> cases b <;> simp [sameForm] at h
  case float.float x y => rw [ofValue, ofValue, Binary64.foldZero_eq_iff.2 (Binary64.eq_or_isZero_of_numEq h)]
  case enum.enum => rw [ofValue, ofValue, ofValue_eq_of_sameForm bindings h.2]
  case list.list => rw [ofValue, ofValue, ofItems_eq_of_sameItems bindings h]
  case object.object => rw [ofValue, ofValue, ofFields_eq_of_sameFields bindings h.2]
  all_goals
    subst_vars
    rfl

theorem ofItems_eq_of_sameItems (bindings : Bindings) {as bs : List Value} (h : Value.sameItems as bs = true) :
    ofItems bindings as = ofItems bindings bs := by
  cases as <;> cases bs <;> simp [Value.sameItems] at h
  case nil.nil => rfl
  case cons.cons =>
    rw [ofItems, ofItems, ofValue_eq_of_sameForm bindings h.1, ofItems_eq_of_sameItems bindings h.2]

theorem ofFields_eq_of_sameFields (bindings : Bindings) {fs gs : List (String × Value)}
    (h : Value.sameFields fs gs = true) : ofFields bindings fs = ofFields bindings gs := by
  cases fs <;> cases gs <;> simp [Value.sameFields] at h
  case nil.nil => rfl
  case cons.cons =>
    rw [ofFields, ofFields, h.1.1, ofValue_eq_of_sameForm bindings h.1.2, ofFields_eq_of_sameFields bindings h.2]

end

/-- Equal values have one identity, whatever their variables are bound to. -/
theorem ofValue_eq_of_equals (bindings : Bindings) {a b : Value} (h : a.equals b = true) :
    ofValue bindings a = ofValue bindings b := by
  rw [← ofValue_canonical bindings a, ← ofValue_canonical bindings b]
  exact ofValue_eq_of_sameForm bindings h

end Identity

/-! ## The check for duplicates -/

namespace ListLevel

variable {bindings : Bindings} {items : List Value}

/-- A level that only forbids duplicates makes no other check. -/
theorem check_unique (bindings : Bindings) (items : List Value) :
    ListLevel.check { unique := true } bindings items =
      Check.require .unique (Identity.allDistinct (Identity.ofItems bindings items)) := rfl

theorem check_unique_eq_none_iff :
    ListLevel.check { unique := true } bindings items = none ↔
      ∀ (i j : Nat) (hi : i < items.length) (hj : j < items.length), i ≠ j →
        Identity.ofValue bindings items[i] ≠ Identity.ofValue bindings items[j] := by
  rw [check_unique, Check.require_eq_none_iff, Identity.allDistinct_iff, Identity.ofItems_eq_map, List.Nodup,
    List.pairwise_map, List.pairwise_iff_getElem]
  constructor
  · intro h i j hi hj hne
    rcases Nat.lt_or_gt_of_ne hne with hlt | hgt
    · exact h i j hi hj hlt
    · exact (h j i hj hi hgt).symm
  · exact fun h i j hi hj hlt => h i j hi hj (Nat.ne_of_lt hlt)

/-- Items of one identity at two positions are reported. -/
theorem check_unique_eq_some {i j : Nat} (hi : i < items.length) (hj : j < items.length) (hne : i ≠ j)
    (hid : Identity.ofValue bindings items[i] = Identity.ofValue bindings items[j]) :
    ListLevel.check { unique := true } bindings items = some .unique := by
  cases hdistinct : Identity.allDistinct (Identity.ofItems bindings items) with
  | false =>
    rw [check_unique, hdistinct]
    rfl
  | true =>
    have hpasses : ListLevel.check { unique := true } bindings items = none := by
      rw [check_unique, hdistinct]
      rfl
    exact absurd hid (check_unique_eq_none_iff.1 hpasses i j hi hj hne)

/-- **The check for duplicates is pairwise distinctness,** and it reports all items that are equal as values. -/
theorem unique_check_iff_no_duplicates (hacyclic : bindings.Acyclic) (items : List Value) :
    (ListLevel.check { unique := true } bindings items = none ↔
        ∀ (i j : Nat) (hi : i < items.length) (hj : j < items.length), i ≠ j →
          ¬ Value.Duplicates bindings items[i] items[j]) ∧
      ∀ (i j : Nat) (hi : i < items.length) (hj : j < items.length), i ≠ j →
        items[i].equals items[j] = true →
          ListLevel.check { unique := true } bindings items = some .unique := by
  constructor
  · simp only [Identity.duplicates_iff_ofValue_eq hacyclic]
    exact check_unique_eq_none_iff
  · intro i j hi hj hne hequals
    exact check_unique_eq_some hi hj hne (Identity.ofValue_eq_of_equals bindings hequals)

/-- Zeros behind an enum value and a variable are duplicates and a variable is one of itself, but an integer is
    none of a floating-point number. -/
theorem unique_check_of_zeros :
    let bindings : Bindings := [("x", .list [.float Binary64.zero.neg])]
    bindings.Acyclic ∧
      ListLevel.check { unique := true } bindings [.list [.enum "ZERO" (.float .zero)], .variable "x"] ≠ none ∧
      ListLevel.check { unique := true } bindings [.variable "x", .variable "x"] = some .unique ∧
      ListLevel.check { unique := true } bindings [.int 0, .float .zero] = none := by
  intro bindings
  have hacyclic : bindings.Acyclic :=
    Bindings.acyclic_of_rank (fun _ => 0)
      (by simp [bindings, Value.variableNames, Value.variableNamesOfItems])
  have hzeros : Value.Duplicates bindings (.list [.enum "ZERO" (.float .zero)]) (.variable "x") := by
    refine .variableRight (.list rfl fun i hi _ => ?_)
    obtain rfl : i = 0 := Nat.lt_one_iff.1 hi
    exact .enumLeft (.float (.inr ⟨rfl, rfl⟩))
  have hkinds : ∀ n x, ¬ Value.Duplicates bindings (.int n) (.float x) ∧
      ¬ Value.Duplicates bindings (.float x) (.int n) := by
    intro n x
    constructor <;> rintro ⟨⟩
  refine ⟨hacyclic, fun hpasses => ?_, ?_, ?_⟩
  · exact (unique_check_iff_no_duplicates hacyclic _).1.1 hpasses 0 1 (by decide) (by decide) (by decide) hzeros
  · exact (unique_check_iff_no_duplicates hacyclic _).2 0 1 (by decide) (by decide) (by decide) rfl
  · refine (unique_check_iff_no_duplicates hacyclic _).1.2 fun i j hi hj hne => ?_
    have hpositions : i = 0 ∧ j = 1 ∨ i = 1 ∧ j = 0 := by
      simp only [List.length_cons, List.length_nil] at hi hj
      omega
    rcases hpositions with ⟨rfl, rfl⟩ | ⟨rfl, rfl⟩
    · exact (hkinds 0 .zero).1
    · exact (hkinds 0 .zero).2

end ListLevel

end SchemaConstraints
