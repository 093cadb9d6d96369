import SchemaConstraints.Proofs.Attach.Suits
import SchemaConstraints.Proofs.Evaluate.Identity

set_option autoImplicit false

/-! # No level of an attached list constraint is out of reach

Evaluation goes down one level with each step from a list to its items, and stops without a word where a
value is no list. On values that have lists where the type of the element has them, this never happens
above the depth of attached options (`null_or_list_of_reachesIn`): options that suit an element have no
more levels than its type has lists. So the verdict is that all lists of each level meet the options of
that level (`attached_list_verdict_eq_none_iff`). -/

namespace SchemaConstraints

/-! ## Values of a type and their levels -/

namespace Value

/-- The value has lists where the type has them, each of which may be null. -/
def Conforms (bindings : Bindings) : TypeRef → Value → Prop
  | .named _, _ => True
  | .nonNull inner, value => Conforms bindings inner value
  | .list inner, value =>
    value.resolve bindings = .null ∨
      ∃ items, value.resolve bindings = .list items ∧ ∀ item ∈ items, Conforms bindings inner item

/-- The second value is reached from the first by a number of steps from a list to one of its items. -/
inductive ReachesIn (bindings : Bindings) : Nat → Value → Value → Prop
  | refl (value : Value) : ReachesIn bindings 0 value value
  | step {value item target : Value} {items : List Value} {n : Nat} (h : value.resolve bindings = .list items)
      (hitem : item ∈ items) (hreach : ReachesIn bindings n item target) : ReachesIn bindings (n + 1) value target

variable {bindings : Bindings} {value target : Value} {n : Nat}

/-- Down to the innermost list wrapper of its type, a value is made of lists and nulls. -/
theorem null_or_list_of_reachesIn {type : TypeRef} (hvalue : value.Conforms bindings type)
    (hn : n < type.listDepth) (hreach : ReachesIn bindings n value target) :
    target.resolve bindings = .null ∨ ∃ items, target.resolve bindings = .list items := by
  induction type generalizing value n with
  | named => simp [TypeRef.listDepth] at hn
  | nonNull inner ih => exact ih hvalue hn hreach
  | list inner ih =>
    cases hreach with
    | refl => exact hvalue.imp_right fun ⟨items, hitems, _⟩ => ⟨items, hitems⟩
    | step hitems hitem hreach =>
      rcases hvalue with hnull | ⟨items, hresolve, hconforms⟩
      · simp [hitems] at hnull
      · obtain rfl := Value.list.inj (hitems.symm.trans hresolve)
        exact ih (hconforms _ hitem) (Nat.lt_of_succ_lt_succ hn) hreach

end Value

/-! ## What a level demands -/

/-- The list has an allowed number of items, and no two of them are duplicates where the level forbids it. -/
structure ListLevel.Meets (bindings : Bindings) (items : List Value) (level : ListLevel) : Prop where
  minItems : ∀ min, level.minItems = some min → min ≤ items.length
  maxItems : ∀ max, level.maxItems = some max → items.length ≤ max
  unique : level.unique = true →
    items.Pairwise fun a b => Identity.ofValue bindings a ≠ Identity.ofValue bindings b

theorem ListLevel.check_eq_none_iff {bindings : Bindings} {items : List Value} {level : ListLevel} :
    level.check bindings items = none ↔ level.Meets bindings items := by
  simp only [check, Option.or_eq_none_iff, Check.require_eq_none_iff, Option.all_eq_true, decide_eq_true_eq,
    Bool.or_eq_true, Bool.not_eq_true', Identity.allDistinct_iff, Identity.ofItems_eq_map, List.Nodup,
    List.pairwise_map]
  constructor
  · rintro ⟨⟨hmin, hmax⟩, hunique⟩
    exact ⟨hmin, hmax, fun h => hunique.resolve_left (by simp [h])⟩
  · intro h
    refine ⟨⟨h.minItems, h.maxItems⟩, ?_⟩
    cases hunique : level.unique with
    | false => exact .inl rfl
    | true => exact .inr (h.unique hunique)

namespace ListOptions

variable {bindings : Bindings} {value : Value}

/-- A value passes if the lists of each level meet the options of that level. -/
theorem checkLevels_eq_none_iff {levels : List ListLevel} :
    checkLevels bindings levels value = none ↔
      ∀ n level, levels[n]? = some level → ∀ target items, Value.ReachesIn bindings n value target →
        target.resolve bindings = .list items → level.Meets bindings items := by
  induction levels generalizing value with
  | nil => simp [checkLevels]
  | cons level inner ih =>
    constructor
    · intro h n other hother target items hreach hitems
      cases hreach with
      | refl =>
        obtain rfl : level = other := by simpa using hother
        rw [checkLevels, hitems] at h
        exact ListLevel.check_eq_none_iff.1 (Option.or_eq_none_iff.1 h).1
      | step hresolve hitem hreach =>
        rw [checkLevels, hresolve] at h
        have hbelow := List.findSome?_eq_none_iff.1 (Option.or_eq_none_iff.1 h).2 _ hitem
        exact ih.1 hbelow _ other (by simpa using hother) target items hreach hitems
    · intro h
      rw [checkLevels]
      split
      · next items hitems =>
        rw [Option.or_eq_none_iff, ListLevel.check_eq_none_iff, List.findSome?_eq_none_iff]
        refine ⟨h 0 level rfl value items (.refl value) hitems, fun item hitem => ih.2 ?_⟩
        intro n other hother target inside hreach
        exact h (n + 1) other hother target inside (.step hitems hitem hreach)
      · rfl

/-- On values with as many lists as there are levels, every value of a level is null or a list that meets the
    options of the level. -/
theorem verdict_eq_none_iff_of_conforms {options : ListOptions} {type : TypeRef}
    (hdepth : options.depth ≤ type.listDepth) (hvalue : value.Conforms bindings type) :
    options.verdict bindings value = none ↔
      ∀ n level, options.levels[n]? = some level → ∀ target, Value.ReachesIn bindings n value target →
        target.resolve bindings = .null ∨
          ∃ items, target.resolve bindings = .list items ∧ level.Meets bindings items := by
  rw [verdict, checkLevels_eq_none_iff]
  refine forall₂_congr fun n level => forall_congr' fun hlevel => forall_congr' fun target => ?_
  have hn : n < type.listDepth :=
    Nat.lt_of_lt_of_le (List.getElem?_eq_some_iff.1 hlevel).1 hdepth
  constructor
  · intro h hreach
    refine (Value.null_or_list_of_reachesIn hvalue hn hreach).imp_right fun ⟨items, hitems⟩ => ?_
    exact ⟨items, hitems, h items hreach hitems⟩
  · intro h items hreach hitems
    rcases h hreach with hnull | ⟨_, hresolve, hmeets⟩
    · simp [hitems] at hnull
    · exact Value.list.inj (hresolve.symm.trans hitems) ▸ hmeets

end ListOptions

/-! ## Attached constraints -/

namespace Registry

variable {registry : Registry} {element : SchemaElement} {directive : String} {arguments : Json}
  {options : ListOptions}

/-- **No level of an attached list constraint is out of reach.** -/
theorem attached_list_verdict_eq_none_iff
    (h : registry.attach element directive arguments = .ok (.list options)) {bindings : Bindings} {value : Value}
    (hvalue : value.Conforms bindings element.type) :
    (∀ n < options.depth, ∀ target, Value.ReachesIn bindings n value target →
        target.resolve bindings = .null ∨ ∃ items, target.resolve bindings = .list items) ∧
      (options.verdict bindings value = none ↔
        ∀ n level, options.levels[n]? = some level → ∀ target, Value.ReachesIn bindings n value target →
          target.resolve bindings = .null ∨
            ∃ items, target.resolve bindings = .list items ∧ level.Meets bindings items) := by
  have hsuits : options.Suits element := suits_of_attach h
  refine ⟨fun n hn target hreach => ?_, ListOptions.verdict_eq_none_iff_of_conforms hsuits.depth hvalue⟩
  exact Value.null_or_list_of_reachesIn hvalue (Nat.lt_of_lt_of_le hn hsuits.depth) hreach

/-- Two levels on lists of lists. -/
theorem attached_list_verdict_of_matrix :
    let matrix := SchemaElement.argument "Query" "solve" "matrix" (.nonNull (.list (.nonNull (.list TypeRef.int))))
    let arguments := Json.object [("innerList", .object [("unique", .bool true)]), ("unique", .bool true)]
    let options : ListOptions := ⟨{ unique := true }, [{ unique := true }]⟩
    let bindings : Bindings := [("row", .list [.int 1, .int 1])]
    let value := Value.list [.variable "row", .null]
    default.attach matrix "listConstraint" arguments = .ok (.list options) ∧ value.Conforms bindings matrix.type ∧
      (∀ n < options.depth, ∀ target, Value.ReachesIn bindings n value target →
        target.resolve bindings = .null ∨ ∃ items, target.resolve bindings = .list items) ∧
      (options.verdict bindings value = none ↔
        ∀ n level, options.levels[n]? = some level → ∀ target, Value.ReachesIn bindings n value target →
          target.resolve bindings = .null ∨
            ∃ items, target.resolve bindings = .list items ∧ level.Meets bindings items) := by
  intro matrix arguments options bindings value
  have hattach : default.attach matrix "listConstraint" arguments = .ok (.list options) := attach_unique_levels rfl rfl
  have hvalue : value.Conforms bindings matrix.type := by
    refine .inr ⟨_, rfl, ?_⟩
    rw [List.forall_mem_cons, List.forall_mem_singleton]
    exact ⟨.inr ⟨[.int 1, .int 1], rfl, fun _ _ => trivial⟩, .inl rfl⟩
  exact ⟨hattach, hvalue, attached_list_verdict_eq_none_iff hattach hvalue⟩

end Registry

end SchemaConstraints
