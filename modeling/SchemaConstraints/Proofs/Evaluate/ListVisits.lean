import SchemaConstraints.Proofs.Attach.ListLevels
import SchemaConstraints.Proofs.Evaluate.Duplicates
import SchemaConstraints.Proofs.Evaluate.FirstFailing

set_option autoImplicit false

/-! # Lists and levels in pre-order

The list constraint walks down a value and a chain of levels at once. `ListOptions.visits` lists all that it
may come by, each list with its level: an outer list before the lists inside it, and these from left to
right. They are the lists that some number of steps from a list to an item reaches, as long as there are
levels (`mem_visits_iff`). The verdict is that on the first list that does not meet its level, and it names
the first thing that the level demands and the list does not meet (`verdict_on_visits`). -/

namespace SchemaConstraints

/-- A list and the level that applies to it. -/
structure ListVisit where
  level : ListLevel
  items : List Value

namespace ListVisit

variable {bindings : Bindings}

/-- What the level demands of the list, in order. -/
def demands (bindings : Bindings) (visit : ListVisit) : List Demand :=
  [⟨.minItems, ∀ min, visit.level.minItems = some min → min ≤ visit.items.length⟩,
   ⟨.maxItems, ∀ max, visit.level.maxItems = some max → visit.items.length ≤ max⟩,
   ⟨.unique, visit.level.unique = true → visit.items.Pairwise fun a b => ¬ Value.Duplicates bindings a b⟩]

theorem allDistinct_iff_no_duplicates (hacyclic : bindings.Acyclic) {items : List Value} :
    Identity.allDistinct (Identity.ofItems bindings items) = true ↔
      items.Pairwise fun a b => ¬ Value.Duplicates bindings a b := by
  rw [Identity.allDistinct_iff, Identity.ofItems_eq_map, List.Nodup, List.pairwise_map]
  simp only [Identity.duplicates_iff_ofValue_eq hacyclic, ne_eq]

theorem firstUnmet_check (hacyclic : bindings.Acyclic) (visit : ListVisit) :
    FirstUnmet (visit.demands bindings) (visit.level.check bindings visit.items) := by
  have hunique : (!visit.level.unique || Identity.allDistinct (Identity.ofItems bindings visit.items)) = true ↔
      (visit.level.unique = true → visit.items.Pairwise fun a b => ¬ Value.Duplicates bindings a b) := by
    rw [← allDistinct_iff_no_duplicates hacyclic]
    cases visit.level.unique <;> simp
  exact FirstUnmet.append
    (FirstUnmet.append (firstUnmet_setting fun _ => decide_eq_true_iff) (firstUnmet_setting fun _ => decide_eq_true_iff))
    (firstUnmet_require hunique)

end ListVisit

namespace ListOptions

variable {bindings : Bindings}

/-- The lists that levels apply to, in pre-order. What is no list is passed over, and so are lists below the last
    level. -/
def visits (bindings : Bindings) : List ListLevel → Value → List ListVisit
  | [], _ => []
  | level :: inner, value =>
    match value.resolve bindings with
    | .list items => ⟨level, items⟩ :: items.flatMap (visits bindings inner)
    | _ => []

theorem visits_of_list {level : ListLevel} {inner : List ListLevel} {value : Value} {items : List Value}
    (h : value.resolve bindings = .list items) :
    visits bindings (level :: inner) value = ⟨level, items⟩ :: items.flatMap (visits bindings inner) := by
  rw [visits, h]

theorem visits_of_not_list {levels : List ListLevel} {value : Value}
    (h : ∀ items, value.resolve bindings ≠ .list items) : visits bindings levels value = [] := by
  cases levels with
  | nil => rfl
  | cons level inner =>
    rw [visits]
    split
    · next items hitems => exact absurd hitems (h items)
    · rfl

/-- A list is visited with the level that stands as many steps down as the list is reached in. -/
theorem mem_visits_iff {levels : List ListLevel} {value : Value} {visit : ListVisit} :
    visit ∈ visits bindings levels value ↔
      ∃ n target, levels[n]? = some visit.level ∧ Value.ReachesIn bindings n value target ∧
        target.resolve bindings = .list visit.items := by
  induction levels generalizing value with
  | nil => simp [visits]
  | cons level inner ih =>
    by_cases hlist : ∃ items, value.resolve bindings = .list items
    · obtain ⟨items, hitems⟩ := hlist
      rw [visits_of_list hitems, List.mem_cons, List.mem_flatMap]
      constructor
      · rintro (rfl | ⟨item, hitem, hvisit⟩)
        · exact ⟨0, value, rfl, .refl value, hitems⟩
        · obtain ⟨n, target, hlevel, hreach, htarget⟩ := ih.1 hvisit
          exact ⟨n + 1, target, hlevel, .step hitems hitem hreach, htarget⟩
      · rintro ⟨n, target, hlevel, hreach, htarget⟩
        cases hreach with
        | refl =>
          obtain rfl := Value.list.inj (hitems.symm.trans htarget)
          obtain rfl := Option.some.inj hlevel
          exact .inl rfl
        | step hresolve hitem hreach =>
          obtain rfl := Value.list.inj (hitems.symm.trans hresolve)
          exact .inr ⟨_, hitem, ih.2 ⟨_, target, hlevel, hreach, htarget⟩⟩
    · rw [visits_of_not_list fun items hitems => hlist ⟨items, hitems⟩]
      refine ⟨fun h => by simp at h, ?_⟩
      rintro ⟨n, target, -, hreach, htarget⟩
      cases hreach with
      | refl => exact absurd ⟨_, htarget⟩ hlist
      | step hresolve => exact absurd ⟨_, hresolve⟩ hlist

/-- Walking down is looking for the first visit that fails on its own. -/
theorem firstFailing_checkLevels (hacyclic : bindings.Acyclic) (levels : List ListLevel) (value : Value) :
    FirstFailing (fun visit => FirstUnmet (visit.demands bindings)) (visits bindings levels value)
      (checkLevels bindings levels value) := by
  induction levels generalizing value with
  | nil => exact firstFailing_nil
  | cons level inner ih =>
    by_cases hlist : ∃ items, value.resolve bindings = .list items
    · obtain ⟨items, hitems⟩ := hlist
      have hcheck : checkLevels bindings (level :: inner) value =
          (level.check bindings items).or (items.findSome? (checkLevels bindings inner)) := by
        rw [checkLevels, hitems]
      have houter : FirstFailing (fun visit : ListVisit => FirstUnmet (visit.demands bindings)) [⟨level, items⟩]
          (level.check bindings items) := firstFailing_singleton (ListVisit.firstUnmet_check hacyclic ⟨level, items⟩)
      rw [visits_of_list hitems, hcheck]
      exact houter.append (firstFailing_flatMap fun item _ => ih item)
    · have hcheck : checkLevels bindings (level :: inner) value = none := by
        rw [checkLevels]
        split
        · next items hitems => exact absurd ⟨items, hitems⟩ hlist
        · rfl
      rw [visits_of_not_list fun items hitems => hlist ⟨items, hitems⟩, hcheck]
      exact firstFailing_nil

/-- **The list constraint looks for the first list, in pre-order, that does not meet its level,** and the verdict on
    that list is the first demand of the level that it does not meet. -/
theorem verdict_on_visits (hacyclic : bindings.Acyclic) (options : ListOptions) (value : Value) :
    (∀ visit, visit ∈ visits bindings options.levels value ↔
      ∃ n target, options.levels[n]? = some visit.level ∧ Value.ReachesIn bindings n value target ∧
        target.resolve bindings = .list visit.items) ∧
      FirstFailing (fun visit => FirstUnmet (visit.demands bindings)) (visits bindings options.levels value)
        (options.verdict bindings value) :=
  ⟨fun _ => mem_visits_iff, firstFailing_checkLevels hacyclic options.levels value⟩

/-- A row with duplicates, behind a variable, comes before an empty row. -/
theorem verdict_on_visits_of_rows :
    let bindings : Bindings := [("row", .list [.int 1, .enum "ONE" (.int 1)])]
    let value := Value.list [.variable "row", .null, .list []]
    let options : ListOptions := ⟨{ maxItems := some 3 }, [{ minItems := some 1, unique := true }]⟩
    let outer : ListVisit := ⟨{ maxItems := some 3 }, [.variable "row", .null, .list []]⟩
    let row : ListVisit := ⟨{ minItems := some 1, unique := true }, [.int 1, .enum "ONE" (.int 1)]⟩
    let empty : ListVisit := ⟨{ minItems := some 1, unique := true }, []⟩
    bindings.Acyclic ∧ visits bindings options.levels value = [outer, row, empty] ∧
      FirstFailing (fun visit => FirstUnmet (visit.demands bindings)) [outer, row, empty]
        (options.verdict bindings value) ∧
      options.verdict bindings value = some .unique := by
  intro bindings value options outer row empty
  have hacyclic : bindings.Acyclic :=
    Bindings.acyclic_of_rank (fun _ => 0) (by simp [bindings, Value.variableNames, Value.variableNamesOfItems])
  have hverdict : FirstFailing (fun visit => FirstUnmet (visit.demands bindings)) [outer, row, empty]
      (options.verdict bindings value) := (verdict_on_visits hacyclic options value).2
  have hrow : FirstUnmet (row.demands bindings) (some .unique) := by
    refine ⟨[_, _], _, [], rfl, ?_, fun hpairwise => ?_, rfl⟩
    · simp [row, Demand.Decides]
    · have hone : Value.Duplicates bindings (.int 1) (.enum "ONE" (.int 1)) := .enumRight (.int 1)
      exact List.rel_of_pairwise_cons (hpairwise rfl) List.mem_cons_self hone
  have hfirst : FirstFailing (fun visit => FirstUnmet (visit.demands bindings)) [outer, row, empty] (some .unique) := by
    refine ⟨[outer], row, [empty], rfl, List.forall_mem_singleton.2 fun demand hdemand => ?_, hrow⟩
    simp [ListVisit.demands, outer] at hdemand
    rcases hdemand with rfl | rfl | rfl <;> simp [Demand.Decides]
  exact ⟨hacyclic, rfl, hverdict, hverdict.unique (fun _ _ _ hv hw => hv.unique hw) hfirst⟩

end ListOptions

end SchemaConstraints
