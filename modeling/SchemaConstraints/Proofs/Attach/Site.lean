import SchemaConstraints.Proofs.Attach.Steps
import SchemaConstraints.Site

set_option autoImplicit false

/-! # The directives of a site

The directives of an element are attached one after the other, and a set of constraints is filled on the
way. A directive never sees the ones before it: it may only find its family taken. So attaching succeeds
exactly if each directive is attached on its own and no two are of one family
(`exists_foldlM_attachTo_iff`), what the site then holds is known directive by directive
(`get?_of_foldlM_attachTo`), and neither depends on the order of the directives. -/

namespace SchemaConstraints

/-! ## Sets of constraints -/

namespace ConstraintSet

variable {set : ConstraintSet} {constraint : Constraint}

/-- A set is what it has of each family. -/
theorem ext_get? {a b : ConstraintSet} (h : ∀ family, a.get? family = b.get? family) : a = b := by
  have hscalar := h .scalar
  have hlist := h .list
  have hobject := h .object
  have hupload := h .upload
  obtain ⟨_, _, _, _⟩ := a
  obtain ⟨_, _, _, _⟩ := b
  simp only [get?] at hscalar hlist hobject hupload
  rw [Option.map_injective (fun _ _ => Constraint.scalar.inj) hscalar,
    Option.map_injective (fun _ _ => Constraint.list.inj) hlist,
    Option.map_injective (fun _ _ => Constraint.object.inj) hobject,
    Option.map_injective (fun _ _ => Constraint.upload.inj) hupload]

theorem get?_put (set : ConstraintSet) (constraint : Constraint) (family : Family) :
    (set.put constraint).get? family = if family = constraint.family then some constraint else set.get? family := by
  split
  · next hfamily => rw [hfamily, get?_put_self]
  · next hfamily => exact get?_put_of_ne hfamily

/-- A constraint is added where its family is not there yet. -/
theorem insert?_eq_some_iff {next : ConstraintSet} :
    set.insert? constraint = some next ↔ set.get? constraint.family = none ∧ set.put constraint = next := by
  rw [insert?, contains, Option.ite_none_left_eq_some, Option.not_isSome_iff_eq_none, Option.some.injEq]

theorem get?_put_eq_none_iff {family : Family} :
    (set.put constraint).get? family = none ↔ family ≠ constraint.family ∧ set.get? family = none := by
  rw [get?_put]
  by_cases hfamily : family = constraint.family <;> simp [hfamily]

/-- What is added to a free place stands beside what was there. -/
theorem get?_put_eq_some_iff (hfree : set.get? constraint.family = none) {family : Family} {other : Constraint} :
    (set.put constraint).get? family = some other ↔
      set.get? family = some other ∨ constraint = other ∧ family = constraint.family := by
  rw [get?_put]
  by_cases hfamily : family = constraint.family
  · subst hfamily
    simp [hfree]
  · simp [hfamily]

end ConstraintSet

namespace Registry

variable {registry : Registry} {site last : Site} {directives : List (String × Json)}

/-! ## One directive -/

/-- One more directive is attached exactly if it is attached to the element on its own and finds its family
    free. -/
theorem attachTo_eq_ok_iff {directive : String × Json} :
    registry.attachTo site directive = .ok last ↔
      ∃ constraint, registry.attach site.element directive.1 directive.2 = .ok constraint ∧
        site.constraints.get? constraint.family = none ∧
        { site with constraints := site.constraints.put constraint } = last := by
  rw [attachTo, Except.bind_eq_ok_iff]
  refine exists_congr fun constraint => and_congr_right fun _ => ?_
  cases hinsert : site.constraints.insert? constraint with
  | some constraints =>
    obtain ⟨hfree, rfl⟩ := ConstraintSet.insert?_eq_some_iff.1 hinsert
    simp [hfree, pure, Except.pure]
  | none =>
    have htaken : site.constraints.get? constraint.family ≠ none := by
      intro hfree
      rw [ConstraintSet.insert?_eq_some_iff.2 ⟨hfree, rfl⟩] at hinsert
      exact Option.some_ne_none _ hinsert
    simp [htaken]

/-! ## All directives -/

/-- Directives that are attached are of one family if what they attach is. -/
theorem familyOf?_eq_iff_of_attach {element : SchemaElement} {d e : String × Json} {c c' : Constraint}
    (hd : registry.attach element d.1 d.2 = .ok c) (he : registry.attach element e.1 e.2 = .ok c') :
    registry.familyOf? d.1 = registry.familyOf? e.1 ↔ c'.family = c.family := by
  rw [familyOf?_of_attach hd, familyOf?_of_attach he, Option.some.injEq]
  exact eq_comm

/-- Directives are attached to a site exactly if each of them is attached to its element on its own and finds
    its family free, and no two are of one family. -/
theorem exists_foldlM_attachTo_iff :
    (∃ last, directives.foldlM registry.attachTo site = .ok last) ↔
      (∀ d ∈ directives, ∃ constraint, registry.attach site.element d.1 d.2 = .ok constraint ∧
        site.constraints.get? constraint.family = none) ∧
      directives.Pairwise fun d e => registry.familyOf? d.1 ≠ registry.familyOf? e.1 := by
  induction directives generalizing site with
  | nil => simp [pure, Except.pure]
  | cons d rest ih =>
    simp only [List.foldlM_cons, Except.bind_eq_ok_iff, List.forall_mem_cons, List.pairwise_cons]
    constructor
    · rintro ⟨last, next, hstep, hrest⟩
      obtain ⟨constraint, hattach, hfree, rfl⟩ := attachTo_eq_ok_iff.1 hstep
      obtain ⟨hothers, hpairwise⟩ := ih.1 ⟨last, hrest⟩
      refine ⟨⟨⟨constraint, hattach, hfree⟩, fun e he => ?_⟩, fun e he => ?_, hpairwise⟩
      · obtain ⟨other, hother, hnone⟩ := hothers e he
        exact ⟨other, hother, (ConstraintSet.get?_put_eq_none_iff.1 hnone).2⟩
      · obtain ⟨other, hother, hnone⟩ := hothers e he
        exact mt (familyOf?_eq_iff_of_attach hattach hother).1 (ConstraintSet.get?_put_eq_none_iff.1 hnone).1
    · rintro ⟨⟨⟨constraint, hattach, hfree⟩, hothers⟩, hfamilies, hpairwise⟩
      have hstep := attachTo_eq_ok_iff.2 ⟨constraint, hattach, hfree, rfl⟩
      suffices hrest : ∃ last, rest.foldlM registry.attachTo
          { site with constraints := site.constraints.put constraint } = .ok last by
        obtain ⟨last, hlast⟩ := hrest
        exact ⟨last, _, hstep, hlast⟩
      refine ih.2 ⟨fun e he => ?_, hpairwise⟩
      obtain ⟨other, hother, hnone⟩ := hothers e he
      have hne := mt (familyOf?_eq_iff_of_attach hattach hother).2 (hfamilies e he)
      exact ⟨other, hother, ConstraintSet.get?_put_eq_none_iff.2 ⟨hne, hnone⟩⟩

/-- After some directives a site holds what it held before, and what each of them attaches. -/
theorem get?_of_foldlM_attachTo (h : directives.foldlM registry.attachTo site = .ok last) :
    last.element = site.element ∧ ∀ family constraint, last.constraints.get? family = some constraint ↔
      site.constraints.get? family = some constraint ∨
        ∃ d ∈ directives, registry.attach site.element d.1 d.2 = .ok constraint ∧ family = constraint.family := by
  induction directives generalizing site with
  | nil =>
    obtain rfl := Except.ok.inj h
    simp
  | cons d rest ih =>
    rw [List.foldlM_cons, Except.bind_eq_ok_iff] at h
    obtain ⟨next, hstep, hrest⟩ := h
    obtain ⟨attached, hattach, hfree, rfl⟩ := attachTo_eq_ok_iff.1 hstep
    obtain ⟨helement, hholds⟩ := ih hrest
    refine ⟨helement, fun family constraint => ?_⟩
    rw [hholds, ConstraintSet.get?_put_eq_some_iff hfree]
    simp only [List.exists_mem_cons_iff, hattach, Except.ok.injEq, or_assoc]
    refine or_congr_right (or_congr_left (and_congr_right fun heq => ?_))
    rw [heq]

/-! ## The site of an element -/

section Site

variable {element : SchemaElement} {directives' : List (String × Json)}

theorem get?_empty (family : Family) : ConstraintSet.empty.get? family = none := by
  cases family <;> rfl

theorem exists_site_iff :
    (∃ site, registry.site element directives = .ok site) ↔
      (∀ d ∈ directives, ∃ constraint, registry.attach element d.1 d.2 = .ok constraint) ∧
        directives.Pairwise fun d e => registry.familyOf? d.1 ≠ registry.familyOf? e.1 := by
  simp only [Registry.site, exists_foldlM_attachTo_iff, get?_empty, and_true]

theorem get?_of_site (h : registry.site element directives = .ok site) :
    site.element = element ∧ ∀ family constraint, site.constraints.get? family = some constraint ↔
      ∃ d ∈ directives, registry.attach element d.1 d.2 = .ok constraint ∧ family = constraint.family := by
  obtain ⟨helement, hholds⟩ := get?_of_foldlM_attachTo h
  refine ⟨helement, fun family constraint => ?_⟩
  rw [hholds, get?_empty]
  simp

theorem site_of_perm (hperm : directives.Perm directives') (h : registry.site element directives = .ok site) :
    registry.site element directives' = .ok site := by
  obtain ⟨hattached, hfamilies⟩ := exists_site_iff.1 ⟨site, h⟩
  have hattached' : ∀ d ∈ directives', ∃ constraint, registry.attach element d.1 d.2 = .ok constraint :=
    fun d hd => hattached d (hperm.mem_iff.2 hd)
  have hfamilies' : directives'.Pairwise fun d e => registry.familyOf? d.1 ≠ registry.familyOf? e.1 :=
    (hperm.pairwise_iff Ne.symm).1 hfamilies
  obtain ⟨site', h'⟩ := exists_site_iff.2 ⟨hattached', hfamilies'⟩
  obtain ⟨helement, hholds⟩ := get?_of_site h
  obtain ⟨helement', hholds'⟩ := get?_of_site h'
  -- both sites hold the same of each family, since the same directives give it
  have hconstraints : site'.constraints = site.constraints := by
    refine ConstraintSet.ext_get? fun family => Option.ext fun constraint => ?_
    rw [hholds', hholds]
    exact exists_congr fun d => and_congr_left' hperm.mem_iff.symm
  have hsite : site' = site := by
    obtain ⟨_, _⟩ := site
    obtain ⟨_, _⟩ := site'
    rw [Site.mk.injEq]
    exact ⟨helement'.trans helement.symm, hconstraints⟩
  rw [h', hsite]

end Site

/-- **A site does not depend on the order of its directives.** It exists exactly if each directive is attached
    to the element on its own and no two are of one family. It then holds for each family what the directive of
    that family attaches, and nothing for the others. The directives in any other order give the same site, or
    none if these give none. -/
theorem site_independent_of_order (registry : Registry) (element : SchemaElement)
    (directives : List (String × Json)) :
    ((∃ site, registry.site element directives = .ok site) ↔
      (∀ d ∈ directives, ∃ constraint, registry.attach element d.1 d.2 = .ok constraint) ∧
        directives.Pairwise fun d e => registry.familyOf? d.1 ≠ registry.familyOf? e.1) ∧
    (∀ site, registry.site element directives = .ok site →
      site.element = element ∧ ∀ family constraint, site.constraints.get? family = some constraint ↔
        ∃ d ∈ directives, registry.attach element d.1 d.2 = .ok constraint ∧ family = constraint.family) ∧
    ∀ directives', directives.Perm directives' →
      (registry.site element directives').toOption = (registry.site element directives).toOption := by
  refine ⟨exists_site_iff, fun site => get?_of_site, fun directives' hperm => ?_⟩
  cases h : registry.site element directives with
  | ok site => rw [site_of_perm hperm h]
  | error failed =>
    cases h' : registry.site element directives' with
    | ok site =>
      rw [site_of_perm hperm.symm h'] at h
      simp at h
    | error failed' => rfl

/-- Two directives of a list of texts, in both orders. -/
theorem site_of_tags_in_both_orders :
    let tags := SchemaElement.field "Post" "tags" (.list TypeRef.string)
    let allowed := ("constraint", Json.object [("oneOf", .array [.string "a", .string "b"])])
    let distinct := ("listConstraint", Json.object [("unique", .bool true)])
    let site : Site :=
      ⟨tags, { scalar := some { oneOf := some [.string "a", .string "b"] }, list := some ⟨{ unique := true }, []⟩ }⟩
    default.site tags [allowed, distinct] = .ok site ∧
    [allowed, distinct].Perm [distinct, allowed] ∧
    (site.element = tags ∧ ∀ family constraint, site.constraints.get? family = some constraint ↔
      ∃ d ∈ [allowed, distinct], default.attach tags d.1 d.2 = .ok constraint ∧ family = constraint.family) ∧
    (default.site tags [distinct, allowed]).toOption = (default.site tags [allowed, distinct]).toOption := by
  intro tags allowed distinct site
  have hallowed : default.attach tags allowed.1 allowed.2 =
      .ok (.scalar { oneOf := some [.string "a", .string "b"] }) := by
    refine attach_eq_ok_iff.2 ⟨.scalar, .scalar { oneOf := some [.string "a", .string "b"] }, rfl,
      readArguments_eq_ok_iff.2 ⟨_, rfl, ?_, rfl⟩, rfl, rfl, rfl⟩
    rw [ArgumentDefinition.firstInvalid_eq_none_iff]
    simp +decide [Family.arguments, ArgumentDefinition.ofScalar, Fields.find?]
  have hdistinct : default.attach tags distinct.1 distinct.2 = .ok (.list ⟨{ unique := true }, []⟩) := by
    refine attach_eq_ok_iff.2 ⟨.list, .list ⟨{ unique := true }, []⟩, rfl,
      readArguments_eq_ok_iff.2 ⟨_, rfl, ?_, rfl⟩, rfl, rfl, rfl⟩
    rw [ArgumentDefinition.firstInvalid_eq_none_iff]
    simp +decide [Family.arguments, ArgumentDefinition.ofList, Fields.find?]
  have hfirst : default.attachTo { element := tags } allowed =
      .ok ⟨tags, { scalar := some { oneOf := some [.string "a", .string "b"] } }⟩ :=
    attachTo_eq_ok_iff.2 ⟨_, hallowed, rfl, rfl⟩
  have hsecond : default.attachTo ⟨tags, { scalar := some { oneOf := some [.string "a", .string "b"] } }⟩ distinct =
      .ok site :=
    attachTo_eq_ok_iff.2 ⟨_, hdistinct, rfl, rfl⟩
  have hsite : default.site tags [allowed, distinct] = .ok site := by
    rw [Registry.site, List.foldlM_cons, Except.bind_eq_ok_iff]
    refine ⟨_, hfirst, ?_⟩
    rw [List.foldlM_cons, Except.bind_eq_ok_iff]
    exact ⟨_, hsecond, rfl⟩
  have hperm : [allowed, distinct].Perm [distinct, allowed] := .swap _ _ _
  have hindependent := site_independent_of_order default tags [allowed, distinct]
  exact ⟨hsite, hperm, hindependent.2.1 site hsite, hindependent.2.2 _ hperm⟩

end Registry

end SchemaConstraints
