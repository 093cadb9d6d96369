import SchemaConstraints.Constraint
import SchemaConstraints.Proofs.Evaluate.Acyclic
import SchemaConstraints.Proofs.Evaluate.FirstFailing
import SchemaConstraints.Proofs.Evaluate.Scalar

set_option autoImplicit false

/-! # What each leaf of a value faces

The scalar, upload and presence constraints look at the leaves of a value alone: lists are opened, at any
depth and through variables, and it does not matter how the leaves were nested. `Value.HasLeaves` says
which sequence that is by resolving and opening, without evaluating anything, and on acyclic bindings every
value has exactly one (`hasLeaves_iff`). The verdict is that on the first leaf that does not meet all of
its own demands, and it names the first of them that the leaf does not meet (`verdicts_on_leaves`). -/

namespace SchemaConstraints

/-! ## The leaves of a value, by opening lists -/

namespace Value

/-- The values that are no lists which resolving a value and opening lists leads to, from left to right. What a
    variable is bound to is a leaf even if it is a variable again. -/
inductive HasLeaves (bindings : Bindings) : Value → List Value → Prop
  | leaf {value : Value} (h : ∀ items, value.resolve bindings ≠ .list items) :
    HasLeaves bindings value [value.resolve bindings]
  | list {value : Value} {items : List Value} {parts : List (List Value)} (h : value.resolve bindings = .list items)
    (hlength : items.length = parts.length)
    (hparts : ∀ (i : Nat) (hi : i < items.length) (hp : i < parts.length), HasLeaves bindings items[i] parts[i]) :
    HasLeaves bindings value parts.flatten

variable {bindings : Bindings}

theorem leavesOfItems_eq_flatMap (bindings : Bindings) (items : List Value) :
    leavesOfItems bindings items = items.flatMap (leaves bindings) := by
  induction items with
  | nil => simp [leavesOfItems]
  | cons item items ih => rw [leavesOfItems, ih, List.flatMap_cons]

theorem hasLeaves_leaves (hacyclic : bindings.Acyclic) (value : Value) :
    value.HasLeaves bindings (value.leaves bindings) := by
  induction value using induction_of_acyclic hacyclic with
  | step value ih =>
    by_cases hlist : ∃ items, value.resolve bindings = .list items
    · obtain ⟨items, hitems⟩ := hlist
      have hleaves : value.leaves bindings = (items.map (leaves bindings)).flatten := by
        rw [leaves_of_acyclic hacyclic, hitems, ← List.flatMap_def]
        exact leavesOfItems_eq_flatMap bindings items
      rw [hitems] at ih
      rw [hleaves]
      refine .list hitems (by simp) fun i hi hp => ?_
      rw [List.getElem_map]
      exact ih items[i] (List.getElem_mem hi)
    · have hleaf : value.leaves bindings = [value.resolve bindings] := by
        rw [leaves_of_acyclic hacyclic]
        split
        · next items hitems => exact absurd ⟨items, hitems⟩ hlist
        · rfl
      rw [hleaf]
      exact .leaf fun items hitems => hlist ⟨items, hitems⟩

theorem HasLeaves.unique {value : Value} {leaves others : List Value} (h : value.HasLeaves bindings leaves)
    (hothers : value.HasLeaves bindings others) : leaves = others := by
  induction h generalizing others with
  | leaf hleaf =>
    cases hothers with
    | leaf => rfl
    | list hitems => exact absurd hitems (hleaf _)
  | list hitems hlength _ ih =>
    cases hothers with
    | leaf hleaf => exact absurd hitems (hleaf _)
    | list hitems' hlength' hparts' =>
      obtain rfl := Value.list.inj (hitems.symm.trans hitems')
      refine congrArg List.flatten (List.ext_getElem (hlength.symm.trans hlength') fun i hi hi' => ?_)
      exact ih i (hlength ▸ hi) hi (hparts' i (hlength ▸ hi) hi')

/-- On acyclic bindings a value has one sequence of leaves. -/
theorem hasLeaves_iff (hacyclic : bindings.Acyclic) {value : Value} {leaves : List Value} :
    value.HasLeaves bindings leaves ↔ leaves = value.leaves bindings := by
  constructor
  · exact fun h => h.unique (hasLeaves_leaves hacyclic value)
  · rintro rfl
    exact hasLeaves_leaves hacyclic value

end Value

/-! ## Scalars -/

namespace ScalarOptions

variable {options : ScalarOptions}

/-- What a number must meet. A bound that cannot be compared demands nothing. -/
def numberDemands (options : ScalarOptions) (n : Number) : List Demand :=
  [⟨.min, ∀ min, options.min = some min → n.less min = false⟩,
   ⟨.max, ∀ max, options.max = some max → max.less n = false⟩]

/-- What a string must meet. -/
def stringDemands (options : ScalarOptions) (s : String) : List Demand :=
  [⟨.minLength, ∀ min, options.minLength = some min → min ≤ s.length⟩,
   ⟨.maxLength, ∀ max, options.maxLength = some max → s.length ≤ max⟩,
   ⟨.regex, ∀ pattern, options.regex = some pattern → pattern.matchesIn s = true⟩]

/-- What a value that is not null must meet besides, whatever its kind. -/
def oneOfDemand (options : ScalarOptions) (value : Value) : Demand :=
  ⟨.oneOf, ∀ allowed, options.oneOf = some allowed → ∃ entry ∈ allowed, entry.matchesValue value = true⟩

/-- What a leaf must meet, in order. An enum value must meet what the value that it stands for must meet, except
    that it is not excused if that is null. -/
def leafDemands (options : ScalarOptions) (leaf : Value) : List Demand :=
  if leaf.isNull then []
  else
    match leaf.underlying with
    | .int n => options.numberDemands (.int n) ++ [options.oneOfDemand leaf]
    | .float x => options.numberDemands (.float x) ++ [options.oneOfDemand leaf]
    | .string s => options.stringDemands s ++ [options.oneOfDemand leaf]
    | _ => [options.oneOfDemand leaf]

theorem firstUnmet_checkNumber (options : ScalarOptions) (n : Number) :
    FirstUnmet (options.numberDemands n) (options.checkNumber n) :=
  FirstUnmet.append (firstUnmet_setting fun min => by rw [Bool.not_eq_true'])
    (firstUnmet_setting fun max => by rw [Bool.not_eq_true'])

theorem firstUnmet_checkString (options : ScalarOptions) (s : String) :
    FirstUnmet (options.stringDemands s) (options.checkString s) :=
  FirstUnmet.append
    (FirstUnmet.append (firstUnmet_setting fun _ => decide_eq_true_iff) (firstUnmet_setting fun _ => decide_eq_true_iff))
    (firstUnmet_setting fun _ => Iff.rfl)

theorem firstUnmet_checkOneOf (options : ScalarOptions) (value : Value) :
    FirstUnmet [options.oneOfDemand value] (options.checkOneOf value.underlying) := by
  refine firstUnmet_setting fun allowed => ?_
  simp only [List.any_eq_true, Scalar.matchesValue, value.underlying_underlying]

theorem firstUnmet_checkLeaf (options : ScalarOptions) (leaf : Value) :
    FirstUnmet (options.leafDemands leaf) (options.checkLeaf leaf) := by
  have honeOf := options.firstUnmet_checkOneOf leaf
  unfold leafDemands
  by_cases hnull : leaf = .null
  · subst hnull
    exact firstFailing_nil
  · have hcheck : options.checkLeaf leaf =
        (options.checkKind leaf.underlying).or (options.checkOneOf leaf.underlying) := by
      cases leaf with
      | null => exact absurd rfl hnull
      | _ => rfl
    have hisNull : leaf.isNull = false := by
      cases leaf with
      | null => exact absurd rfl hnull
      | _ => rfl
    rw [hcheck, hisNull, if_neg Bool.false_ne_true]
    generalize leaf.underlying = value at honeOf ⊢
    cases value with
    | int n => exact (options.firstUnmet_checkNumber (.int n)).append honeOf
    | float x => exact (options.firstUnmet_checkNumber (.float x)).append honeOf
    | string s => exact (options.firstUnmet_checkString s).append honeOf
    | _ => exact honeOf

end ScalarOptions

/-! ## Files -/

namespace UploadOptions

/-- What a leaf must meet, in order; only files have to meet anything. -/
def leafDemands (options : UploadOptions) : Value → List Demand
  | .upload file =>
    [⟨.maxSize, ∀ max, options.maxSize = some max → file.size ≤ max⟩,
     ⟨.mimeType, ∀ allowed, options.mimeTypes = some allowed → file.mimeType ∈ allowed⟩]
  | _ => []

theorem firstUnmet_checkLeaf (options : UploadOptions) (leaf : Value) :
    FirstUnmet (options.leafDemands leaf) (options.checkLeaf leaf) := by
  cases leaf with
  | upload file =>
    exact FirstUnmet.append (firstUnmet_setting fun max => decide_eq_true_iff)
      (firstUnmet_setting fun allowed => List.contains_iff_mem)
  | _ => exact firstFailing_nil

end UploadOptions

/-! ## Objects -/

namespace PresenceOptions

/-- What a leaf must meet, in order; only objects have to meet anything, which is the rules that are set. -/
def leafDemands (options : PresenceOptions) (bindings : Bindings) : Value → List Demand
  | .object shape fields =>
    options.rules.map fun configured =>
      ⟨configured.check, configured.rule.holds configured.quota bindings shape fields = true⟩
  | _ => []

theorem firstUnmet_checkLeaf (options : PresenceOptions) (bindings : Bindings) (leaf : Value) :
    FirstUnmet (options.leafDemands bindings leaf) (options.checkLeaf bindings leaf) := by
  cases leaf with
  | object shape fields => exact firstFailing_map fun _ _ => decides_require Iff.rfl
  | _ => exact firstFailing_nil

end PresenceOptions

/-! ## Verdicts on leaves -/

namespace Value

variable {bindings : Bindings}

/-- Checking the leaves of a value gives the verdict on the first leaf that fails on its own. -/
theorem firstFailing_checkLeaves {check : Value → Verdict} {demands : Value → List Demand}
    (h : ∀ leaf, FirstUnmet (demands leaf) (check leaf)) (value : Value) :
    FirstFailing (fun leaf => FirstUnmet (demands leaf)) (value.leaves bindings) (value.checkLeaves check bindings) := by
  rw [checkLeaves_eq_findSome?]
  exact firstFailing_findSome? fun leaf _ => h leaf

/-- **The scalar, upload and presence constraints look for the first leaf that fails,** and the verdict on that leaf
    is the first of its demands that it does not meet. Null has to meet nothing. -/
theorem verdicts_on_leaves (hacyclic : bindings.Acyclic) (value : Value) :
    ∃ leaves, (∀ others, value.HasLeaves bindings others ↔ others = leaves) ∧
      (∀ options : ScalarOptions, options.leafDemands .null = [] ∧
        FirstFailing (fun leaf => FirstUnmet (options.leafDemands leaf)) leaves (options.verdict bindings value)) ∧
      (∀ options : UploadOptions, options.leafDemands .null = [] ∧
        FirstFailing (fun leaf => FirstUnmet (options.leafDemands leaf)) leaves (options.verdict bindings value)) ∧
      ∀ options : PresenceOptions, options.leafDemands bindings .null = [] ∧
        FirstFailing (fun leaf => FirstUnmet (options.leafDemands bindings leaf)) leaves
          (options.verdict bindings value) := by
  refine ⟨value.leaves bindings, fun others => hasLeaves_iff hacyclic, ?_, ?_, ?_⟩
  · exact fun options => ⟨rfl, firstFailing_checkLeaves options.firstUnmet_checkLeaf value⟩
  · exact fun options => ⟨rfl, firstFailing_checkLeaves options.firstUnmet_checkLeaf value⟩
  · exact fun options => ⟨rfl, firstFailing_checkLeaves (options.firstUnmet_checkLeaf bindings) value⟩

/-- A number that is too small, behind a variable and after a null. -/
theorem verdict_on_leaves_of_prices :
    let bindings : Bindings := [("prices", .list [.int 15, .null, .int 5])]
    let value := Value.list [.variable "prices", .list [.int 20], .variable "unbound"]
    let leaves := [Value.int 15, .null, .int 5, .int 20, .null]
    let options : ScalarOptions := { min := some (.int 10), oneOf := some [.int 15] }
    bindings.Acyclic ∧ value.HasLeaves bindings leaves ∧
      FirstFailing (fun leaf => FirstUnmet (options.leafDemands leaf)) leaves (options.verdict bindings value) ∧
      options.verdict bindings value = some .min := by
  intro bindings value leaves options
  have hacyclic : bindings.Acyclic :=
    Bindings.acyclic_of_rank (fun _ => 0) (by simp [bindings, variableNames, variableNamesOfItems])
  have hleaves : value.HasLeaves bindings leaves := by
    rw [hasLeaves_iff hacyclic]
    simp [value, leaves, bindings, leaves_of_acyclic hacyclic, leavesOfItems, resolve, Fields.find?]
  obtain ⟨own, hown, hscalar, -⟩ := verdicts_on_leaves hacyclic value
  obtain rfl := (hown leaves).1 hleaves
  have hverdict := (hscalar options).2
  refine ⟨hacyclic, hleaves, hverdict, ?_⟩
  -- 15 and null pass, and 5 is too small before it is no allowed value
  have hown : ∀ leaf own, options.checkLeaf leaf = own → FirstUnmet (options.leafDemands leaf) own := by
    rintro leaf own rfl
    exact options.firstUnmet_checkLeaf leaf
  have hfirst : FirstFailing (fun leaf => FirstUnmet (options.leafDemands leaf)) leaves (some .min) := by
    refine ⟨[.int 15, .null], .int 5, [.int 20, .null], rfl, ?_, hown _ _ (by decide +kernel)⟩
    exact List.forall_mem_cons.2 ⟨hown _ _ (by decide +kernel), List.forall_mem_singleton.2 (hown _ _ rfl)⟩
  exact hverdict.unique (fun _ _ _ hv hw => hv.unique hw) hfirst

end Value

end SchemaConstraints
