import SchemaConstraints.Proofs.Evaluate.Presence
import SchemaConstraints.Proofs.Narrowing.Acceptance

set_option autoImplicit false

/-! # Narrowing is a preorder

Narrowing is transitive on all constraints, with bounds of both kinds and with NaN: every axis is compared
by a transitive relation, and an axis that is left open lies above all settings (`narrowsAxis_trans`). A
constraint narrows itself unless NaN is one of its bounds or allowed values (`narrows_self_iff`). NaN is
the only number that is not equal to itself, so no other axis can fail. -/

namespace SchemaConstraints

/-! ## One axis -/

section Axis

variable {α : Type}

theorem narrowsAxis_trans {stricter : α → α → Bool}
    (htrans : ∀ x y z, stricter x y = true → stricter y z = true → stricter x z = true) {a b c : Option α}
    (hcb : narrowsAxis stricter c b = true) (hba : narrowsAxis stricter b a = true) :
    narrowsAxis stricter c a = true := by
  cases a with
  | none => rfl
  | some x =>
    cases b with
    | none => simp [narrowsAxis] at hba
    | some y =>
      cases c with
      | none => simp [narrowsAxis] at hcb
      | some z => exact htrans z y x hcb hba

theorem narrowsAxis_self_iff {stricter : α → α → Bool} {a : Option α} :
    narrowsAxis stricter a a = true ↔ ∀ x, a = some x → stricter x x = true := by
  cases a <;> simp [narrowsAxis]

theorem narrowsAxis_self {stricter : α → α → Bool} (hself : ∀ x, stricter x x = true) (a : Option α) :
    narrowsAxis stricter a a = true :=
  narrowsAxis_self_iff.2 fun x _ => hself x

theorem isSubset_trans {equals : α → α → Bool}
    (htrans : ∀ x y z, equals x y = true → equals y z = true → equals x z = true) (small middle large : List α)
    (hsm : isSubset equals small middle = true) (hml : isSubset equals middle large = true) :
    isSubset equals small large = true := by
  refine List.all_eq_true.2 fun item hitem => ?_
  exact any_of_isSubset hml (fun x y hyx hx => htrans y x item hyx hx) (List.all_eq_true.1 hsm item hitem)

/-- A list contains itself if each of its members is equal to some member. -/
theorem isSubset_self_iff {equals : α → α → Bool} {items : List α} :
    isSubset equals items items = true ↔ ∀ x ∈ items, ∃ y ∈ items, equals y x = true := by
  simp only [isSubset, List.all_eq_true, List.any_eq_true]

theorem isSubset_beq_trans [BEq α] [LawfulBEq α] (small middle large : List α)
    (hsm : isSubset (· == ·) small middle = true) (hml : isSubset (· == ·) middle large = true) :
    isSubset (· == ·) small large = true := by
  refine isSubset_trans (fun x y z hxy hyz => ?_) small middle large hsm hml
  rwa [eq_of_beq hxy]

theorem isSubset_beq_self [BEq α] [LawfulBEq α] (items : List α) : isSubset (· == ·) items items = true :=
  isSubset_self_iff.2 fun x hx => ⟨x, hx, beq_self_eq_true x⟩

end Axis

theorem narrowsAxis_lower_trans {a b c : Option Nat}
    (hcb : narrowsAxis (fun n w => decide (w ≤ n)) c b = true)
    (hba : narrowsAxis (fun n w => decide (w ≤ n)) b a = true) :
    narrowsAxis (fun n w => decide (w ≤ n)) c a = true := by
  refine narrowsAxis_trans (fun x y z hyx hzy => ?_) hcb hba
  rw [decide_eq_true_eq] at hyx hzy ⊢
  exact Nat.le_trans hzy hyx

theorem narrowsAxis_upper_trans {a b c : Option Nat}
    (hcb : narrowsAxis (fun n w => decide (n ≤ w)) c b = true)
    (hba : narrowsAxis (fun n w => decide (n ≤ w)) b a = true) :
    narrowsAxis (fun n w => decide (n ≤ w)) c a = true := by
  refine narrowsAxis_trans (fun x y z hxy hyz => ?_) hcb hba
  rw [decide_eq_true_eq] at hxy hyz ⊢
  exact Nat.le_trans hxy hyz

/-! ## NaN -/

/-- NaN, which only a floating-point number can be. -/
def Number.isNaN : Number → Bool
  | .int _ => false
  | .float x => x.isNaN

/-- NaN as an allowed value. -/
def Scalar.isNaN : Scalar → Bool
  | .float x => x.isNaN
  | _ => false

theorem Number.isNaN_eq_false_iff {n : Number} : n.isNaN = false ↔ ∃ p, n.point? = some p := by
  cases n with
  | int i => exact iff_of_true rfl ⟨_, rfl⟩
  | float x =>
    cases hnan : x.isNaN with
    | true => simp [isNaN, point?, Binary64.point?, hnan]
    | false => simpa [isNaN, point?, hnan] using Binary64.point?_eq_some hnan

theorem Number.atMost_self_iff {n : Number} : n.atMost n = true ↔ n.isNaN = false := by
  rw [atMost_iff, isNaN_eq_false_iff]
  constructor
  · rintro ⟨p, _, hp, -⟩
    exact ⟨p, hp⟩
  · rintro ⟨p, hp⟩
    exact ⟨p, p, hp, hp, le_refl p⟩

theorem Scalar.equals_trans {s t u : Scalar} (hst : s.equals t = true) (htu : t.equals u = true) :
    s.equals u = true := by
  cases s <;> cases t <;> simp only [equals, Bool.false_eq_true, beq_iff_eq] at hst
  case float.float x y =>
    cases u <;> simp only [equals, Bool.false_eq_true] at htu
    exact Binary64.numEq_trans hst htu
  all_goals
    subst hst
    exact htu

/-- NaN equals no allowed value, and every other one equals itself. -/
theorem Scalar.exists_equals_iff {s : Scalar} {allowed : List Scalar} (hs : s ∈ allowed) :
    (∃ t ∈ allowed, t.equals s = true) ↔ s.isNaN = false := by
  cases s with
  | float x =>
    change _ ↔ (Number.float x).isNaN = false
    rw [Number.isNaN_eq_false_iff]
    constructor
    · rintro ⟨t, -, ht⟩
      cases t <;> simp only [equals, Bool.false_eq_true] at ht
      obtain ⟨p, -, hp⟩ := Binary64.numEq_iff.1 ht
      exact ⟨p, hp⟩
    · rintro ⟨p, hp⟩
      exact ⟨_, hs, Binary64.numEq_iff.2 ⟨p, hp, hp⟩⟩
  | bool | int | string => exact iff_of_true ⟨_, hs, by simp [equals]⟩ rfl

/-- Neither a bound nor an allowed value is NaN. -/
structure ScalarOptions.NoNaN (options : ScalarOptions) : Prop where
  min : ∀ min, options.min = some min → min.isNaN = false
  max : ∀ max, options.max = some max → max.isNaN = false
  oneOf : ∀ allowed, options.oneOf = some allowed → ∀ entry ∈ allowed, entry.isNaN = false

/-- The constraint has no NaN. Constraints of the other families have no floating-point numbers. -/
def Constraint.NoNaN : Constraint → Prop
  | .scalar options => options.NoNaN
  | _ => True

/-! ## The families -/

namespace ScalarOptions

theorem narrows_trans {a b c : ScalarOptions} (hcb : c.narrows b = true) (hba : b.narrows a = true) :
    c.narrows a = true := by
  obtain ⟨hmin, hmax, honeOf, hminLength, hmaxLength, hregex⟩ := narrows_iff.1 hcb
  obtain ⟨hmin', hmax', honeOf', hminLength', hmaxLength', hregex'⟩ := narrows_iff.1 hba
  refine narrows_iff.2 ⟨?_, ?_, ?_, narrowsAxis_lower_trans hminLength hminLength',
    narrowsAxis_upper_trans hmaxLength hmaxLength', ?_⟩
  · refine narrowsAxis_trans (fun x y z hyx hzy => ?_) hmin hmin'
    exact Number.atMost_trans hzy hyx
  · refine narrowsAxis_trans (fun x y z hxy hyz => ?_) hmax hmax'
    exact Number.atMost_trans hxy hyz
  · refine narrowsAxis_trans (isSubset_trans fun x y z hxy hyz => ?_) honeOf honeOf'
    exact Scalar.equals_trans hxy hyz
  · refine narrowsAxis_trans (fun x y z hxy hyz => ?_) hregex hregex'
    rwa [of_decide_eq_true hxy]

theorem narrows_self_iff {a : ScalarOptions} : a.narrows a = true ↔ a.NoNaN := by
  have honeOf : narrowsAxis (isSubset Scalar.equals) a.oneOf a.oneOf = true ↔
      ∀ allowed, a.oneOf = some allowed → ∀ entry ∈ allowed, entry.isNaN = false := by
    rw [narrowsAxis_self_iff]
    refine forall₂_congr fun allowed _ => ?_
    rw [isSubset_self_iff]
    exact forall₂_congr fun entry hentry => Scalar.exists_equals_iff hentry
  rw [narrows_iff, honeOf, narrowsAxis_self_iff, narrowsAxis_self_iff]
  simp only [Number.atMost_self_iff]
  constructor
  · rintro ⟨hmin, hmax, hallowed, -⟩
    exact ⟨hmin, hmax, hallowed⟩
  · rintro ⟨hmin, hmax, hallowed⟩
    exact ⟨hmin, hmax, hallowed, narrowsAxis_self (by simp) _, narrowsAxis_self (by simp) _,
      narrowsAxis_self (by simp) _⟩

end ScalarOptions

namespace ListLevel

theorem narrows_iff {n w : ListLevel} :
    n.narrows w = true ↔
      narrowsAxis (fun n w => decide (w ≤ n)) n.minItems w.minItems = true ∧
      narrowsAxis (fun n w => decide (n ≤ w)) n.maxItems w.maxItems = true ∧
      (w.unique = true → n.unique = true) := by
  rw [narrows, Bool.and_eq_true, Bool.and_eq_true, and_assoc]
  cases w.unique <;> simp

theorem narrows_trans {a b c : ListLevel} (hcb : c.narrows b = true) (hba : b.narrows a = true) :
    c.narrows a = true := by
  obtain ⟨hmin, hmax, hunique⟩ := narrows_iff.1 hcb
  obtain ⟨hmin', hmax', hunique'⟩ := narrows_iff.1 hba
  exact narrows_iff.2 ⟨narrowsAxis_lower_trans hmin hmin', narrowsAxis_upper_trans hmax hmax',
    fun h => hunique (hunique' h)⟩

theorem narrows_self (a : ListLevel) : a.narrows a = true :=
  narrows_iff.2 ⟨narrowsAxis_self (by simp) _, narrowsAxis_self (by simp) _, id⟩

end ListLevel

namespace ListOptions

theorem levelsNarrow_trans {as bs cs : List ListLevel} (hcb : levelsNarrow cs bs = true)
    (hba : levelsNarrow bs as = true) : levelsNarrow cs as = true := by
  induction as generalizing bs cs with
  | nil => cases cs <;> rfl
  | cons a as ih =>
    cases bs with
    | nil => simp [levelsNarrow] at hba
    | cons b bs =>
      cases cs with
      | nil => simp [levelsNarrow] at hcb
      | cons c cs =>
        rw [levelsNarrow, Bool.and_eq_true] at hcb hba ⊢
        exact ⟨ListLevel.narrows_trans hcb.1 hba.1, ih hcb.2 hba.2⟩

theorem levelsNarrow_self (levels : List ListLevel) : levelsNarrow levels levels = true := by
  induction levels with
  | nil => rfl
  | cons level levels ih => rw [levelsNarrow, level.narrows_self, ih, Bool.and_self]

end ListOptions

namespace PresenceRule

variable {rule : PresenceRule}

theorem narrows_trans {a b c : Quota} (hcb : rule.narrows c b = true) (hba : rule.narrows b a = true) :
    rule.narrows c a = true := by
  cases rule <;> simp only [narrows, Bool.and_eq_true, decide_eq_true_eq, beq_iff_eq] at hcb hba ⊢
  case atLeast => exact ⟨Nat.le_trans hba.1 hcb.1, isSubset_beq_trans _ _ _ hcb.2 hba.2⟩
  case atMost => exact ⟨Nat.le_trans hcb.1 hba.1, isSubset_beq_trans _ _ _ hba.2 hcb.2⟩
  case exactly =>
    exact ⟨⟨hcb.1.1.trans hba.1.1, isSubset_beq_trans _ _ _ hcb.1.2 hba.1.2⟩,
      isSubset_beq_trans _ _ _ hba.2 hcb.2⟩

theorem narrows_self (quota : Quota) : rule.narrows quota quota = true := by
  cases rule <;> simp [narrows, isSubset_beq_self]

end PresenceRule

namespace PresenceOptions

/-- Presence options are compared rule by rule. -/
theorem narrows_iff {n w : PresenceOptions} :
    n.narrows w = true ↔
      narrowsAxis PresenceRule.atLeast.narrows (n.atLeastOne.map one) (w.atLeastOne.map one) = true ∧
      narrowsAxis PresenceRule.atMost.narrows (n.atMostOne.map one) (w.atMostOne.map one) = true ∧
      narrowsAxis PresenceRule.exactly.narrows (n.exactlyOne.map one) (w.exactlyOne.map one) = true ∧
      narrowsAxis PresenceRule.atLeast.narrows n.atLeast w.atLeast = true ∧
      narrowsAxis PresenceRule.atMost.narrows n.atMost w.atMost = true ∧
      narrowsAxis PresenceRule.exactly.narrows n.exactly w.exactly = true := by
  simp [narrows, slots]

theorem narrows_trans {a b c : PresenceOptions} (hcb : c.narrows b = true) (hba : b.narrows a = true) :
    c.narrows a = true := by
  have haxis : ∀ {rule : PresenceRule} {x y z : Option Quota}, narrowsAxis rule.narrows z y = true →
      narrowsAxis rule.narrows y x = true → narrowsAxis rule.narrows z x = true := by
    intro rule x y z hzy hyx
    refine narrowsAxis_trans (fun p q r hpq hqr => ?_) hzy hyx
    exact PresenceRule.narrows_trans hpq hqr
  obtain ⟨h₁, h₂, h₃, h₄, h₅, h₆⟩ := narrows_iff.1 hcb
  obtain ⟨h₁', h₂', h₃', h₄', h₅', h₆'⟩ := narrows_iff.1 hba
  exact narrows_iff.2 ⟨haxis h₁ h₁', haxis h₂ h₂', haxis h₃ h₃', haxis h₄ h₄', haxis h₅ h₅', haxis h₆ h₆'⟩

theorem narrows_self (a : PresenceOptions) : a.narrows a = true := by
  have haxis : ∀ (rule : PresenceRule) (x : Option Quota), narrowsAxis rule.narrows x x = true :=
    fun _ => narrowsAxis_self fun _ => PresenceRule.narrows_self _
  exact narrows_iff.2 ⟨haxis _ _, haxis _ _, haxis _ _, haxis _ _, haxis _ _, haxis _ _⟩

end PresenceOptions

namespace UploadOptions

theorem narrows_trans {a b c : UploadOptions} (hcb : c.narrows b = true) (hba : b.narrows a = true) :
    c.narrows a = true := by
  rw [narrows, Bool.and_eq_true] at hcb hba ⊢
  exact ⟨narrowsAxis_upper_trans hcb.1 hba.1, narrowsAxis_trans isSubset_beq_trans hcb.2 hba.2⟩

theorem narrows_self (a : UploadOptions) : a.narrows a = true := by
  rw [narrows, Bool.and_eq_true]
  exact ⟨narrowsAxis_self (by simp) _, narrowsAxis_self isSubset_beq_self _⟩

end UploadOptions

/-! ## Constraints -/

namespace Constraint

/-- What narrows a constraint narrows every constraint that it narrows. -/
theorem narrows_trans {a b c : Constraint} (hcb : c.narrows b = true) (hba : b.narrows a = true) :
    c.narrows a = true := by
  cases b <;> cases a <;> simp only [narrows, Bool.false_eq_true] at hba
  all_goals cases c <;> simp only [narrows, Bool.false_eq_true] at hcb
  case scalar.scalar.scalar => exact ScalarOptions.narrows_trans hcb hba
  case list.list.list => exact ListOptions.levelsNarrow_trans hcb hba
  case object.object.object => exact PresenceOptions.narrows_trans hcb hba
  case upload.upload.upload => exact UploadOptions.narrows_trans hcb hba

/-- A constraint narrows itself unless it has NaN. -/
theorem narrows_self_iff {a : Constraint} : a.narrows a = true ↔ a.NoNaN := by
  cases a with
  | scalar options => exact ScalarOptions.narrows_self_iff
  | list options => exact iff_of_true (ListOptions.levelsNarrow_self options.levels) trivial
  | object options => exact iff_of_true options.narrows_self trivial
  | upload options => exact iff_of_true options.narrows_self trivial

end Constraint

end SchemaConstraints
