set_option autoImplicit false

/-! # Ranges of characters

Ranges of code points, and lists of them in ascending order with a gap between any two. Adding a range keeps
that form, since ranges that overlap or touch are joined, and so does taking what a list leaves out; the
lemmas say that, and which code points the lists hold. -/

namespace SchemaConstraints

/-- The characters between two code points, both included. -/
structure CharRange where
  first : Nat
  last : Nat
  first_le_last : first ≤ last
  deriving Repr

namespace CharRange

/-- The characters between two characters. -/
def between (first last : Char) (h : first.toNat ≤ last.toNat := by decide) : CharRange :=
  ⟨first.toNat, last.toNat, h⟩

/-- The range of one character. -/
def single (c : Char) : CharRange := ⟨c.toNat, c.toNat, Nat.le_refl _⟩

/-- Whether a range holds a code point. -/
def holds (range : CharRange) (n : Nat) : Bool := decide (range.first ≤ n) && decide (n ≤ range.last)

theorem holds_iff {range : CharRange} {n : Nat} :
    range.holds n = true ↔ range.first ≤ n ∧ n ≤ range.last := by
  simp only [holds, Bool.and_eq_true, decide_eq_true_eq]

/-- One range ends before the other begins, and there is a code point between them. -/
def Before (r s : CharRange) : Prop := r.last + 1 < s.first

instance (r s : CharRange) : Decidable (r.Before s) := inferInstanceAs (Decidable (_ < _))

theorem Before.trans {r s t : CharRange} (hr : r.Before s) (hs : s.Before t) : r.Before t :=
  Nat.lt_trans hr (Nat.lt_of_le_of_lt s.first_le_last (Nat.lt_of_succ_lt hs))

/-- The smallest range that holds two ranges. -/
def join (r s : CharRange) : CharRange :=
  ⟨min r.first s.first, max r.last s.last,
    Nat.le_trans (Nat.min_le_left _ _) (Nat.le_trans r.first_le_last (Nat.le_max_left _ _))⟩

/-- Ranges that overlap or touch are joined without taking anything in between. -/
theorem holds_join {r s : CharRange} (hr : ¬ r.Before s) (hs : ¬ s.Before r) (n : Nat) :
    (r.join s).holds n = (r.holds n || s.holds n) := by
  have := r.first_le_last
  have := s.first_le_last
  unfold Before at hr hs
  rw [Bool.eq_iff_iff, Bool.or_eq_true, holds_iff, holds_iff, holds_iff]
  dsimp only [join]
  omega

/-- What two ranges have in common. -/
def common? (r s : CharRange) : Option CharRange :=
  if h : max r.first s.first ≤ min r.last s.last then some ⟨_, _, h⟩ else none

/-! ## Case -/

/-- The small letters of ASCII. -/
def smallLetters : CharRange := between 'a' 'z'

/-- The capital letters of ASCII. -/
def capitalLetters : CharRange := between 'A' 'Z'

/-- How far a small letter is behind its capital. -/
def caseDistance : Nat := 32

/-- The letters that a range gains when case does not count. A range with small letters gains their capitals
    only, whatever capitals it has itself. -/
def otherCase? (range : CharRange) : Option CharRange :=
  match range.common? smallLetters with
  | some small =>
    some ⟨small.first - caseDistance, small.last - caseDistance, Nat.sub_le_sub_right small.first_le_last _⟩
  | none =>
    (range.common? capitalLetters).map fun capital =>
      ⟨capital.first + caseDistance, capital.last + caseDistance, Nat.add_le_add_right capital.first_le_last _⟩

/-! ## Ascending lists of ranges -/

/-- Add a range to an ascending list. -/
def insert (range : CharRange) : List CharRange → List CharRange
  | [] => [range]
  | head :: rest =>
    if range.Before head then range :: head :: rest
    else if head.Before range then head :: insert range rest
    else insert (range.join head) rest

theorem any_holds_insert (range : CharRange) (ranges : List CharRange) (n : Nat) :
    (insert range ranges).any (·.holds n) = (range.holds n || ranges.any (·.holds n)) := by
  induction ranges generalizing range with
  | nil => rfl
  | cons head rest ih =>
    unfold insert
    split
    · rfl
    · next hr =>
      split
      · rw [List.any_cons, ih, List.any_cons, Bool.or_left_comm]
      · next hs => rw [ih, holds_join hr hs, List.any_cons, Bool.or_assoc]

theorem before_insert {before range : CharRange} {ranges : List CharRange} (hb : before.Before range)
    (h : ∀ r ∈ ranges, before.Before r) : ∀ r ∈ insert range ranges, before.Before r := by
  induction ranges generalizing range with
  | nil => simpa only [insert, List.mem_singleton, forall_eq] using hb
  | cons head rest ih =>
    obtain ⟨hh, ht⟩ := List.forall_mem_cons.1 h
    unfold insert
    split
    · exact List.forall_mem_cons.2 ⟨hb, h⟩
    · split
      · exact List.forall_mem_cons.2 ⟨hh, ih hb ht⟩
      · exact ih (Nat.lt_min.2 ⟨hb, hh⟩) ht

theorem pairwise_insert (range : CharRange) {ranges : List CharRange} (h : ranges.Pairwise Before) :
    (insert range ranges).Pairwise Before := by
  induction ranges generalizing range with
  | nil => exact List.pairwise_singleton _ _
  | cons head rest ih =>
    obtain ⟨hh, ht⟩ := List.pairwise_cons.1 h
    unfold insert
    split
    · next hb => exact List.pairwise_cons.2 ⟨List.forall_mem_cons.2 ⟨hb, fun r hr => hb.trans (hh r hr)⟩, h⟩
    · split
      · next hb => exact List.pairwise_cons.2 ⟨before_insert hb hh, ih range ht⟩
      · exact ih _ ht

/-- The ranges between two code points that an ascending list leaves out. -/
def gaps (start limit : Nat) : List CharRange → List CharRange
  | [] => if h : start ≤ limit then [⟨start, limit, h⟩] else []
  | head :: rest =>
    if h : start < head.first then
      ⟨start, head.first - 1, Nat.le_sub_one_of_lt h⟩ :: gaps (head.last + 1) limit rest
    else gaps (head.last + 1) limit rest

theorem le_first_of_mem_gaps {lower start limit : Nat} {ranges : List CharRange} (hl : lower ≤ start)
    (h : ∀ r ∈ ranges, lower ≤ r.first) : ∀ r ∈ gaps start limit ranges, lower ≤ r.first := by
  induction ranges generalizing start with
  | nil =>
    unfold gaps
    split
    · exact List.forall_mem_singleton.2 hl
    · exact List.forall_mem_nil _
  | cons head rest ih =>
    obtain ⟨hh, ht⟩ := List.forall_mem_cons.1 h
    have next := ih (Nat.le_succ_of_le (Nat.le_trans hh head.first_le_last)) ht
    unfold gaps
    split
    · exact List.forall_mem_cons.2 ⟨hl, next⟩
    · exact next

theorem pairwise_gaps (start limit : Nat) {ranges : List CharRange} (h : ranges.Pairwise Before) :
    (gaps start limit ranges).Pairwise Before := by
  induction ranges generalizing start with
  | nil =>
    unfold gaps
    split
    · exact List.pairwise_singleton _ _
    · exact List.Pairwise.nil
  | cons head rest ih =>
    obtain ⟨hh, ht⟩ := List.pairwise_cons.1 h
    unfold gaps
    split
    · next hs =>
      refine List.pairwise_cons.2 ⟨fun r hr => ?_, ih _ ht⟩
      have := le_first_of_mem_gaps (Nat.le_refl _) (fun r hr => Nat.le_of_lt (hh r hr)) r hr
      have := head.first_le_last
      dsimp only [Before]
      omega
    · exact ih _ ht

theorem any_holds_gaps {start limit n : Nat} {ranges : List CharRange} (h : ranges.Pairwise Before)
    (hs : ∀ r ∈ ranges, start ≤ r.first) (hn : n ≤ limit) :
    (gaps start limit ranges).any (·.holds n) =
      (decide (start ≤ n) && !ranges.any (·.holds n)) := by
  induction ranges generalizing start with
  | nil =>
    unfold gaps
    split
    · simp [holds, hn]
    · next hs => simp; omega
  | cons head rest ih =>
    obtain ⟨hh, ht⟩ := List.pairwise_cons.1 h
    obtain ⟨hb, -⟩ := List.forall_mem_cons.1 hs
    have hr := ih ht fun r hr => Nat.le_of_lt (hh r hr)
    have key : rest.any (·.holds n) = true → head.last + 1 < n := fun ha => by
      obtain ⟨r, hm, hr⟩ := List.any_eq_true.1 ha
      exact Nat.lt_of_lt_of_le (hh r hm) (holds_iff.1 hr).1
    have := head.first_le_last
    rw [List.any_cons, Bool.eq_iff_iff]
    generalize rest.any (·.holds n) = found at hr key ⊢
    unfold gaps
    split
    · rw [List.any_cons, hr]
      cases found with
      | false =>
        simp [holds]
        omega
      | true =>
        have := key rfl
        simp [holds]
        omega
    · rw [hr]
      cases found with
      | false =>
        simp [holds]
        omega
      | true => simp

end CharRange
end SchemaConstraints
