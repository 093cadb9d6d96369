import SchemaConstraints.Pattern.Matching
import SchemaConstraints.Pattern.Reader

set_option autoImplicit false

/-! # Patterns

A pattern is a text that could be read as one, kept together with the tree that it was read as. The tree is
settled by the text, so two patterns are equal exactly if their texts are. -/

namespace SchemaConstraints

/-- A regular expression. -/
structure Pattern where
  /-- The pattern as it was written. -/
  source : String
  node : Pattern.Node
  /-- The tree is what the text was read as. -/
  parse_source : Pattern.parse source = .ok node

namespace Pattern

/-- The pattern that a text spells, or the first mistake in it. -/
def compile (source : String) : Except PatternError Pattern :=
  match h : parse source with
  | .error e => .error e
  | .ok node => .ok ⟨source, node, h⟩

/-- Whether the pattern matches anywhere in a text. -/
def matchesIn (pattern : Pattern) (text : String) : Bool := pattern.node.matchesIn text

/-- Patterns of the same text are equal. -/
theorem eq_of_source_eq {p q : Pattern} (h : p.source = q.source) : p = q := by
  obtain ⟨s, m, hm⟩ := p
  obtain ⟨t, n, hn⟩ := q
  obtain rfl : s = t := h
  obtain rfl : m = n := by rw [hm] at hn; exact Except.ok.inj hn
  rfl

instance : DecidableEq Pattern := fun p q =>
  if h : p.source = q.source then .isTrue (eq_of_source_eq h)
  else .isFalse fun e => h (congrArg source e)

/-- A text compiles to a pattern with that text. -/
theorem source_of_compile {source : String} {p : Pattern} (h : compile source = .ok p) :
    p.source = source := by
  unfold compile at h
  split at h
  · simp at h
  · exact (congrArg Pattern.source (Except.ok.inj h)).symm

/-- Compiling the text of a pattern gives the pattern back. -/
theorem compile_source (p : Pattern) : compile p.source = .ok p := by
  unfold compile
  split
  · next h => rw [p.parse_source] at h; simp at h
  · exact congrArg _ (eq_of_source_eq rfl)

end Pattern

end SchemaConstraints
