/-!
# Spans of a line

A span is a place in a line and a number of characters from there on.  It cuts a line into the part
before it, the part it covers and the part after it (`before_covered_after`).
-/

namespace Renumber

/-! ## Algorithm -/

structure Span where
  start : Nat
  length : Nat
  deriving DecidableEq

namespace Span

def before (s : Span) (line : List Char) : List Char := line.take s.start

def covered (s : Span) (line : List Char) : List Char := (line.drop s.start).take s.length

def after (s : Span) (line : List Char) : List Char := line.drop (s.start + s.length)

/-! ## Lemmas -/

theorem before_covered_after (s : Span) (line : List Char) :
    s.before line ++ s.covered line ++ s.after line = line := by
  simp [before, covered, after, ← List.drop_drop]

theorem before_append (front middle back : List Char) :
    before ⟨front.length, middle.length⟩ (front ++ (middle ++ back)) = front :=
  List.take_left

theorem covered_append (front middle back : List Char) :
    covered ⟨front.length, middle.length⟩ (front ++ (middle ++ back)) = middle := by
  rw [covered, List.drop_left, List.take_left]

theorem after_append (front middle back : List Char) :
    after ⟨front.length, middle.length⟩ (front ++ (middle ++ back)) = back := by
  rw [after, ← List.drop_drop, List.drop_left, List.drop_left]

theorem before_isPrefix (s : Span) (line : List Char) : s.before line <+: line :=
  List.take_prefix _ _

theorem covered_isInfix (s : Span) (line : List Char) : s.covered line <:+: line :=
  ⟨s.before line, s.after line, s.before_covered_after line⟩

theorem after_isSuffix (s : Span) (line : List Char) : s.after line <:+ line := List.drop_suffix _ _

end Span

end Renumber
