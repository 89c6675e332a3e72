import Renumber.Text.CodeRange

/-!
# Blank characters

The blank characters are the 25 code points with the property White_Space: tabulator to carriage
return, space, the next-line control, the no-break space and the typographic spaces and separators.
A zero-width space, a byte-order mark and the information separators are not blank.

`trim` removes them from both ends of a text.
-/

namespace Renumber.Text

/-! ## Algorithm -/

/-- First and last code points of the runs of blanks, ascending. -/
def blankRanges : List (Nat × Nat) :=
  [(9, 13), (0x20, 0x20), (0x85, 0x85), (0xA0, 0xA0), (0x1680, 0x1680), (0x2000, 0x200A),
   (0x2028, 0x2029), (0x202F, 0x202F), (0x205F, 0x205F), (0x3000, 0x3000)]

def isBlank (c : Char) : Bool := inRanges blankRanges c

/-- The blanks of ASCII text files: space, tabulator, line feed, form feed and carriage return.
The vertical tabulator is blank, but not one of these. -/
def isFileBlank (c : Char) : Bool :=
  c == ' ' || c == '\t' || c == '\n' || c == '\x0c' || c == '\r'

def trimStart (text : List Char) : List Char := text.dropWhile isBlank

def trimEnd (text : List Char) : List Char := (text.reverse.dropWhile isBlank).reverse

def trim (text : List Char) : List Char := trimEnd (trimStart text)

/-! ## Lemmas -/

theorem exists_eq_trimEnd_append (text : List Char) :
    ∃ blanks, text = trimEnd text ++ blanks ∧ ∀ c ∈ blanks, isBlank c := by
  refine ⟨(text.reverse.takeWhile isBlank).reverse, ?_, fun c hc => ?_⟩
  · rw [trimEnd, ← List.reverse_append, List.takeWhile_append_dropWhile, List.reverse_reverse]
  · exact List.all_eq_true.1 List.all_takeWhile c (List.mem_reverse.1 hc)

theorem trimEnd_isPrefix (text : List Char) : trimEnd text <+: text := by
  obtain ⟨blanks, h, -⟩ := exists_eq_trimEnd_append text
  exact ⟨blanks, h.symm⟩

/-- What ends with a character that is not blank stays. -/
theorem prefix_trimEnd {front text : List Char} {c : Char} (hc : isBlank c = false)
    (h : front ++ [c] <+: text) : front ++ [c] <+: trimEnd text := by
  rcases List.prefix_or_prefix_of_prefix h (trimEnd_isPrefix text) with h' | h'
  · exact h'
  rcases List.prefix_concat_iff.1 h' with h' | ⟨more, rfl⟩
  · exact ⟨[], by rw [List.append_nil, h']⟩
  · -- otherwise the character is among those that were removed
    obtain ⟨blanks, he, hblanks⟩ := exists_eq_trimEnd_append text
    have hmore : more ++ [c] <+: blanks := by
      have hall : trimEnd text ++ (more ++ [c]) <+: trimEnd text ++ blanks := by
        rwa [← List.append_assoc, ← he]
      exact (List.prefix_append_right_inj _).1 hall
    have hblank := hblanks c (hmore.subset (by simp))
    rw [hc] at hblank
    cases hblank

/-- What is left does not end with a blank. -/
theorem isBlank_of_getLast?_trimEnd {text : List Char} {c : Char}
    (h : (trimEnd text).getLast? = some c) : isBlank c = false := by
  rw [trimEnd, List.getLast?_reverse] at h
  have hhead := List.head?_dropWhile_not isBlank text.reverse
  rwa [h] at hhead

theorem mem_trimEnd {text : List Char} {c : Char} (hc : isBlank c = false) :
    c ∈ trimEnd text ↔ c ∈ text := by
  constructor
  · exact fun h => (trimEnd_isPrefix text).subset h
  · intro h
    obtain ⟨front, back, rfl⟩ := List.append_of_mem h
    have hfront : front ++ [c] <+: front ++ c :: back := ⟨back, by simp⟩
    exact (prefix_trimEnd hc hfront).subset (by simp)

end Renumber.Text
