import Mathlib.Data.List.Basic
import Renumber.Text.Blank
import Renumber.Text.DecimalDigit
import Renumber.Text.Span

/-!
# Numbers behind equals signs

A line gives numbers to names: an equals sign, blanks, and then a run of decimal digits of any script.
`IsAssignedNumber` says which spans of a line are such runs.

`assignedNumbers` finds them in one pass from left to right.  It lists these spans and no others
(`mem_assignedNumbers_iff`), each of them behind the end of the one before
(`assignedNumbers_ascending`): as an equals sign is neither blank nor a digit, there is none within
what belongs to the sign before (`assignedNumbers_append`).
-/

namespace Renumber

open Text

/-- A run of decimal digits with no digit right in front of it or right behind it. -/
structure IsDigitRun (line : List Char) (span : Span) : Prop where
  length_pos : 0 < span.length
  inside : span.start + span.length ≤ line.length
  digits : ∀ c ∈ span.covered line, isDecimalDigit c
  first : ∀ c ∈ (span.before line).getLast?, isDecimalDigit c = false
  last : ∀ c ∈ (span.after line).head?, isDecimalDigit c = false

/-- A run of decimal digits that stands behind an equals sign, with nothing but blanks between. -/
structure IsAssignedNumber (line : List Char) (span : Span) : Prop extends IsDigitRun line span where
  assigned : ∃ front blanks, span.before line = front ++ '=' :: blanks ∧ ∀ c ∈ blanks, isBlank c

/-- The run of decimal digits behind the blanks that a text begins with; `place` is the place of the
text. -/
def numberBehindBlanks? (place : Nat) : List Char → Option Span
  | [] => none
  | c :: rest =>
    if isBlank c then numberBehindBlanks? (place + 1) rest
    else if isDecimalDigit c then some ⟨place, (rest.takeWhile isDecimalDigit).length + 1⟩
    else none

/-- The numbers behind the equals signs of a text that stands at `place`, from left to right. -/
def assignedNumbers (place : Nat) : List Char → List Span
  | [] => []
  | c :: rest =>
    if c = '=' then
      (numberBehindBlanks? (place + 1) rest).toList ++ assignedNumbers (place + 1) rest
    else assignedNumbers (place + 1) rest

/-! ## Lemmas -/

/-! ### Three kinds of characters -/

theorem isDecimalDigit_of_isBlank {c : Char} (h : isBlank c) : isDecimalDigit c = false := by
  have hapart : ∀ r ∈ blankRanges, ∀ r' ∈ decimalDigitRanges, r.2 < r'.1 ∨ r'.2 < r.1 := by decide
  by_contra hdigit
  rw [Bool.not_eq_false] at hdigit
  obtain ⟨r, hr, hblank⟩ := List.any_eq_true.1 h
  obtain ⟨r', hr', hdigit⟩ := List.any_eq_true.1 hdigit
  simp only [Bool.and_eq_true, decide_eq_true_eq] at hblank hdigit
  have := hapart r hr r' hr'
  omega

theorem isBlank_equals : isBlank '=' = false := by decide

theorem isDecimalDigit_equals : isDecimalDigit '=' = false := by decide

theorem ne_equals_of_isBlank {c : Char} (h : isBlank c) : c ≠ '=' := by
  rintro rfl
  rw [isBlank_equals] at h
  cases h

theorem ne_equals_of_isDecimalDigit {c : Char} (h : isDecimalDigit c) : c ≠ '=' := by
  rintro rfl
  rw [isDecimalDigit_equals] at h
  cases h

/-! ### One number -/

/-- The parts of a text that begins with blanks and a run of decimal digits. -/
structure IsLeadingNumber (blanks digits back : List Char) : Prop where
  blanks : ∀ c ∈ blanks, isBlank c
  ne_nil : digits ≠ []
  digits : ∀ c ∈ digits, isDecimalDigit c
  last : ∀ c ∈ back.head?, isDecimalDigit c = false

theorem takeWhile_digits {digits back : List Char} (hdigits : ∀ c ∈ digits, isDecimalDigit c)
    (hlast : ∀ c ∈ back.head?, isDecimalDigit c = false) :
    (digits ++ back).takeWhile isDecimalDigit = digits := by
  rw [List.takeWhile_append_of_pos hdigits]
  cases back with
  | nil => simp
  | cons c back => simp [hlast c rfl]

theorem numberBehindBlanks?_append {blanks digits back : List Char}
    (h : IsLeadingNumber blanks digits back) (place : Nat) :
    numberBehindBlanks? place (blanks ++ (digits ++ back)) =
      some ⟨place + blanks.length, digits.length⟩ := by
  obtain ⟨hblanks, hne, hdigits, hlast⟩ := h
  induction blanks generalizing place with
  | nil =>
    obtain ⟨d, digits, rfl⟩ := List.exists_cons_of_ne_nil hne
    obtain ⟨hd, hdigits⟩ := List.forall_mem_cons.1 hdigits
    have hblank : isBlank d = false := by
      by_contra hblank
      rw [Bool.not_eq_false] at hblank
      rw [isDecimalDigit_of_isBlank hblank] at hd
      cases hd
    rw [List.nil_append, List.cons_append, numberBehindBlanks?, if_neg (by simp [hblank]), if_pos hd,
      takeWhile_digits hdigits hlast]
    rfl
  | cons b blanks ih =>
    obtain ⟨hb, hblanks⟩ := List.forall_mem_cons.1 hblanks
    rw [List.cons_append, numberBehindBlanks?, if_pos hb, ih (place + 1) hblanks, List.length_cons,
      Nat.add_assoc, Nat.add_comm 1]

theorem exists_of_numberBehindBlanks? {place : Nat} {text : List Char} {span : Span}
    (h : numberBehindBlanks? place text = some span) :
    ∃ blanks digits back, text = blanks ++ (digits ++ back) ∧ IsLeadingNumber blanks digits back ∧
      span = ⟨place + blanks.length, digits.length⟩ := by
  induction text generalizing place with
  | nil => cases h
  | cons c rest ih =>
    rw [numberBehindBlanks?] at h
    split_ifs at h with hblank hdigit
    · obtain ⟨blanks, digits, back, rfl, hparts, rfl⟩ := ih h
      refine ⟨c :: blanks, digits, back, rfl, ?_, ?_⟩
      · exact ⟨List.forall_mem_cons.2 ⟨hblank, hparts.blanks⟩, hparts.ne_nil, hparts.digits,
          hparts.last⟩
      · rw [List.length_cons, Nat.add_assoc, Nat.add_comm 1]
    · obtain rfl := Option.some.inj h
      refine ⟨[], c :: rest.takeWhile isDecimalDigit, rest.dropWhile isDecimalDigit, ?_, ?_, rfl⟩
      · simp
      · refine ⟨by simp, by simp, ?_, fun d hd => ?_⟩
        · exact List.forall_mem_cons.2 ⟨hdigit, List.all_eq_true.1 List.all_takeWhile⟩
        · have hhead := List.head?_dropWhile_not isDecimalDigit rest
          rwa [Option.mem_def.1 hd] at hhead

/-! ### All numbers -/

/-- A part of a text without equals signs has no numbers. -/
theorem assignedNumbers_append {front : List Char} (h : '=' ∉ front) (place : Nat)
    (text : List Char) :
    assignedNumbers place (front ++ text) = assignedNumbers (place + front.length) text := by
  induction front generalizing place with
  | nil => rfl
  | cons c rest ih =>
    rw [List.mem_cons, not_or] at h
    rw [List.cons_append, assignedNumbers, if_neg (Ne.symm h.1), ih h.2, List.length_cons,
      Nat.add_assoc, Nat.add_comm 1]

theorem mem_assignedNumbers {place : Nat} {text : List Char} {span : Span} :
    span ∈ assignedNumbers place text ↔ ∃ front back, text = front ++ '=' :: back ∧
      numberBehindBlanks? (place + front.length + 1) back = some span := by
  induction text generalizing place with
  | nil => simp [assignedNumbers]
  | cons c rest ih =>
    have hrest : span ∈ assignedNumbers (place + 1) rest ↔ ∃ front back,
        c :: rest = (c :: front) ++ '=' :: back ∧
          numberBehindBlanks? (place + (c :: front).length + 1) back = some span := by
      simp only [ih, List.cons_append, List.cons.injEq, true_and, List.length_cons]
      simp only [Nat.add_comm, Nat.add_left_comm]
    rw [assignedNumbers]
    split_ifs with hc
    · subst hc
      rw [List.mem_append, Option.mem_toList, hrest]
      constructor
      · rintro (h | ⟨front, back, h⟩)
        · exact ⟨[], rest, rfl, h⟩
        · exact ⟨'=' :: front, back, h⟩
      · rintro ⟨_ | ⟨d, front⟩, back, htext, h⟩
        · obtain ⟨-, rfl⟩ := List.cons.inj htext
          exact Or.inl h
        · obtain ⟨rfl, -⟩ := List.cons.inj htext
          exact Or.inr ⟨front, back, htext, h⟩
    · rw [hrest]
      constructor
      · rintro ⟨front, back, h⟩
        exact ⟨c :: front, back, h⟩
      · rintro ⟨_ | ⟨d, front⟩, back, htext, h⟩
        · exact absurd (List.cons.inj htext).1 hc
        · obtain ⟨rfl, -⟩ := List.cons.inj htext
          exact ⟨front, back, htext, h⟩

theorem lt_start_of_mem {place : Nat} {text : List Char} {span : Span}
    (h : span ∈ assignedNumbers place text) : place < span.start := by
  obtain ⟨front, back, -, h⟩ := mem_assignedNumbers.1 h
  obtain ⟨blanks, digits, _, -, -, rfl⟩ := exists_of_numberBehindBlanks? h
  show place < place + front.length + 1 + blanks.length
  omega

/-- What the pass goes on with behind a number. -/
theorem assignedNumbers_behind {blanks digits back : List Char}
    (h : IsLeadingNumber blanks digits back) (place : Nat) :
    assignedNumbers place (blanks ++ (digits ++ back)) =
      assignedNumbers (place + blanks.length + digits.length) back := by
  have hblanks : '=' ∉ blanks := fun hmem => ne_equals_of_isBlank (h.blanks _ hmem) rfl
  have hdigits : '=' ∉ digits := fun hmem => ne_equals_of_isDecimalDigit (h.digits _ hmem) rfl
  rw [assignedNumbers_append hblanks, assignedNumbers_append hdigits]

theorem assignedNumbers_ascending (place : Nat) (text : List Char) :
    (assignedNumbers place text).Pairwise fun a b => a.start + a.length < b.start := by
  induction text generalizing place with
  | nil => exact .nil
  | cons c rest ih =>
    rw [assignedNumbers]
    split_ifs
    · cases hnumber : numberBehindBlanks? (place + 1) rest with
      | none => exact ih (place + 1)
      | some span =>
        obtain ⟨blanks, digits, back, rfl, hparts, rfl⟩ := exists_of_numberBehindBlanks? hnumber
        refine List.pairwise_cons.2 ⟨fun other hother => ?_, ih (place + 1)⟩
        rw [assignedNumbers_behind hparts] at hother
        exact lt_start_of_mem hother
    · exact ih (place + 1)

/-- The pass goes on behind the number that it finds first. -/
theorem assignedNumbers_tail {place : Nat} {text : List Char} {span : Span} {more : List Span}
    (h : assignedNumbers place text = span :: more) :
    more = assignedNumbers (span.start + span.length)
      (text.drop (span.start + span.length - place)) := by
  induction text generalizing place with
  | nil => cases h
  | cons c rest ih =>
    have hlater : assignedNumbers (place + 1) rest = span :: more →
        more = assignedNumbers (span.start + span.length)
          ((c :: rest).drop (span.start + span.length - place)) := by
      intro h
      have hplace : place + 1 < span.start :=
        lt_start_of_mem (h ▸ List.mem_cons_self : span ∈ assignedNumbers (place + 1) rest)
      have hdrop : span.start + span.length - place = span.start + span.length - (place + 1) + 1 := by
        omega
      rw [hdrop, List.drop_succ_cons]
      exact ih h
    rw [assignedNumbers] at h
    split_ifs at h
    · cases hnumber : numberBehindBlanks? (place + 1) rest with
      | none =>
        rw [hnumber] at h
        exact hlater h
      | some first =>
        rw [hnumber, Option.toList_some, List.singleton_append] at h
        obtain ⟨rfl, rfl⟩ := List.cons.inj h
        obtain ⟨blanks, digits, back, rfl, hparts, rfl⟩ := exists_of_numberBehindBlanks? hnumber
        have hdrop : place + 1 + blanks.length + digits.length - place =
            blanks.length + digits.length + 1 := by omega
        rw [assignedNumbers_behind hparts, hdrop, List.drop_succ_cons, ← List.drop_drop,
          List.drop_left, List.drop_left]
    · exact hlater h

/-! ### The spans of a line -/

/-- In front of the digits there is a blank or the equals sign. -/
theorem notDigit_getLast? {blanks : List Char} (h : ∀ c ∈ blanks, isBlank c) (front : List Char) :
    ∀ c ∈ (front ++ '=' :: blanks).getLast?, isDecimalDigit c = false := by
  intro c hc
  rw [List.getLast?_append, List.getLast?_cons, Option.some_or, Option.mem_some_iff] at hc
  subst hc
  cases hlast : blanks.getLast? with
  | none => exact isDecimalDigit_equals
  | some b => exact isDecimalDigit_of_isBlank (h b (List.mem_of_getLast? hlast))

theorem IsDigitRun.length_covered {line : List Char} {span : Span} (h : IsDigitRun line span) :
    (span.covered line).length = span.length := by
  have hinside := h.inside
  rw [Span.covered, List.length_take, List.length_drop]
  omega

theorem IsDigitRun.covered_ne_nil {line : List Char} {span : Span} (h : IsDigitRun line span) :
    span.covered line ≠ [] := by
  rw [← List.length_pos_iff, h.length_covered]
  exact h.length_pos

/-- An assigned number and the parts of the line around it. -/
theorem isAssignedNumber_iff {line : List Char} {span : Span} :
    IsAssignedNumber line span ↔ ∃ front blanks digits back,
      line = front ++ '=' :: (blanks ++ (digits ++ back)) ∧ IsLeadingNumber blanks digits back ∧
      span = ⟨front.length + 1 + blanks.length, digits.length⟩ := by
  constructor
  · rintro ⟨hrun, front, blanks, hbefore, hblanks⟩
    have hinside := hrun.inside
    have hstart : (span.before line).length = span.start := by
      rw [Span.before, List.length_take]
      omega
    have hparts : IsLeadingNumber blanks (span.covered line) (span.after line) :=
      ⟨hblanks, hrun.covered_ne_nil, hrun.digits, hrun.last⟩
    refine ⟨front, blanks, span.covered line, span.after line, ?_, hparts, ?_⟩
    · have hsplit := span.before_covered_after line
      rw [hbefore] at hsplit
      simpa using hsplit.symm
    · rw [hbefore, List.length_append, List.length_cons] at hstart
      rw [hrun.length_covered, Nat.add_assoc, Nat.add_comm 1, hstart]
  · rintro ⟨front, blanks, digits, back, rfl, hparts, rfl⟩
    have hline : front ++ '=' :: (blanks ++ (digits ++ back)) =
        (front ++ '=' :: blanks) ++ (digits ++ back) := by simp
    have hplace : front.length + 1 + blanks.length = (front ++ '=' :: blanks).length := by
      rw [List.length_append, List.length_cons, Nat.add_assoc, Nat.add_comm 1]
    rw [hline, hplace]
    refine ⟨⟨List.length_pos_iff.2 hparts.ne_nil, ?_, ?_, ?_, ?_⟩, front, blanks, ?_, hparts.blanks⟩
    · simp only [List.length_append]
      omega
    · rw [Span.covered_append]
      exact hparts.digits
    · rw [Span.before_append]
      exact notDigit_getLast? hparts.blanks front
    · rw [Span.after_append]
      exact hparts.last
    · exact Span.before_append ..

theorem mem_assignedNumbers_iff {line : List Char} {span : Span} :
    span ∈ assignedNumbers 0 line ↔ IsAssignedNumber line span := by
  rw [mem_assignedNumbers, isAssignedNumber_iff]
  constructor
  · rintro ⟨front, text, rfl, h⟩
    obtain ⟨blanks, digits, back, rfl, hparts, rfl⟩ := exists_of_numberBehindBlanks? h
    exact ⟨front, blanks, digits, back, rfl, hparts, by rw [Nat.zero_add]⟩
  · rintro ⟨front, blanks, digits, back, rfl, hparts, rfl⟩
    refine ⟨front, _, rfl, ?_⟩
    rw [numberBehindBlanks?_append hparts, Nat.zero_add]

end Renumber
