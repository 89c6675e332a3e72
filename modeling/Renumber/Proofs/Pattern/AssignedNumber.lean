import Renumber.Pattern.Basic
import Renumber.Proofs.Text.AssignedNumber
import Std.Data.HashSet.Lemmas

/-!
# The default pattern finds the assigned numbers

The default text reads as the pattern `Pattern.assignedNumber`, a program of eight instructions
(`Pattern.ofText?_defaultText`), and its tokens are what one pass over the line finds
(`Pattern.tokens_assignedNumber`).

No character is taken by two of the instructions that wait for one: the equals sign, blanks and digits
exclude one another.  So a search carries at most one thread from one place to the next, which stands

    behind the equals sign (1)   behind a blank (3)   behind a digit (6)

and beside it there is only the thread that starts where the search is.  A thread behind the equals
sign or a blank goes on to a match if blanks and digits follow (`findWith?_of_number`), and otherwise
leaves nothing behind (`findWith?_of_no_number`); a thread behind a digit goes on to the end of the
digits (`findWith?_digits`).  So a search finds the first assigned number, and the matches are all of
them (`map_token_matchesFrom`).
-/

namespace Renumber.Pattern

open Text

/-- What the default text stands for: an equals sign, blanks, and the digits as a group. -/
def assignedNumberExpr : Expr :=
  .concat [.text ['='], .repetition true 0 none (.set .blank),
    .group 1 (.repetition true 1 none (.set .decimalDigit))]

def assignedNumber : Pattern where
  program := #[.char '=', .fork 2 4, .set .blank, .jump 1, .mark (.opens 1), .set .decimalDigit,
    .fork 5 7, .mark (.closes 1)]
  groups := 1

/-! ## Reading the default text -/

theorem reversed_assignedNumberExpr : assignedNumberExpr.reversed =
    .concat [.group 1 (.repetition true 1 none (.set .decimalDigit)),
      .repetition true 0 none (.set .blank), .text ['=']] := by
  simp [assignedNumberExpr, Expr.reversed, Expr.reversedOnto]

theorem fits_assignedNumberExpr : fits assignedNumberExpr = true := by
  simp only [fits, forwardFootprint?, backwardFootprint?, reversed_assignedNumberExpr]
  simp only [assignedNumberExpr, place?, placeAll?, Footprint.times, Expr.consumes, Expr.minLength,
    Expr.isAnchored, Expr.isFirstAnchored, Expr.isVacuous]
  decide +kernel

theorem read?_defaultText : read? defaultText.toList = some (assignedNumberExpr, 1) := by
  have htext : defaultText.toList = ['=', '\\', 's', '*', '(', '\\', 'd', '+', ')'] := by decide
  obtain ⟨r, hread, henclosing, hgroups, hexpr, hdepth⟩ : ∃ r, readFrom? 9 {}
      ['=', '\\', 's', '*', '(', '\\', 'd', '+', ')'] = some r ∧ r.enclosing = [] ∧ r.groups = 1 ∧
      r.current.value.expr = assignedNumberExpr ∧ r.current.value.depth ≤ depthLimit :=
    ⟨_, rfl, rfl, rfl, rfl, by decide⟩
  have hlength : defaultText.toList.length = 9 := by rw [htext]; rfl
  unfold read?
  rw [hlength, htext, hread]
  simp [henclosing, hgroups, hexpr, hdepth, fits_assignedNumberExpr]

theorem ofText?_defaultText : ofText? defaultText = .ok assignedNumber := by
  have hprogram : assignedNumberExpr.program = assignedNumber.program := by decide +kernel
  unfold ofText?
  rw [read?_defaultText]
  simp only [hprogram]
  rfl

/-! ## Following threads -/

section

variable {before after : Option Char} {place start : Nat} {marks : List (Mark × Nat)} {c : Char}

theorem live_idle :
    live assignedNumber.program before after place [⟨0, place, []⟩] = [⟨0, place, []⟩] := by
  simp [live, assignedNumber, settle, Thread.follow?]

theorem live_open {address : Nat} (h : address = 1 ∨ address = 3) :
    live assignedNumber.program before after place [⟨address, start, []⟩, ⟨0, place, []⟩] =
      [⟨2, start, []⟩, ⟨5, start, [(.opens 1, place)]⟩, ⟨0, place, []⟩] := by
  rcases h with rfl | rfl <;> simp [live, assignedNumber, settle, Thread.follow?]

/-- A thread behind a digit is at the end, so those behind it are dropped. -/
theorem live_digit (rest : List Thread) :
    live assignedNumber.program before after place (⟨6, start, marks⟩ :: rest) =
      [⟨5, start, marks⟩, ⟨8, start, (.closes 1, place) :: marks⟩] := by
  simp [live, assignedNumber, settle, Thread.follow?]

theorem step?_equals : Thread.step? assignedNumber.program c ⟨0, start, marks⟩ =
    if c = '=' then some ⟨1, start, marks⟩ else none := by
  simp [Thread.step?, assignedNumber]

theorem step?_blank : Thread.step? assignedNumber.program c ⟨2, start, marks⟩ =
    if isBlank c then some ⟨3, start, marks⟩ else none := rfl

theorem step?_digit : Thread.step? assignedNumber.program c ⟨5, start, marks⟩ =
    if isDecimalDigit c then some ⟨6, start, marks⟩ else none := rfl

theorem step?_end : Thread.step? assignedNumber.program c ⟨8, start, marks⟩ = none := rfl

end

/-! ## One search -/

/-- The match of a number; `start` is the place of the equals sign. -/
def numberMatch (start : Nat) (span : Span) : Match where
  start := start
  finish := span.start + span.length
  marks := [(.closes 1, span.start + span.length), (.opens 1, span.start)]

theorem token_numberMatch (start : Nat) (span : Span) :
    assignedNumber.token (numberMatch start span) = span := by
  have hopens : List.lookup (Mark.opens 1)
      [(.closes 1, span.start + span.length), (.opens 1, span.start)] = some span.start := rfl
  simp [token, assignedNumber, numberMatch, Match.group?, List.range_succ, hopens]

section

variable {before : Option Char} {place start opened address : Nat} {best : Option Match}

/-- The threads that a search without a match goes on with behind a character. -/
theorem findWith?_cons_of_not_ended {program : Array Instruction} {threads : List Thread} {c : Char}
    {rest : List Char}
    (h : ended? program place (live program before (some c) place (threads ++ [⟨0, place, []⟩])) = none) :
    findWith? program none before place threads (c :: rest) =
      findWith? program none (some c) (place + 1)
        ((live program before (some c) place (threads ++ [⟨0, place, []⟩])).filterMap
          (·.step? program c)) rest := by
  rw [findWith?]
  simp only [Option.isNone_none, if_true, List.head?_cons, h, Option.none_or]
  split <;> simp_all

theorem findWith?_nil_of_not_ended {program : Array Instruction} {threads : List Thread}
    (h : ended? program place (live program before none place (threads ++ [⟨0, place, []⟩])) = none) :
    findWith? program none before place threads [] = none := by
  simp only [findWith?, Option.isNone_none, if_true, List.head?_nil, h, Option.none_or]

theorem findWith?_idle_nil : findWith? assignedNumber.program none before place [] [] = none := by
  refine findWith?_nil_of_not_ended ?_
  rw [List.nil_append, live_idle]
  rfl

theorem findWith?_idle_cons (c : Char) (rest : List Char) :
    findWith? assignedNumber.program none before place [] (c :: rest) =
      findWith? assignedNumber.program none (some c) (place + 1)
        (if c = '=' then [⟨1, place, []⟩] else []) rest := by
  rw [findWith?_cons_of_not_ended] <;> rw [List.nil_append, live_idle]
  · rw [List.filterMap_cons, step?_equals, List.filterMap_nil]
    split_ifs <;> rfl
  · rfl

theorem findWith?_open_nil (h : address = 1 ∨ address = 3) :
    findWith? assignedNumber.program none before place [⟨address, start, []⟩] [] = none := by
  refine findWith?_nil_of_not_ended ?_
  rw [List.singleton_append, live_open h]
  rfl

theorem findWith?_open_cons (h : address = 1 ∨ address = 3) (c : Char) (rest : List Char) :
    findWith? assignedNumber.program none before place [⟨address, start, []⟩] (c :: rest) =
      findWith? assignedNumber.program none (some c) (place + 1)
        (if isBlank c then [⟨3, start, []⟩]
        else if isDecimalDigit c then [⟨6, start, [(.opens 1, place)]⟩]
        else if c = '=' then [⟨1, place, []⟩]
        else []) rest := by
  rw [findWith?_cons_of_not_ended] <;> rw [List.singleton_append, live_open h]
  · simp only [List.filterMap_cons, List.filterMap_nil, step?_blank, step?_digit, step?_equals]
    -- at most one of the three instructions takes the character
    by_cases hblank : isBlank c
    · simp [hblank, isDecimalDigit_of_isBlank hblank, ne_equals_of_isBlank hblank]
    · by_cases hdigit : isDecimalDigit c
      · simp [hblank, hdigit, ne_equals_of_isDecimalDigit hdigit]
      · simp only [hblank, hdigit, Bool.false_eq_true, if_false]
        split_ifs <;> rfl
  · rfl

/-- A thread behind a digit ends behind the last digit, whatever the match before was. -/
theorem findWith?_digits (text : List Char) :
    findWith? assignedNumber.program best before place [⟨6, start, [(.opens 1, opened)]⟩] text =
      some ⟨start, place + (text.takeWhile isDecimalDigit).length,
        [(.closes 1, place + (text.takeWhile isDecimalDigit).length), (.opens 1, opened)]⟩ := by
  have hended : ∀ place, ended? assignedNumber.program place [⟨5, start, [(.opens 1, opened)]⟩,
      ⟨8, start, [(.closes 1, place), (.opens 1, opened)]⟩] =
      some ⟨start, place, [(.closes 1, place), (.opens 1, opened)]⟩ := fun _ => rfl
  have hlive : ∀ (best : Option Match) before after place,
      live assignedNumber.program before after place
        (if best.isNone then [⟨6, start, [(.opens 1, opened)]⟩] ++ [⟨0, place, []⟩]
        else [⟨6, start, [(.opens 1, opened)]⟩]) =
      [⟨5, start, [(.opens 1, opened)]⟩,
        ⟨8, start, [(.closes 1, place), (.opens 1, opened)]⟩] := by
    intro best before after place
    split_ifs
    · exact live_digit _
    · exact live_digit []
  induction text generalizing best before place with
  | nil =>
    rw [findWith?]
    simp only [hlive, hended]
    rfl
  | cons c rest ih =>
    rw [findWith?]
    simp only [hlive, hended, List.filterMap_cons, List.filterMap_nil, step?_digit, step?_end,
      Option.some_or]
    by_cases hdigit : isDecimalDigit c
    · simp only [hdigit, if_true, ih, List.takeWhile_cons, List.length_cons, Nat.add_assoc,
        Nat.add_comm 1]
    · simp [hdigit]

theorem findWith?_of_number (h : address = 1 ∨ address = 3) {text : List Char} {span : Span}
    (hnumber : numberBehindBlanks? place text = some span) :
    findWith? assignedNumber.program none before place [⟨address, start, []⟩] text =
      some (numberMatch start span) := by
  induction text generalizing address before place with
  | nil => cases hnumber
  | cons c rest ih =>
    rw [numberBehindBlanks?] at hnumber
    rw [findWith?_open_cons h]
    split_ifs at hnumber with hblank hdigit
    · rw [if_pos hblank]
      exact ih (.inr rfl) hnumber
    · obtain rfl := Option.some.inj hnumber
      rw [if_neg hblank, if_pos hdigit, findWith?_digits, numberMatch, Nat.add_assoc,
        Nat.add_comm 1]

/-- A thread that comes to nothing leaves what a search from here on finds. -/
theorem findWith?_of_no_number (h : address = 1 ∨ address = 3) {text : List Char}
    (hnumber : numberBehindBlanks? place text = none) :
    findWith? assignedNumber.program none before place [⟨address, start, []⟩] text =
      findWith? assignedNumber.program none before place [] text := by
  induction text generalizing address before place with
  | nil => rw [findWith?_open_nil h, findWith?_idle_nil]
  | cons c rest ih =>
    rw [numberBehindBlanks?] at hnumber
    rw [findWith?_open_cons h, findWith?_idle_cons]
    split_ifs at hnumber with hblank hdigit
    · rw [if_pos hblank, if_neg (ne_equals_of_isBlank hblank)]
      exact ih (.inr rfl) hnumber
    · rw [if_neg hblank, if_neg hdigit]

/-- A search finds the first number; the match starts in front of it, at its equals sign. -/
theorem findFrom?_eq (before : Option Char) (place : Nat) (text : List Char) :
    ∃ start, (∀ span ∈ (assignedNumbers place text).head?, start < span.start) ∧
      findFrom? assignedNumber.program before place text =
        (assignedNumbers place text).head?.map (numberMatch start) := by
  unfold findFrom?
  induction text generalizing before place with
  | nil => exact ⟨0, nofun, findWith?_idle_nil⟩
  | cons c rest ih =>
    rw [findWith?_idle_cons, assignedNumbers]
    split_ifs with hc
    · cases hnumber : numberBehindBlanks? (place + 1) rest with
      | none =>
        rw [findWith?_of_no_number (.inl rfl) hnumber]
        exact ih (some c) (place + 1)
      | some span =>
        rw [findWith?_of_number (.inl rfl) hnumber]
        refine ⟨place, ?_, rfl⟩
        intro first hfirst
        obtain rfl : span = first := Option.some.inj hfirst
        obtain ⟨blanks, digits, -, -, -, rfl⟩ := exists_of_numberBehindBlanks? hnumber
        show place < place + 1 + blanks.length
        omega
    · exact ih (some c) (place + 1)

end

/-! ## All matches -/

theorem map_token_matchesFrom {fuel place : Nat} {text : List Char} (h : text.length < fuel)
    (last : Option Nat) (before : Option Char) :
    (matchesFrom assignedNumber.program fuel last before place text).map assignedNumber.token =
      assignedNumbers place text := by
  induction fuel generalizing last before place text with
  | zero => cases h
  | succ fuel ih =>
    obtain ⟨start, hstart, hfind⟩ := findFrom?_eq before place text
    unfold matchesFrom
    rw [hfind]
    cases hnumbers : assignedNumbers place text with
    | nil => rfl
    | cons span more =>
      have hlt : start < span.start := hstart span (by rw [hnumbers]; rfl)
      have hplace : place < span.start := lt_start_of_mem (by rw [hnumbers]; exact .head _)
      have hmatch : ¬ (start = span.start + span.length ∧
          last = some (span.start + span.length)) := by omega
      have htext : 0 < text.length := by
        rw [List.length_pos_iff]
        rintro rfl
        cases hnumbers
      have hshorter : (text.drop (span.start + span.length - place)).length < fuel := by
        rw [List.length_drop]
        omega
      simp only [List.head?_cons, Option.map_some, numberMatch, if_neg hmatch, List.map_cons,
        ih hshorter]
      rw [← assignedNumbers_tail hnumbers]
      exact congrArg (· :: more) (token_numberMatch start span)

/-- The tokens of a line under the default pattern are its assigned numbers. -/
theorem tokens_assignedNumber (line : List Char) :
    assignedNumber.tokens line = assignedNumbers 0 line :=
  map_token_matchesFrom (by omega) none none

end Renumber.Pattern
