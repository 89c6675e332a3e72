import Mathlib.Algebra.BigOperators.Group.List.Basic
import Renumber.Proofs.Text.Numeral

/-!
# Numbers in groups of three digits

`withCommas` puts its commas from left to right by looking at how many digits are still to come;
`IsGrouping` says where they are counted from the right: every group but the first has three digits.
The two agree (`exists_grouped`).

The commas take nothing away from the number: without them it is the plain numeral, and cut at them it
falls into the groups again (`grouped_inThrees`).
-/

namespace Renumber.Text

/-- The parts that digits are in when every part but the first has three. -/
structure IsGrouping (groups : List (List Char)) (digits : List Char) : Prop where
  flatten_eq : groups.flatten = digits
  first : ∀ group ∈ groups.head?, 0 < group.length ∧ group.length ≤ 3
  others : ∀ group ∈ groups.tail, group.length = 3

/-! ## Lemmas -/

theorem IsGrouping.length_eq {first : List Char} {others : List (List Char)} {digits : List Char}
    (h : IsGrouping (first :: others) digits) :
    digits.length = first.length + 3 * others.length := by
  have hsum : ∀ l : List (List Char), (∀ group ∈ l, group.length = 3) →
      l.flatten.length = 3 * l.length := by
    intro l hl
    rw [List.length_flatten, List.map_congr_left hl, List.map_const', List.sum_replicate]
    exact Nat.mul_comm ..
  rw [← h.flatten_eq, List.flatten_cons, List.length_append, hsum others h.others]

theorem exists_withCommas {digits : List Char} (hne : digits ≠ []) :
    ∃ groups, withCommas digits = [','].intercalate groups ∧ groups ≠ [] ∧
      IsGrouping groups digits := by
  induction digits with
  | nil => exact absurd rfl hne
  | cons c rest ih =>
    rw [withCommas]
    by_cases hrest : rest = []
    · subst hrest
      exact ⟨[[c]], rfl, by simp, ⟨rfl, by simp, by simp⟩⟩
    obtain ⟨groups, hcommas, hgroups, hgrouping⟩ := ih hrest
    obtain ⟨first, others, rfl⟩ := List.exists_cons_of_ne_nil hgroups
    obtain ⟨hpos, hle⟩ := hgrouping.first first rfl
    have hlength := hgrouping.length_eq
    have hflatten := hgrouping.flatten_eq
    split_ifs with hfull
    · -- the first group is full, so that the digit begins a group of its own
      have hfirst : first.length = 3 := by omega
      refine ⟨[c] :: first :: others, ?_, by simp, ?_, by simp, ?_⟩
      · rw [hcommas, List.intercalate_cons_cons]
        rfl
      · rw [List.flatten_cons, hflatten, List.singleton_append]
      · exact List.forall_mem_cons.2 ⟨hfirst, hgrouping.others⟩
    · have hfirst : (c :: first).length ≤ 3 := by
        rw [List.length_cons]
        have := mt (And.intro hrest) hfull
        omega
      refine ⟨(c :: first) :: others, ?_, by simp, ?_, ?_, hgrouping.others⟩
      · rw [hcommas]
        cases others <;> rfl
      · rw [List.flatten_cons, List.cons_append, ← List.flatten_cons, hflatten]
      · rintro _ ⟨⟩
        exact ⟨Nat.succ_pos _, hfirst⟩

/-- A number is written with a comma between groups of three digits. -/
theorem exists_grouped (n : Nat) :
    ∃ groups, grouped n = [','].intercalate groups ∧ IsGrouping groups (decimal n) := by
  obtain ⟨groups, h, -, hgrouping⟩ := exists_withCommas (decimal_ne_nil n)
  exact ⟨groups, h, hgrouping⟩

theorem isDigit_or_eq_of_mem_grouped {n : Nat} {c : Char} (h : c ∈ grouped n) :
    c.isDigit ∨ c = ',' := by
  have hcommas : ∀ digits : List Char, c ∈ withCommas digits → c ∈ digits ∨ c = ',' := by
    intro digits
    induction digits with
    | nil => exact .inl
    | cons d rest ih =>
      rw [withCommas]
      split_ifs <;> simp only [List.mem_cons] <;> tauto
  exact (hcommas _ h).imp_left isDigit_of_mem_decimal

theorem comma_notMem_decimal (n : Nat) : ',' ∉ decimal n := fun h =>
  absurd (isDigit_of_mem_decimal h) (by decide)

/-- Without the commas there are the digits again. -/
theorem filter_withCommas {digits : List Char} (h : ',' ∉ digits) :
    (withCommas digits).filter (· ≠ ',') = digits := by
  induction digits with
  | nil => rfl
  | cons c rest ih =>
    obtain ⟨hc, hrest⟩ := not_or.1 (mt List.mem_cons.2 h)
    rw [withCommas]
    split_ifs
    · rw [List.filter_cons_of_pos (by simpa using Ne.symm hc), List.filter_cons_of_neg (by decide),
        ih hrest]
    · rw [List.filter_cons_of_pos (by simpa using Ne.symm hc), ih hrest]

theorem filter_grouped (n : Nat) : (grouped n).filter (· ≠ ',') = decimal n :=
  filter_withCommas (comma_notMem_decimal n)

theorem decimal_injective : Function.Injective decimal := fun m n h =>
  (isNumeral_decimal m).eq (h ▸ isNumeral_decimal n)

theorem IsGrouping.notMem {groups : List (List Char)} {digits : List Char} {c : Char}
    (h : IsGrouping groups digits) (hc : c ∉ digits) : ∀ group ∈ groups, c ∉ group :=
  fun _ hgroup hmem => hc (h.flatten_eq ▸ List.mem_flatten_of_mem hgroup hmem)

/-- Cut at its commas, a number falls into its groups. -/
theorem exists_splitOn_grouped (n : Nat) :
    ∃ first others, (grouped n).splitOn ',' = first :: others ∧
      IsGrouping (first :: others) (decimal n) := by
  obtain ⟨groups, hcommas, hne, hgrouping⟩ := exists_withCommas (decimal_ne_nil n)
  obtain ⟨first, others, rfl⟩ := List.exists_cons_of_ne_nil hne
  refine ⟨first, others, ?_, hgrouping⟩
  rw [grouped, hcommas]
  exact List.splitOn_intercalate ',' (hgrouping.notMem (comma_notMem_decimal n)) hne

theorem head?_withCommas (digits : List Char) : (withCommas digits).head? = digits.head? := by
  cases digits with
  | nil => rfl
  | cons c rest =>
    rw [withCommas]
    split_ifs <;> rfl

theorem getLast?_withCommas (digits : List Char) :
    (withCommas digits).getLast? = digits.getLast? := by
  induction digits with
  | nil => rfl
  | cons c rest ih =>
    rw [withCommas]
    by_cases hrest : rest = []
    · subst hrest
      rfl
    · -- the last digit is behind the first one, with or without a comma between them
      split_ifs <;> simp [List.getLast?_cons, ih, List.getLast?_eq_some_getLast hrest]

/-! ## Main theorem -/

/-- A number written in groups is its plain numeral but for the commas; between these there are one to
three digits first, and three digits from then on.  So different numbers are written differently, and a
comma is never first or last. -/
theorem grouped_inThrees :
    (∀ n, (grouped n).filter (· ≠ ',') = decimal n) ∧
    (∀ n, ∃ first others, (grouped n).splitOn ',' = first :: others ∧
      1 ≤ first.length ∧ first.length ≤ 3 ∧ ∀ group ∈ others, group.length = 3) ∧
    Function.Injective grouped ∧
    ∀ n, (grouped n).head? ≠ some ',' ∧ (grouped n).getLast? ≠ some ',' := by
  refine ⟨filter_grouped, fun n => ?_, fun m n h => ?_, fun n => ⟨fun h => ?_, fun h => ?_⟩⟩
  · obtain ⟨first, others, hsplit, hgrouping⟩ := exists_splitOn_grouped n
    obtain ⟨hpos, hle⟩ := hgrouping.first first rfl
    exact ⟨first, others, hsplit, hpos, hle, hgrouping.others⟩
  · apply decimal_injective
    rw [← filter_grouped m, h, filter_grouped]
  · rw [grouped, head?_withCommas] at h
    exact comma_notMem_decimal n (List.mem_of_mem_head? h)
  · rw [grouped, getLast?_withCommas] at h
    exact comma_notMem_decimal n (List.mem_of_getLast? h)

example : grouped 1234567 = "1,234,567".toList := by decide

end Renumber.Text
