import Renumber.Text.Numeral

/-!
# What reads as a numeral

A numeral is an optional plus sign and at least one ASCII digit (`IsNumeral`).  Reading below a bound
accepts exactly the numerals of a value below the bound:

    0 < bound → (readNumeral bound text = some n ↔ IsNumeral text n ∧ n < bound)
                                                                  (readNumeral_eq_some_iff)

The reader gives up at the first digit that takes the value to the bound; digits behind it could
only add to the value (`le_ofDigitChars`).  The numeral that is written for a number reads as this
number (`isNumeral_decimal`).
-/

namespace Renumber.Text

/-- An optional plus sign, then at least one ASCII digit; `n` is the value of the digits. -/
def IsNumeral (text : List Char) (n : Nat) : Prop :=
  ∃ digits : List Char, (text = digits ∨ text = '+' :: digits) ∧ digits ≠ [] ∧
    (∀ c ∈ digits, c.isDigit) ∧ n = Nat.ofDigitChars 10 digits 0

/-! ## Lemmas -/

theorem le_ofDigitChars (digits : List Char) (sofar : Nat) :
    sofar ≤ Nat.ofDigitChars 10 digits sofar := by
  induction digits generalizing sofar with
  | nil => simp
  | cons c rest ih =>
    rw [Nat.ofDigitChars_cons]
    have := ih (10 * sofar + (c.toNat - '0'.toNat))
    omega

theorem readDigits_eq_some_iff {bound sofar n : Nat} {text : List Char} (h : sofar < bound) :
    readDigits bound sofar text = some n ↔
      (∀ c ∈ text, c.isDigit) ∧ n = Nat.ofDigitChars 10 text sofar ∧ n < bound := by
  induction text generalizing sofar with
  | nil =>
    simp only [readDigits, Option.some.injEq, Nat.ofDigitChars_nil]
    constructor
    · rintro rfl
      exact ⟨by simp, rfl, h⟩
    · rintro ⟨-, rfl, -⟩
      rfl
  | cons c rest ih =>
    rw [Nat.ofDigitChars_cons]
    unfold readDigits
    by_cases hc : c.isDigit
    · rw [if_pos hc]
      by_cases hv : 10 * sofar + digitValue c < bound
      · rw [if_pos hv, ih hv]
        simp [hc, digitValue]
      · rw [if_neg hv]
        have hle := le_ofDigitChars rest (10 * sofar + digitValue c)
        constructor
        · intro h
          cases h
        · rintro ⟨-, rfl, hlt⟩
          exact absurd (Nat.lt_of_le_of_lt hle hlt) hv
    · rw [if_neg hc]
      simp [hc]

theorem readNumeral_eq_some_iff {bound n : Nat} {text : List Char} (h : 0 < bound) :
    readNumeral bound text = some n ↔ IsNumeral text n ∧ n < bound := by
  have plus : ¬ ('+' : Char).isDigit := by decide
  unfold readNumeral IsNumeral
  split
  · simp
  · constructor
    · intro h
      cases h
    · rintro ⟨⟨digits, h1 | h1, hne, hd, -⟩, -⟩
      · exact absurd (hd '+' (by simp [← h1])) plus
      · exact absurd (List.cons.inj h1).2.symm hne
  · rename_i digits hne
    rw [readDigits_eq_some_iff h]
    constructor
    · rintro ⟨hd, hv, hlt⟩
      exact ⟨⟨digits, Or.inr rfl, fun e => hne (by rw [e]), hd, hv⟩, hlt⟩
    · rintro ⟨⟨digits', h1 | h1, -, hd, hv⟩, hlt⟩
      · exact absurd (hd '+' (by simp [← h1])) plus
      · cases h1
        exact ⟨hd, hv, hlt⟩
  · rename_i hnil hlone hplus
    rw [readDigits_eq_some_iff h]
    constructor
    · rintro ⟨hd, hv, hlt⟩
      exact ⟨⟨text, Or.inl rfl, hnil, hd, hv⟩, hlt⟩
    · rintro ⟨⟨digits', h1 | h1, -, hd, hv⟩, hlt⟩
      · subst h1
        exact ⟨hd, hv, hlt⟩
      · exact absurd h1 (hplus digits')

theorem IsNumeral.eq {text : List Char} {m n : Nat} (hm : IsNumeral text m)
    (hn : IsNumeral text n) : m = n := by
  have hbound : 0 < max m n + 1 := Nat.succ_pos _
  have h1 := (readNumeral_eq_some_iff hbound).2 ⟨hm, by omega⟩
  have h2 := (readNumeral_eq_some_iff hbound).2 ⟨hn, by omega⟩
  rw [h1] at h2
  cases h2
  rfl

/-! ## Written numerals -/

theorem isDigit_of_mem_decimal {n : Nat} {c : Char} (h : c ∈ decimal n) : c.isDigit :=
  Nat.isDigit_of_mem_toDigits (by decide) (by decide) h

theorem lineFeed_notMem_decimal (n : Nat) : '\n' ∉ decimal n := fun h =>
  absurd (isDigit_of_mem_decimal h) (by decide)

theorem decimal_ne_nil (n : Nat) : decimal n ≠ [] := Nat.toDigits_ne_nil

theorem isNumeral_decimal (n : Nat) : IsNumeral (decimal n) n :=
  ⟨decimal n, .inl rfl, decimal_ne_nil n, fun _ => isDigit_of_mem_decimal,
    (Nat.ofDigitChars_toDigits (by decide) (by decide)).symm⟩

end Renumber.Text
