import Mathlib
import Renumber.Header.TokenChoice
import Renumber.Proofs.Text.Numeral

/-!
# Which texts stand for a choice of token

Two kinds of text do: the word `last` in any case (`ofText?_eq_last_iff`), and the numerals of a value
that fits into 64 bits, with a plus sign or zeros in front if need be (`ofText?_eq_index_iff`).  No text
is of both kinds (`Spells.not_isNumeral`), and no other text is a choice.  What is written for a choice
is read as this choice (`ofText?_text`).
-/

namespace Renumber

open Text

/-- The text is the word but for the case of its ASCII letters; the word itself is in small letters. -/
def Spells (word text : List Char) : Prop :=
  List.Forall₂ (fun w c => c = w ∨ c = w.toUpper) word text

/-! ## Letters in any case -/

theorem isLower_iff {c : Char} : c.isLower ↔ 97 ≤ c.toNat ∧ c.toNat ≤ 122 := by
  simp [Char.isLower, UInt32.le_iff_toNat_le, ← Char.toNat_val]

theorem toNat_toLower (c : Char) :
    c.toLower.toNat = if 65 ≤ c.toNat ∧ c.toNat ≤ 90 then c.toNat + 32 else c.toNat := by
  have hfirst : 'A'.val.toNat = 65 := rfl
  have hlast : 'Z'.val.toNat = 90 := rfl
  have hdistance : ('a'.val - 'A'.val).toNat = 32 := rfl
  simp only [Char.toLower, ge_iff_le, UInt32.le_iff_toNat_le, hfirst, hlast, Char.toNat_val]
  split
  · rw [← Char.toNat_val, UInt32.toNat_add, hdistance, Char.toNat_val]
    omega
  · rfl

theorem toNat_toUpper {c : Char} (h : c.isLower) : c.toUpper.toNat = c.toNat - 32 := by
  obtain ⟨hlow, hhigh⟩ := isLower_iff.1 h
  have hfirst : 'a'.val.toNat = 97 := rfl
  have hlast : 'z'.val.toNat = 122 := rfl
  have hdistance : ('A'.val - 'a'.val).toNat = 2 ^ 32 - 32 := rfl
  simp only [Char.toUpper, UInt32.le_iff_toNat_le, hfirst, hlast, Char.toNat_val]
  rw [dif_pos ⟨hlow, hhigh⟩, ← Char.toNat_val, UInt32.toNat_add, hdistance, Char.toNat_val]
  omega

theorem toLower_eq_iff {c w : Char} (hw : w.isLower) : c.toLower = w ↔ c = w ∨ c = w.toUpper := by
  have hrange := isLower_iff.1 hw
  rw [← Char.toNat_inj, ← Char.toNat_inj, ← Char.toNat_inj, toNat_toLower, toNat_toUpper hw]
  split <;> omega

theorem map_toLower_eq_iff {word text : List Char} (hword : ∀ w ∈ word, w.isLower) :
    text.map Char.toLower = word ↔ Spells word text := by
  induction word generalizing text with
  | nil => simp [Spells]
  | cons w word ih =>
    obtain ⟨hw, hword⟩ := List.forall_mem_cons.1 hword
    cases text with
    | nil => simp [Spells]
    | cons c text =>
      unfold Spells at ih ⊢
      rw [List.map_cons, List.cons.injEq, toLower_eq_iff hw, ih hword, List.forall₂_cons]

theorem isLower_of_mem_last : ∀ w ∈ "last".toList, w.isLower := List.all_eq_true.1 (by decide)

/-- The word does not begin like a numeral. -/
theorem Spells.not_isNumeral {text : List Char} (h : Spells "last".toList text) (n : Nat) :
    ¬ IsNumeral text n := by
  rintro ⟨digits, htext, hne, hdigits, -⟩
  obtain ⟨c, rest, hc, -, rfl⟩ := List.forall₂_cons_left_iff.1 h
  have hplus : c ≠ '+' := by rcases hc with rfl | rfl <;> decide
  have hdigit : ¬ c.isDigit := by rcases hc with rfl | rfl <;> decide
  rcases htext with rfl | htext
  · exact hdigit (hdigits c List.mem_cons_self)
  · exact hplus (List.cons.inj htext).1

namespace TokenChoice

variable {text : List Char}

/-! ## Reading -/

theorem ofText?_eq_of_spells (h : Spells "last".toList text) : ofText? text = some .last := by
  rw [ofText?, if_pos ((map_toLower_eq_iff isLower_of_mem_last).2 h)]

theorem ofText?_eq_of_not_spells (h : ¬ Spells "last".toList text) :
    ofText? text = (readNumeral (2 ^ 64) text).map fun n => index (UInt64.ofNat n) :=
  if_neg (mt (map_toLower_eq_iff isLower_of_mem_last).1 h)

theorem ofText?_eq_last_iff : ofText? text = some .last ↔ Spells "last".toList text := by
  refine ⟨fun h => ?_, ofText?_eq_of_spells⟩
  by_contra hspells
  rw [ofText?_eq_of_not_spells hspells] at h
  simp at h

theorem ofText?_eq_index_iff {i : UInt64} :
    ofText? text = some (.index i) ↔ IsNumeral text i.toNat := by
  constructor
  · intro h
    have hspells : ¬ Spells "last".toList text := by
      rw [← ofText?_eq_last_iff, h]
      simp
    rw [ofText?_eq_of_not_spells hspells, Option.map_eq_some_iff] at h
    obtain ⟨n, hread, hn⟩ := h
    obtain ⟨hnumeral, hlt⟩ := (readNumeral_eq_some_iff (by decide)).1 hread
    rw [← index.inj hn, UInt64.toNat_ofNat_of_lt' hlt]
    exact hnumeral
  · intro h
    have hread := (readNumeral_eq_some_iff (by decide)).2 ⟨h, i.toNat_lt⟩
    rw [ofText?_eq_of_not_spells fun hspells => hspells.not_isNumeral _ h, hread, Option.map_some,
      UInt64.ofNat_toNat]

/-- What is written for a choice is read as this choice. -/
theorem ofText?_text (choice : TokenChoice) : ofText? choice.text = some choice := by
  cases choice with
  | last => decide
  | index i => exact ofText?_eq_index_iff.2 (isNumeral_decimal i.toNat)

/-! ## Main theorem -/

/-- A text is read as the last token if it is the word for it in any case, and as the token of an index
if it is a numeral of a value below `2 ^ 64`; every other text is refused.  Reading what was written
gives the choice back. -/
theorem ofText?_isExact (text : List Char) :
    (ofText? text = some .last ↔ Spells "last".toList text) ∧
    (∀ n, (∃ i, ofText? text = some (.index i) ∧ i.toNat = n) ↔ IsNumeral text n ∧ n < 2 ^ 64) ∧
    (ofText? text = none ↔
      ¬ Spells "last".toList text ∧ ∀ n, IsNumeral text n → 2 ^ 64 ≤ n) ∧
    ∀ choice : TokenChoice, ofText? choice.text = some choice := by
  refine ⟨ofText?_eq_last_iff, fun n => ?_, ?_, ofText?_text⟩
  · constructor
    · rintro ⟨i, h, rfl⟩
      exact ⟨ofText?_eq_index_iff.1 h, i.toNat_lt⟩
    · rintro ⟨h, hlt⟩
      have hn : (UInt64.ofNat n).toNat = n := UInt64.toNat_ofNat_of_lt' hlt
      exact ⟨UInt64.ofNat n, ofText?_eq_index_iff.2 (hn.symm ▸ h), hn⟩
  · constructor
    · intro h
      refine ⟨fun hspells => ?_, fun n hn => Nat.le_of_not_lt fun hlt => ?_⟩
      · rw [ofText?_eq_of_spells hspells] at h
        cases h
      · have hread := (readNumeral_eq_some_iff (by decide)).2 ⟨hn, hlt⟩
        rw [ofText?_eq_of_not_spells fun hspells => hspells.not_isNumeral n hn, hread] at h
        cases h
    · rintro ⟨hspells, hlarge⟩
      rw [ofText?_eq_of_not_spells hspells, Option.map_eq_none_iff, Option.eq_none_iff_forall_ne_some]
      intro n hread
      obtain ⟨hn, hlt⟩ := (readNumeral_eq_some_iff (by decide)).1 hread
      exact absurd hlt (Nat.not_lt.2 (hlarge n hn))

example : ofText? "+0018446744073709551615".toList = some (.index (UInt64.ofNat (2 ^ 64 - 1))) ∧
    ofText? "18446744073709551616".toList = none := by
  decide

end TokenChoice

end Renumber
