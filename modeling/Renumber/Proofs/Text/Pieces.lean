import Mathlib
import Renumber.Text.Replace

/-!
# The pieces of a text around the occurrences of another

A text falls into pieces around its first occurrence of another text, the first one in what remains
behind that, and so on (`FallsInto`).  Occurrences that overlap one of these are passed over.  For a
text that is not empty there is one way to fall into pieces, and only one (`existsUnique_fallsInto`).

The pieces, with the text itself between them, make up the whole (`FallsInto.intercalate_eq`); with
another text between them, they are what replacing gives (`FallsInto.replaceAll_eq`):

    text                         =  s₀ ++ old ++ s₁ ++ … ++ old ++ sₖ
    replaceAll old new text      =  s₀ ++ new ++ s₁ ++ … ++ new ++ sₖ
-/

namespace Renumber.Text

/-- In the text `old` stands behind `front`, and nowhere before. -/
structure StandsFirstBehind (old text front : List Char) : Prop where
  stands : front ++ old <+: text
  isFirst : ∀ front', front' ++ old <+: text → front <+: front'

/-- What remains of a text around the occurrences of `old`, from left to right. -/
inductive FallsInto (old : List Char) : List Char → List (List Char) → Prop
  | whole {text : List Char} (h : ¬ old <:+: text) : FallsInto old text [text]
  | cut {front rest : List Char} {pieces : List (List Char)}
      (h : StandsFirstBehind old (front ++ old ++ rest) front) (hrest : FallsInto old rest pieces) :
      FallsInto old (front ++ old ++ rest) (front :: pieces)

/-- The places of the occurrences between the pieces of a text that begins at `start`. -/
def cutPlaces (old : List Char) (start : Nat) : List (List Char) → List Nat
  | front :: piece :: pieces =>
    (start + front.length) :: cutPlaces old (start + front.length + old.length) (piece :: pieces)
  | _ => []

/-! ## Lemmas -/

section

variable {old new text front rest : List Char} {pieces : List (List Char)}

theorem standsFirstBehind_nil (h : old <+: text) : StandsFirstBehind old text [] :=
  ⟨h, fun _ _ => List.nil_prefix⟩

theorem StandsFirstBehind.cons {c : Char} (h : StandsFirstBehind old text front)
    (hhere : ¬ old <+: c :: text) : StandsFirstBehind old (c :: text) (c :: front) := by
  refine ⟨List.cons_prefix_cons.2 ⟨rfl, h.stands⟩, fun front' h' => ?_⟩
  cases front' with
  | nil => exact absurd h' hhere
  | cons d front' =>
    obtain ⟨rfl, hrest⟩ := List.cons_prefix_cons.1 h'
    exact List.cons_prefix_cons.2 ⟨rfl, h.isFirst front' hrest⟩

theorem StandsFirstBehind.not_prefix {c : Char}
    (h : StandsFirstBehind old (c :: text) (c :: front)) : ¬ old <+: c :: text := fun hhere =>
  absurd (h.isFirst [] hhere) (by simp)

theorem StandsFirstBehind.tail {c : Char} (h : StandsFirstBehind old (c :: text) (c :: front)) :
    StandsFirstBehind old text front := by
  refine ⟨(List.cons_prefix_cons.1 h.stands).2, fun front' h' => ?_⟩
  exact (List.cons_prefix_cons.1 (h.isFirst (c :: front') (List.cons_prefix_cons.2 ⟨rfl, h'⟩))).2

theorem StandsFirstBehind.eq {front' : List Char} (h : StandsFirstBehind old text front)
    (h' : StandsFirstBehind old text front') : front = front' :=
  (h.isFirst front' h'.stands).eq_of_length_le (h'.isFirst front h.stands).length_le

theorem exists_standsFirstBehind (h : old <:+: text) : ∃ front, StandsFirstBehind old text front := by
  induction text with
  | nil => exact ⟨[], standsFirstBehind_nil (by simpa using h)⟩
  | cons c text ih =>
    by_cases hhere : old <+: c :: text
    · exact ⟨[], standsFirstBehind_nil hhere⟩
    · obtain ⟨front, hfront⟩ := ih ((List.infix_cons_iff.1 h).resolve_left hhere)
      exact ⟨c :: front, hfront.cons hhere⟩

/-! ## Falling into pieces -/

theorem FallsInto.ne_nil (h : FallsInto old text pieces) : pieces ≠ [] := by
  cases h <;> simp

/-- The text without its first occurrence is shorter, so that the induction is on the length. -/
theorem exists_fallsInto (hold : old ≠ []) (text : List Char) :
    ∃ pieces, FallsInto old text pieces := by
  induction hn : text.length using Nat.strong_induction_on generalizing text with
  | _ n ih =>
    by_cases h : old <:+: text
    · obtain ⟨front, hfront⟩ := exists_standsFirstBehind h
      obtain ⟨rest, rfl⟩ := hfront.stands
      have hshorter : rest.length < n := by
        have := List.length_pos_of_ne_nil hold
        simp only [List.length_append] at hn
        omega
      obtain ⟨pieces, hpieces⟩ := ih rest.length hshorter rest rfl
      exact ⟨front :: pieces, .cut hfront hpieces⟩
    · exact ⟨[text], .whole h⟩

theorem FallsInto.eq {pieces' : List (List Char)} (h : FallsInto old text pieces)
    (h' : FallsInto old text pieces') : pieces = pieces' := by
  induction h generalizing pieces' with
  | whole habsent =>
    cases h' with
    | whole _ => rfl
    | cut => exact absurd (List.infix_append _ _ _) habsent
  | @cut front rest pieces hfront hrest ih =>
    generalize htext : front ++ old ++ rest = text at h'
    cases h' with
    | whole habsent => exact absurd (htext ▸ List.infix_append front old rest) habsent
    | @cut front' rest' pieces' hfront' hrest' =>
      obtain rfl : front = front' := (htext ▸ hfront).eq hfront'
      obtain rfl : rest = rest' := List.append_cancel_left htext
      rw [ih hrest']

theorem existsUnique_fallsInto (hold : old ≠ []) (text : List Char) :
    ∃! pieces, FallsInto old text pieces := by
  obtain ⟨pieces, h⟩ := exists_fallsInto hold text
  exact ⟨pieces, h, fun pieces' h' => h'.eq h⟩

theorem FallsInto.intercalate_eq (h : FallsInto old text pieces) : old.intercalate pieces = text := by
  induction h with
  | whole => exact List.intercalate_singleton
  | cut hfront hrest ih => rw [List.intercalate_cons_of_ne_nil hrest.ne_nil, ih]

/-- At each of the places there is an occurrence. -/
theorem FallsInto.exists_append (h : FallsInto old text pieces) {start i : Nat}
    (hi : i ∈ cutPlaces old start pieces) :
    ∃ front back, text = front ++ old ++ back ∧ i = start + front.length := by
  induction h generalizing start with
  | whole => simp [cutPlaces] at hi
  | @cut front rest pieces hfront hrest ih =>
    obtain ⟨piece, pieces, rfl⟩ := List.exists_cons_of_ne_nil hrest.ne_nil
    rcases List.mem_cons.1 hi with rfl | hi
    · exact ⟨front, rest, rfl, rfl⟩
    · obtain ⟨front', back, rfl, rfl⟩ := ih hi
      exact ⟨front ++ old ++ front', back, by simp, by simp [Nat.add_assoc]⟩

/-! ## Replacing -/

theorem replaceFrom_eq_drop (pending : Nat) (text : List Char) :
    replaceFrom old new pending text = replaceAll old new (text.drop pending) := by
  induction text generalizing pending with
  | nil => simp [replaceFrom, replaceAll]
  | cons c rest ih =>
    cases pending with
    | zero => rfl
    | succ n => simpa [replaceFrom] using ih n

theorem replaceAll_of_stands (hold : old ≠ []) (rest : List Char) :
    replaceAll old new (old ++ rest) = new ++ replaceAll old new rest := by
  obtain ⟨c, more, rfl⟩ := List.exists_cons_of_ne_nil hold
  have hstands : (c :: more).isPrefixOf (c :: (more ++ rest)) = true :=
    List.isPrefixOf_iff_prefix.2 ⟨rest, rfl⟩
  rw [replaceAll, List.cons_append, replaceFrom, if_pos hstands, replaceFrom_eq_drop]
  simp

theorem replaceAll_cons {c : Char} (h : ¬ old <+: c :: text) :
    replaceAll old new (c :: text) = c :: replaceAll old new text := by
  rw [replaceAll, replaceFrom, if_neg (fun h' => h (List.isPrefixOf_iff_prefix.1 h'))]
  rfl

theorem StandsFirstBehind.replaceAll_eq (hold : old ≠ [])
    (h : StandsFirstBehind old (front ++ old ++ rest) front) :
    replaceAll old new (front ++ old ++ rest) = front ++ new ++ replaceAll old new rest := by
  induction front with
  | nil => exact replaceAll_of_stands hold rest
  | cons c front ih =>
    rw [List.cons_append, List.cons_append] at h ⊢
    rw [replaceAll_cons h.not_prefix, ih h.tail]
    rfl

theorem FallsInto.replaceAll_eq (hold : old ≠ []) (h : FallsInto old text pieces) :
    replaceAll old new text = new.intercalate pieces := by
  induction h with
  | whole habsent => rw [replaceAll_of_absent habsent, List.intercalate_singleton]
  | cut hfront hrest ih =>
    rw [hfront.replaceAll_eq hold, List.intercalate_cons_of_ne_nil hrest.ne_nil, ih]

theorem mem_of_mem_replaceFrom {pending : Nat} {c : Char} (h : c ∈ replaceFrom old new pending text) :
    c ∈ new ∨ c ∈ text := by
  induction text generalizing pending with
  | nil => simp [replaceFrom] at h
  | cons d rest ih =>
    cases pending with
    | succ n => exact (ih h).imp_right (List.mem_cons_of_mem d)
    | zero =>
      simp only [replaceFrom] at h
      split at h
      · rcases List.mem_append.1 h with h | h
        · exact .inl h
        · exact (ih h).imp_right (List.mem_cons_of_mem d)
      · rcases List.mem_cons.1 h with rfl | h
        · exact .inr List.mem_cons_self
        · exact (ih h).imp_right (List.mem_cons_of_mem d)

end

end Renumber.Text
