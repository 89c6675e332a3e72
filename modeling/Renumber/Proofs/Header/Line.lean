import Renumber.Header.Line

/-!
# When a line is dropped, kept, renumbered or refused

The four ends that carrying over a line can have, each with the condition for it
(`renumberLine_cases`):

    dropped      nothing is left without the comment
    kept         what is left has no token                     (renumberLine_eq_kept_iff)
    renumbered   the settings choose one of its tokens         (renumberLine_eq_renumbered_iff)
    refused      it has tokens, but not as many as the index   (renumberLine_eq_error_iff)

Only a choice by index can refuse a line, and the resolver has no part in which end it is.
-/

namespace Renumber

/-- The token that a choice takes among those of a line. -/
def TokenChoice.Picks (choice : TokenChoice) (tokens : List Span) (span : Span) : Prop :=
  match choice with
  | .last => tokens.getLast? = some span
  | .index i => tokens[i.toNat]? = some span

/-- What is left of a line without its comment, and the token chosen in it. -/
structure Settings.Chooses (s : Settings) (line kept : List Char) (span : Span) : Prop where
  kept_eq : withoutComment? s.lead line = some kept
  picks : s.choice.Picks (s.pattern.tokens kept) span

/-- A line that has tokens, but none with the index that is asked for. -/
structure Settings.Lacks (s : Settings) (line kept : List Char) (i : UInt64) : Prop where
  kept_eq : withoutComment? s.lead line = some kept
  choice_eq : s.choice = .index i
  ne_nil : s.pattern.tokens kept ≠ []
  length_le : (s.pattern.tokens kept).length ≤ i.toNat

/-- The text of a renumbered line: the parts around the token under the current label, what replaces
the token, and the remark. -/
def renumberedText (s : Settings) (resolver : Resolver) (kept : List Char) (span : Span) :
    List Char :=
  let r := replaceToken s resolver (span.covered kept)
  updateLabel s (span.before kept) ++ r.value ++ updateLabel s (span.after kept) ++
    if s.bare then [] else r.comment

/-! ## Lemmas -/

theorem TokenChoice.Picks.ne_nil {choice : TokenChoice} {tokens : List Span} {span : Span}
    (h : choice.Picks tokens span) : tokens ≠ [] := by
  rintro rfl
  cases choice <;> simp [Picks] at h

theorem TokenChoice.Picks.mem {choice : TokenChoice} {tokens : List Span} {span : Span}
    (h : choice.Picks tokens span) : span ∈ tokens := by
  cases choice with
  | last => exact List.mem_of_getLast? h
  | index i => exact List.mem_of_getElem? h

theorem TokenChoice.select_eq_ok_iff {choice : TokenChoice} {number : Nat} {first span : Span}
    {rest : List Span} :
    choice.select number first rest = .ok span ↔ choice.Picks (first :: rest) span := by
  cases choice with
  | last => simp [select, Picks, List.getLast?_eq_some_getLast]
  | index i =>
    unfold select Picks
    cases h : (first :: rest)[i.toNat]? <;> simp [h]

theorem TokenChoice.select_eq_error_iff {choice : TokenChoice} {number : Nat} {first : Span}
    {rest : List Span} {e : Error} :
    choice.select number first rest = .error e ↔
      ∃ i, choice = .index i ∧ (first :: rest).length ≤ i.toNat ∧
        e = .tokenOutOfRange number i (first :: rest).length := by
  cases choice with
  | last => simp [select]
  | index i =>
    unfold select
    cases h : (first :: rest)[i.toNat]? with
    | none =>
      have hlen := List.getElem?_eq_none_iff.1 h
      simp only [h, Except.error.injEq, index.injEq, exists_eq_left', hlen, true_and]
      exact eq_comm
    | some span =>
      have hlen := (List.getElem?_eq_some_iff.1 h).1
      simp only [h, reduceCtorEq, index.injEq, exists_eq_left', false_iff]
      rintro ⟨hle, -⟩
      omega

section

variable {s : Settings} {resolver : Resolver} {number : Nat} {line : List Char}

theorem renumberLine_of_chooses {kept : List Char} {span : Span} (h : s.Chooses line kept span) :
    renumberLine s resolver number line =
      .ok (.renumbered (renumberedText s resolver kept span)
        (replaceToken s resolver (span.covered kept)).fate) := by
  unfold renumberLine
  rw [h.kept_eq]
  cases ht : s.pattern.tokens kept with
  | nil => exact absurd ht h.picks.ne_nil
  | cons first rest =>
    have hs : s.choice.select number first rest = .ok span :=
      TokenChoice.select_eq_ok_iff.2 (ht ▸ h.picks)
    simp only [ht, hs, renumberedText]
    cases s.bare <;> simp

theorem renumberLine_of_lacks {kept : List Char} {i : UInt64} (h : s.Lacks line kept i) :
    renumberLine s resolver number line =
      .error (.tokenOutOfRange number i (s.pattern.tokens kept).length) := by
  unfold renumberLine
  rw [h.kept_eq]
  cases ht : s.pattern.tokens kept with
  | nil => exact absurd ht h.ne_nil
  | cons first rest =>
    have hs : s.choice.select number first rest =
        .error (.tokenOutOfRange number i (first :: rest).length) :=
      TokenChoice.select_eq_error_iff.2 ⟨i, h.choice_eq, ht ▸ h.length_le, rfl⟩
    simp only [ht, hs]

/-- The four ends that carrying over a line can have, each with its condition. -/
theorem renumberLine_cases (s : Settings) (resolver : Resolver) (number : Nat) (line : List Char) :
    (withoutComment? s.lead line = none ∧ renumberLine s resolver number line = .ok .dropped) ∨
    (∃ kept, withoutComment? s.lead line = some kept ∧ s.pattern.tokens kept = [] ∧
      renumberLine s resolver number line = .ok (.kept kept)) ∨
    (∃ kept span, s.Chooses line kept span ∧
      renumberLine s resolver number line = .ok (.renumbered (renumberedText s resolver kept span)
        (replaceToken s resolver (span.covered kept)).fate)) ∨
    (∃ kept i, s.Lacks line kept i ∧
      renumberLine s resolver number line =
        .error (.tokenOutOfRange number i (s.pattern.tokens kept).length)) := by
  cases hk : withoutComment? s.lead line with
  | none =>
    left
    exact ⟨rfl, by simp [renumberLine, hk]⟩
  | some kept =>
    right
    cases ht : s.pattern.tokens kept with
    | nil =>
      left
      exact ⟨kept, rfl, ht, by simp [renumberLine, hk, ht]⟩
    | cons first rest =>
      right
      cases hs : s.choice.select number first rest with
      | ok span =>
        left
        have hpicks := TokenChoice.select_eq_ok_iff.1 hs
        have h : s.Chooses line kept span := ⟨hk, by rwa [ht]⟩
        exact ⟨kept, span, h, renumberLine_of_chooses h⟩
      | error e =>
        right
        obtain ⟨i, hi, hlen, -⟩ := TokenChoice.select_eq_error_iff.1 hs
        have h : s.Lacks line kept i := ⟨hk, hi, by simp [ht], by rwa [ht]⟩
        exact ⟨kept, i, h, renumberLine_of_lacks h⟩

theorem renumberLine_eq_kept_iff {text : List Char} :
    renumberLine s resolver number line = .ok (.kept text) ↔
      withoutComment? s.lead line = some text ∧ s.pattern.tokens text = [] := by
  constructor
  · intro h
    rcases renumberLine_cases s resolver number line with
      ⟨-, h'⟩ | ⟨kept, hkept, htokens, h'⟩ | ⟨kept, span, -, h'⟩ | ⟨kept, i, -, h'⟩ <;>
      rw [h'] at h <;> cases h
    exact ⟨hkept, htokens⟩
  · rintro ⟨hkept, htokens⟩
    simp [renumberLine, hkept, htokens]

theorem renumberLine_eq_renumbered_iff {text : List Char} {fate : TokenFate} :
    renumberLine s resolver number line = .ok (.renumbered text fate) ↔
      ∃ kept span, s.Chooses line kept span ∧ text = renumberedText s resolver kept span ∧
        fate = (replaceToken s resolver (span.covered kept)).fate := by
  constructor
  · intro h
    rcases renumberLine_cases s resolver number line with
      ⟨-, h'⟩ | ⟨kept, -, -, h'⟩ | ⟨kept, span, hc, h'⟩ | ⟨kept, i, -, h'⟩ <;>
      rw [h'] at h <;> cases h
    exact ⟨kept, span, hc, rfl, rfl⟩
  · rintro ⟨kept, span, hc, rfl, rfl⟩
    exact renumberLine_of_chooses hc

theorem renumberLine_eq_error_iff {e : Error} :
    renumberLine s resolver number line = .error e ↔
      ∃ kept i, s.Lacks line kept i ∧
        e = .tokenOutOfRange number i (s.pattern.tokens kept).length := by
  constructor
  · intro h
    rcases renumberLine_cases s resolver number line with
      ⟨-, h'⟩ | ⟨kept, -, -, h'⟩ | ⟨kept, span, -, h'⟩ | ⟨kept, i, hl, h'⟩ <;>
      rw [h'] at h <;> cases h
    exact ⟨kept, i, hl, rfl⟩
  · rintro ⟨kept, i, hl, rfl⟩
    exact renumberLine_of_lacks hl

end

end Renumber
