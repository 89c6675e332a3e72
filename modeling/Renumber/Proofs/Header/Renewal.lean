import Renumber.Proofs.Header.Presentation
import Renumber.Proofs.Header.Stripping
import Renumber.Proofs.Text.Numeral

/-!
# What was written is kept by the next run

A header is carried over from build to build, so that a renumbered line is read again.  The line it was
made of has no accepted marker.  A character that is no slash and may not lead a comment bars markers:
none goes across it (`acceptsIn_append_cons`).  The number that replaces the token is made of such
characters, and so no new marker comes about around it; the remark begins with a blank, and its own
marker behind it is accepted only where blanks may lead a comment.

So the line has no accepted marker again; nor does it begin with one, as the number or what was kept in
front of the first marker stands in front of it (`renumberLine_isKept`).
-/

namespace Renumber

open Text

/-- The character is no part of an accepted marker. -/
def CommentLead.Bars (lead : CommentLead) (c : Char) : Prop := c ≠ '/' ∧ lead.allows c = false

/-! ## Characters that bar markers -/

section

variable {lead : CommentLead} {a b : List Char} {c : Char}

theorem acceptsIn_append_cons (hc : lead.Bars c) :
    lead.AcceptsIn (a ++ c :: b) ↔ lead.AcceptsIn a ∨ lead.AcceptsIn b := by
  constructor
  · rintro ⟨d, hallows, hwithin⟩
    have hout : c ∉ d :: slashes := by
      rintro hmem
      rcases List.mem_cons.1 hmem with rfl | hmem
      · rw [hc.2] at hallows
        cases hallows
      · exact hc.1 (by simpa [slashes] using hmem)
    rcases List.infix_append_iff.1 hwithin with h | h | ⟨l, l', hsplit, hl, hl'⟩
    · exact Or.inl ⟨d, hallows, h⟩
    · rcases List.infix_cons_iff.1 h with h | h
      · rw [List.cons_prefix_cons] at h
        exact absurd (by rw [h.1]; exact List.mem_cons_self) hout
      · exact Or.inr ⟨d, hallows, h⟩
    · cases l' with
      | nil =>
        rw [List.append_nil] at hsplit
        exact Or.inl ⟨d, hallows, by rw [hsplit]; exact hl.isInfix⟩
      | cons e l' =>
        rw [List.cons_prefix_cons] at hl'
        exact absurd (by rw [hsplit, hl'.1]; simp) hout
  · rintro (h | h)
    · exact h.mono (List.prefix_append a _).isInfix
    · exact h.mono ((List.suffix_cons c b).trans (List.suffix_append a _)).isInfix

theorem not_acceptsIn_append_cons (hc : lead.Bars c) (ha : ¬ lead.AcceptsIn a)
    (hb : ¬ lead.AcceptsIn b) : ¬ lead.AcceptsIn (a ++ c :: b) := by
  rw [acceptsIn_append_cons hc]
  exact not_or.2 ⟨ha, hb⟩

/-- No marker comes about where a text is put in that bars them. -/
theorem not_acceptsIn_around {between : List Char} (hne : between ≠ [])
    (hbars : ∀ c ∈ between, lead.Bars c) (ha : ¬ lead.AcceptsIn a) (hb : ¬ lead.AcceptsIn b) :
    ¬ lead.AcceptsIn (a ++ between ++ b) := by
  have hrest : ∀ text : List Char, (∀ c ∈ text, lead.Bars c) → ¬ lead.AcceptsIn (text ++ b) := by
    intro text htext
    induction text with
    | nil => exact hb
    | cons c text ih =>
      rw [List.forall_mem_cons] at htext
      have hnil : ¬ lead.AcceptsIn [] := by
        rintro ⟨d, -, h⟩
        simpa using h.length_le
      exact not_acceptsIn_append_cons (a := []) htext.1 hnil (ih htext.2)
  cases between with
  | nil => exact absurd rfl hne
  | cons c between =>
    rw [List.forall_mem_cons] at hbars
    rw [List.append_assoc, List.cons_append]
    exact not_acceptsIn_append_cons hbars.1 ha (hrest between hbars.2)

/-- A marker stands in front of a character that is no slash, or behind it. -/
theorem HasMarkerBehind.append_cons_cases {front : List Char} (hc : c ≠ '/')
    (h : HasMarkerBehind (a ++ c :: b) front) : HasMarkerBehind a front ∨ a ++ [c] <+: front := by
  have hout : c ∉ slashes := by simpa [slashes] using hc
  have hupto : a ++ [c] <+: a ++ c :: b := ⟨b, by simp⟩
  rcases List.prefix_or_prefix_of_prefix h hupto with hle | hle
  · rcases List.prefix_concat_iff.1 hle with heq | hle
    · -- the marker would end with the character
      have hlast := congrArg List.getLast? heq
      rw [List.getLast?_append, List.getLast?_concat] at hlast
      exact absurd (Option.some.inj hlast).symm hc
    · exact Or.inl hle
  · rcases List.prefix_or_prefix_of_prefix hle (List.prefix_append front slashes) with hle' | ⟨l, hl⟩
    · exact Or.inr hle'
    · rw [← hl, List.prefix_append_right_inj] at hle
      cases l using List.reverseRecOn with
      | nil =>
        rw [List.append_nil] at hl
        exact Or.inr (hl ▸ List.prefix_rfl)
      | append_singleton l d =>
        have hlast := congrArg List.getLast? hl
        rw [← List.append_assoc, List.getLast?_concat, List.getLast?_concat] at hlast
        obtain rfl := Option.some.inj hlast
        exact absurd (hle.subset (by simp)) hout

theorem not_acceptsIn_of_notMem (h : '/' ∉ a) : ¬ lead.AcceptsIn a := by
  rintro ⟨d, -, hwithin⟩
  exact h (hwithin.subset (by simp [slashes]))

/-- A line goes on to be kept if what follows a part of its start begins with a character that is neither
a slash nor blank, and if no marker is accepted. -/
theorem withoutComment?_append_cons {kept : List Char} (hkept : withoutComment? lead kept = some kept)
    (ha : a <+: kept) (hc : c ≠ '/') (hblank : isBlank c = false)
    (hnone : ¬ lead.AcceptsIn (a ++ c :: b)) :
    withoutComment? lead (a ++ c :: b) = some (a ++ c :: b) := by
  refine withoutComment?_eq_some_iff.2 (Or.inl ⟨rfl, hnone, fun first hfirst => ?_⟩)
  rcases hfirst.marked.append_cons_cases hc with hmarked | hle
  · obtain ⟨first', hfirst'⟩ := exists_isFirstMarker (hmarked.mono ha)
    have hle := hfirst'.first first (hmarked.mono ha)
    obtain ⟨d, hd, hd'⟩ := exists_not_isBlank_of_kept hkept hfirst'
    exact ⟨d, hle.subset hd, hd'⟩
  · exact ⟨c, hle.subset (by simp), hblank⟩

end

/-! ## What is written -/

theorem updateLabel_of_absent {s : Settings} {text : List Char}
    (h : s.previousLabel = "" ∨ s.previousLabel = s.currentLabel ∨
      ¬ s.previousLabel.toList <:+: text) : updateLabel s text = text := by
  unfold updateLabel
  split
  · rfl
  · rename_i hlabels
    rcases h with h | h | h
    · exact absurd (Or.inl h) hlabels
    · exact absurd (Or.inr h) hlabels
    · exact replaceAll_of_absent h

theorem bars_of_isDigit {c : Char} (h : c.isDigit ∨ c = '-') (lead : CommentLead) :
    lead.Bars c ∧ isBlank c = false := by
  have hall : ∀ n < 58, 48 ≤ n →
      (Char.ofNat n ≠ '/' ∧ (Char.ofNat n).isAlpha = false ∧ isFileBlank (Char.ofNat n) = false) ∧
        isBlank (Char.ofNat n) = false := by
    decide
  have hchar : (c ≠ '/' ∧ c.isAlpha = false ∧ isFileBlank c = false) ∧ isBlank c = false := by
    rcases h with h | rfl
    · simp only [Char.isDigit, Bool.and_eq_true, decide_eq_true_eq, ge_iff_le,
        UInt32.le_iff_toNat_le] at h
      have := hall c.toNat (Nat.lt_succ_of_le h.2) h.1
      rwa [Char.ofNat_toNat] at this
    · decide
  obtain ⟨⟨hslash, halpha, hfile⟩, hblank⟩ := hchar
  refine ⟨⟨hslash, ?_⟩, hblank⟩
  cases lead with
  | letter => exact halpha
  | letterOrBlank => exact Bool.or_eq_false_iff.2 ⟨halpha, hfile⟩

theorem slash_notMem_decimal (n : Nat) : '/' ∉ decimal n := fun h =>
  absurd (isDigit_of_mem_decimal h) (by decide)

/-- What replaces a token is a number, or the mark of a token without one. -/
theorem isDigit_of_mem_value {s : Settings} (hids : s.asFingerprints = false) (resolver : Resolver)
    (token : List Char) :
    (replaceToken s resolver token).value ≠ [] ∧
      ∀ c ∈ (replaceToken s resolver token).value, c.isDigit ∨ c = '-' := by
  have hnoNumber : noNumber ≠ [] ∧ ∀ c ∈ noNumber, c.isDigit ∨ c = '-' := by
    have heq : noNumber = ['-', '1'] := rfl
    simp [heq]
  unfold replaceToken
  cases readId? token with
  | none => exact hnoNumber
  | some id =>
    cases h : resolver id with
    | unknownId => simpa only [h] using hnoNumber
    | noCandidate => simpa only [h] using hnoNumber
    | resolved m =>
      simp only [h, hids, Bool.false_eq_true, if_false]
      exact ⟨Nat.toDigits_ne_nil, fun c hc => Or.inl (isDigit_of_mem_decimal hc)⟩

/-- Where only letters may lead a comment, a remark has an accepted marker only in a token or a signature
that has one. -/
theorem Annotates.not_acceptsIn {resolver : Resolver} {fate : TokenFate} {remark : List Char}
    (h : Annotates resolver fate remark)
    (htoken : ∀ token, fate = .notAnId token → ¬ CommentLead.letter.AcceptsIn token)
    (hsigned : ∀ p c m, fate = .matched p c → resolver p = .resolved m →
      (∃ x ∈ m.signature.toList, isBlank x = false) →
      ¬ CommentLead.letter.AcceptsIn m.signature.toList) :
    ∃ rest, remark = ' ' :: rest ∧ ¬ CommentLead.letter.AcceptsIn rest := by
  have hblank : CommentLead.letter.Bars ' ' := ⟨by decide, by decide⟩
  have hdecimal : ∀ n, ¬ CommentLead.letter.AcceptsIn (decimal n) := fun n =>
    not_acceptsIn_of_notMem (slash_notMem_decimal n)
  cases h with
  | notAnId token =>
    exact ⟨"//! Invalid Message ID:".toList ++ ' ' :: token, rfl,
      not_acceptsIn_append_cons hblank (by decide) (htoken token rfl)⟩
  | unknown id =>
    exact ⟨"//! Message Not Found:".toList ++ ' ' :: decimal id.toNat, rfl,
      not_acceptsIn_append_cons hblank (by decide) (hdecimal _)⟩
  | unmatched id =>
    exact ⟨"//! No Matches:".toList ++ ' ' :: decimal id.toNat, rfl,
      not_acceptsIn_append_cons hblank (by decide) (hdecimal _)⟩
  | @matched id m _ _ =>
    exact ⟨slashes ++ ' ' :: decimal id.toNat, rfl,
      not_acceptsIn_append_cons hblank (by decide) (hdecimal _)⟩
  | @signed id m hm hsome =>
    have hsignature := not_acceptsIn_append_cons (a := ['|']) hblank (by decide)
      (hsigned id m.id m rfl hm hsome)
    have hnumber := not_acceptsIn_append_cons hblank (hdecimal id.toNat) hsignature
    exact ⟨slashes ++ ' ' :: (decimal id.toNat ++ ' ' :: (['|'] ++ ' ' :: m.signature.toList)),
      by simp [slashes], not_acceptsIn_append_cons hblank (by decide) hnumber⟩

theorem token_of_notAnId {s : Settings} {resolver : Resolver} {token token' : List Char}
    (h : (replaceToken s resolver token).fate = .notAnId token') : token' = token := by
  unfold replaceToken at h
  cases hid : readId? token with
  | none =>
    rw [hid] at h
    exact (TokenFate.notAnId.inj h).symm
  | some id =>
    rw [hid] at h
    cases hresolve : resolver id <;> simp only [hresolve, reduceCtorEq] at h

/-- The rule on the remark: there is none, or only letters may lead a comment and no marker stands
behind one in the signature, if the remark has one. -/
def Settings.KeepsRemark (s : Settings) (resolver : Resolver) (fate : TokenFate) : Prop :=
  s.bare = true ∨ s.lead = .letter ∧ ∀ p c m, fate = .matched p c → resolver p = .resolved m →
    (∃ x ∈ m.signature.toList, isBlank x = false) →
    ¬ CommentLead.letter.AcceptsIn m.signature.toList

section

variable {s : Settings} {resolver : Resolver} {kept : List Char} {span : Span}

/-- The text of a line in which no label is replaced. -/
theorem renumberedText_unlabelled (hlabel : ∀ part, part <:+: kept → updateLabel s part = part) :
    renumberedText s resolver kept span =
      span.before kept ++ (replaceToken s resolver (span.covered kept)).value ++ span.after kept ++
        if s.bare then [] else (replaceToken s resolver (span.covered kept)).comment := by
  simp only [renumberedText, hlabel _ (span.before_isPrefix kept).isInfix,
    hlabel _ (span.after_isSuffix kept).isInfix]

/-- The parts of a line without accepted marker come together without one. -/
theorem not_acceptsIn_renumberedText (hnone : ¬ s.lead.AcceptsIn kept)
    (hids : s.asFingerprints = false) (hlabel : ∀ part, part <:+: kept → updateLabel s part = part)
    (hremark : s.KeepsRemark resolver (replaceToken s resolver (span.covered kept)).fate) :
    ¬ s.lead.AcceptsIn (renumberedText s resolver kept span) := by
  have hpart : ∀ part, part <:+: kept → ¬ s.lead.AcceptsIn part := fun part h haccepts =>
    hnone (haccepts.mono h)
  obtain ⟨hne, hdigits⟩ := isDigit_of_mem_value hids resolver (span.covered kept)
  have hcore := not_acceptsIn_around hne (fun c hc => (bars_of_isDigit (hdigits c hc) s.lead).1)
    (hpart _ (span.before_isPrefix kept).isInfix) (hpart _ (span.after_isSuffix kept).isInfix)
  rw [renumberedText_unlabelled hlabel]
  rcases hremark with hbare | ⟨hletter, hsigned⟩
  · rwa [if_pos hbare, List.append_nil]
  by_cases hbare : s.bare = true
  · rwa [if_pos hbare, List.append_nil]
  have htoken := hpart _ (span.covered_isInfix kept)
  rw [hletter] at hcore htoken ⊢
  obtain ⟨rest, hrest, hrest_none⟩ :=
    (annotates_comment s resolver (span.covered kept)).not_acceptsIn
      (fun token h => token_of_notAnId h ▸ htoken) hsigned
  rw [if_neg hbare, hrest]
  exact not_acceptsIn_append_cons ⟨by decide, by decide⟩ hcore hrest_none

end

/-! ## Main theorem -/

/-- A renumbered line that holds an id, and in which no label was replaced, is kept as it is by the next
run, if it has no remark, or if only letters may lead a comment and the signature in its remark has no
marker behind a letter. -/
theorem renumberLine_isKept (s : Settings) (resolver : Resolver) (number : Nat)
    (line text : List Char) (fate : TokenFate)
    (h : renumberLine s resolver number line = .ok (.renumbered text fate))
    (hids : s.asFingerprints = false)
    (hlabel : s.previousLabel = "" ∨ s.previousLabel = s.currentLabel ∨
      ∀ kept, withoutComment? s.lead line = some kept → ¬ s.previousLabel.toList <:+: kept)
    (hremark : s.KeepsRemark resolver fate) :
    withoutComment? s.lead text = some text := by
  obtain ⟨kept, span, hchooses, rfl, rfl⟩ := renumberLine_eq_renumbered_iff.1 h
  have hunchanged : ∀ part, part <:+: kept → updateLabel s part = part := by
    intro part hpart
    refine updateLabel_of_absent (hlabel.imp_right (Or.imp_right fun habsent hwithin => ?_))
    exact habsent kept hchooses.kept_eq (hwithin.trans hpart)
  have hnone := not_acceptsIn_renumberedText (not_acceptsIn_kept hchooses.kept_eq) hids hunchanged
    hremark
  obtain ⟨hne, hdigits⟩ := isDigit_of_mem_value hids resolver (span.covered kept)
  obtain ⟨c, more, hvalue⟩ := List.exists_cons_of_ne_nil hne
  rw [hvalue] at hdigits
  obtain ⟨hbars, hblank⟩ := bars_of_isDigit (hdigits c List.mem_cons_self) s.lead
  -- the number stands behind a part of what was kept
  rw [renumberedText_unlabelled hunchanged, hvalue, List.append_assoc, List.append_assoc,
    List.cons_append] at hnone ⊢
  exact withoutComment?_append_cons (withoutComment?_kept hchooses.kept_eq)
    (span.before_isPrefix kept) hbars.1 hblank hnone

/-- Neither the marker in front of the token nor the signature's own, behind the remark's, takes anything
from the line. -/
theorem renumberLine_isKept_manyMarkers :
    let s : Settings :=
      { pattern := ⟨#[.char '7'], 0⟩, previousLabel := "v7", currentLabel := "v8" }
    let resolver : Resolver := fun _ =>
      .resolved { id := 5, fingerprint := "F", direction := .outgoing, signature := "//x" }
    let line := ['=', '/', '/', '7']
    let text := "=//5 // 7 | //x".toList
    renumberLine s resolver 1 line = .ok (.renumbered text (.matched 7 5)) ∧
    s.asFingerprints = false ∧
    (∀ kept, withoutComment? s.lead line = some kept → ¬ s.previousLabel.toList <:+: kept) ∧
    s.KeepsRemark resolver (.matched 7 5) ∧
    withoutComment? s.lead text = some text := by
  intro s resolver line text
  have htokens : s.pattern.tokens line = [⟨3, 1⟩] := by cbv
  have hline : withoutComment? s.lead line = some line := by decide
  have hchooses : s.Chooses line line ⟨3, 1⟩ := ⟨hline, by rw [htokens]; rfl⟩
  have h : renumberLine s resolver 1 line = .ok (.renumbered text (.matched 7 5)) :=
    renumberLine_eq_renumbered_iff.2 ⟨_, _, hchooses, by decide, by decide⟩
  have hlabel : ∀ kept, withoutComment? s.lead line = some kept →
      ¬ s.previousLabel.toList <:+: kept := by
    intro kept hkept
    obtain rfl := Option.some.inj (hline.symm.trans hkept)
    decide
  have hremark : s.KeepsRemark resolver (.matched 7 5) := by
    refine Or.inr ⟨rfl, fun p c m _ hresolve _ => ?_⟩
    cases hresolve
    decide
  exact ⟨h, rfl, hlabel, hremark,
    renumberLine_isKept s resolver 1 line text _ h rfl (Or.inr (Or.inr hlabel)) hremark⟩

end Renumber
