import Mathlib.Tactic.ByContra
import Renumber.Proofs.Header.Marker

/-!
# Taking the comment away twice, and under the other rule

What is left of a line is the line itself, or what stands in front of its first marker
(`withoutComment?_eq_some_iff`).  Either way it has no accepted marker, so that nothing more is taken
away a second time.

Whoever accepts a blank in front of a marker accepts a letter, too.  So the last marker that is accepted
behind a letter lies between the first marker and the last one that is accepted at all; and if the line
is not dropped where blanks are accepted, there is no room between these two
(`withoutComment?_isStable`).
-/

namespace Renumber

open Text

section

variable {line kept front : List Char} {lead : CommentLead}

/-- What is kept is a line without accepted marker that does not begin with a marker, or what stands in
front of the first marker if this is the last accepted one. -/
theorem withoutComment?_eq_some_iff :
    withoutComment? lead line = some kept ↔
      (kept = line ∧ ¬ lead.AcceptsIn line ∧
        ∀ first, IsFirstMarker line first → ∃ c ∈ first, isBlank c = false) ∨
      ∃ cut, IsFirstMarker line cut ∧ lead.IsLastAccepted line cut ∧
        (∃ c ∈ cut, isBlank c = false) ∧ kept = trimEnd cut := by
  constructor
  · intro h
    by_cases hmarked : ∃ front, HasMarkerBehind line front
    · obtain ⟨front, hfront⟩ := hmarked
      obtain ⟨first, hfirst⟩ := exists_isFirstMarker hfront
      by_cases haccepts : lead.AcceptsIn line
      · obtain ⟨front', hfront'⟩ := acceptsIn_iff.1 haccepts
        obtain ⟨cut, hcut⟩ := exists_isLastAccepted hfront'
        rw [withoutComment?_of_accepted hfirst hcut] at h
        split at h
        · rename_i hkept
          obtain ⟨rfl, hkept⟩ := hkept
          cases h
          exact Or.inr ⟨first, hfirst, hcut, not_all_isBlank_iff.1 hkept, rfl⟩
        · cases h
      · have hnone := not_exists.1 (mt acceptsIn_iff.2 haccepts)
        rw [withoutComment?_of_unaccepted hfirst hnone] at h
        split at h
        · cases h
        · rename_i hkept
          cases h
          refine Or.inl ⟨rfl, haccepts, fun first' hfirst' => ?_⟩
          rw [hfirst'.eq hfirst]
          exact not_all_isBlank_iff.1 hkept
    · rw [withoutComment?_of_unmarked (not_exists.1 hmarked)] at h
      cases h
      refine Or.inl ⟨rfl, fun haccepts => ?_, fun first hfirst => ?_⟩
      · obtain ⟨front, hfront, -⟩ := acceptsIn_iff.1 haccepts
        exact hmarked ⟨front, hfront⟩
      · exact absurd ⟨first, hfirst.marked⟩ hmarked
  · rintro (⟨rfl, haccepts, hkept⟩ | ⟨cut, hfirst, hcut, hkept, rfl⟩)
    · by_cases hmarked : ∃ front, HasMarkerBehind kept front
      · obtain ⟨front, hfront⟩ := hmarked
        obtain ⟨first, hfirst⟩ := exists_isFirstMarker hfront
        have hnone := not_exists.1 (mt acceptsIn_iff.2 haccepts)
        rw [withoutComment?_of_unaccepted hfirst hnone, if_neg (not_all_isBlank_iff.2 (hkept first hfirst))]
      · exact withoutComment?_of_unmarked (not_exists.1 hmarked)
    · rw [withoutComment?_of_accepted hfirst hcut, if_pos ⟨rfl, not_all_isBlank_iff.2 hkept⟩]

theorem kept_isPrefix (h : withoutComment? lead line = some kept) : kept <+: line := by
  rcases withoutComment?_eq_some_iff.1 h with ⟨rfl, -⟩ | ⟨cut, hfirst, -, -, rfl⟩
  · exact List.prefix_rfl
  · exact (trimEnd_isPrefix cut).trans hfirst.marked.isPrefix

/-- In front of the first marker there is none. -/
theorem IsFirstMarker.not_hasMarkerBehind (h : IsFirstMarker line front) {text front' : List Char}
    (htext : text <+: front) : ¬ HasMarkerBehind text front' := by
  intro hmarked
  have hline := h.first front' (hmarked.mono (htext.trans h.marked.isPrefix))
  have hlength := (List.IsPrefix.trans hmarked htext).length_le
  rw [List.length_append] at hlength
  have hle := hline.length_le
  have hslashes : slashes.length = 2 := rfl
  omega

theorem not_acceptsIn_kept (h : withoutComment? lead line = some kept) : ¬ lead.AcceptsIn kept := by
  rcases withoutComment?_eq_some_iff.1 h with ⟨rfl, hnone, -⟩ | ⟨cut, hfirst, -, -, rfl⟩
  · exact hnone
  · intro haccepts
    obtain ⟨front, hmarked, -⟩ := acceptsIn_iff.1 haccepts
    exact hfirst.not_hasMarkerBehind (trimEnd_isPrefix cut) hmarked

/-- Nothing more is taken away from what was kept. -/
theorem withoutComment?_kept (h : withoutComment? lead line = some kept) :
    withoutComment? lead kept = some kept := by
  rcases withoutComment?_eq_some_iff.1 h with ⟨rfl, -⟩ | ⟨cut, hfirst, -, -, rfl⟩
  · exact h
  · exact withoutComment?_of_unmarked fun front =>
      hfirst.not_hasMarkerBehind (trimEnd_isPrefix cut)

/-- Nothing that is kept begins with a marker. -/
theorem exists_not_isBlank_of_kept (h : withoutComment? lead kept = some kept)
    (hfirst : IsFirstMarker kept front) : ∃ c ∈ front, isBlank c = false := by
  rcases withoutComment?_eq_some_iff.1 h with ⟨-, -, hkept⟩ | ⟨cut, hcut, -, hkept, -⟩
  · exact hkept front hfirst
  · rwa [hfirst.eq hcut]

/-! ## Both rules -/

theorem CommentLead.allows_of_letter {c : Char} (h : CommentLead.letter.allows c) (lead : CommentLead) :
    lead.allows c := by
  cases lead with
  | letter => exact h
  | letterOrBlank => exact Bool.or_eq_true_iff.2 (Or.inl h)

theorem CommentLead.AcceptsIn.of_letter (h : CommentLead.letter.AcceptsIn line) (lead : CommentLead) :
    lead.AcceptsIn line := by
  obtain ⟨c, hallows, hc⟩ := h
  exact ⟨c, CommentLead.allows_of_letter hallows lead, hc⟩

theorem CommentLead.AcceptsBehind.of_letter (h : CommentLead.letter.AcceptsBehind line front)
    (lead : CommentLead) : lead.AcceptsBehind line front := by
  obtain ⟨hmarked, c, hc, hallows⟩ := h
  exact ⟨hmarked, c, hc, CommentLead.allows_of_letter hallows lead⟩

/-- Where a line is kept under the rule that accepts more, the other rule keeps the same of it, or all. -/
theorem exists_withoutComment?_letter (h : withoutComment? lead line = some kept) :
    ∃ kept', withoutComment? .letter line = some kept' ∧ (kept' = kept ∨ kept' = line) ∧
      kept <+: kept' := by
  rcases withoutComment?_eq_some_iff.1 h with ⟨rfl, hnone, hkept⟩ | ⟨cut, hfirst, hcut, hkept, rfl⟩
  · have hletter : ¬ CommentLead.letter.AcceptsIn kept := fun haccepts =>
      hnone (haccepts.of_letter lead)
    exact ⟨kept, withoutComment?_eq_some_iff.2 (Or.inl ⟨rfl, hletter, hkept⟩), Or.inl rfl,
      List.prefix_rfl⟩
  · by_cases haccepts : CommentLead.letter.AcceptsIn line
    · -- the last marker behind a letter lies between the first one and the cut
      obtain ⟨front', hfront'⟩ := acceptsIn_iff.1 haccepts
      obtain ⟨cut', hcut'⟩ := exists_isLastAccepted hfront'
      have hbehind := hfirst.first cut' hcut'.accepted.1
      have hbefore := hcut.last cut' (hcut'.accepted.of_letter lead)
      obtain rfl : cut' = cut := hbefore.eq_of_length_le hbehind.length_le
      exact ⟨trimEnd cut', withoutComment?_eq_some_iff.2
        (Or.inr ⟨cut', hfirst, hcut', hkept, rfl⟩), Or.inl rfl, List.prefix_rfl⟩
    · refine ⟨line, withoutComment?_eq_some_iff.2 (Or.inl ⟨rfl, haccepts, ?_⟩), Or.inr rfl,
        (trimEnd_isPrefix cut).trans hfirst.marked.isPrefix⟩
      intro first hfirst'
      rwa [hfirst'.eq hfirst]

end

/-! ## Main theorem -/

/-- What is left of a line begins it, has no accepted marker and is left as it is; and a line that is
kept where blanks may lead a comment is kept where only letters may, and as much of it or all. -/
theorem withoutComment?_isStable :
    (∀ (lead : CommentLead) (line kept : List Char), withoutComment? lead line = some kept →
      kept <+: line ∧ ¬ lead.AcceptsIn kept ∧ withoutComment? lead kept = some kept) ∧
    (∀ line kept : List Char, withoutComment? .letterOrBlank line = some kept →
      ∃ kept', withoutComment? .letter line = some kept' ∧ (kept' = kept ∨ kept' = line) ∧
        kept <+: kept') ∧
    ∀ line : List Char, withoutComment? .letter line = none →
      withoutComment? .letterOrBlank line = none := by
  refine ⟨fun lead line kept h => ?_, fun line kept h => exists_withoutComment?_letter h,
    fun line h => ?_⟩
  · exact ⟨kept_isPrefix h, not_acceptsIn_kept h, withoutComment?_kept h⟩
  · by_contra hne
    obtain ⟨kept, hkept⟩ := Option.ne_none_iff_exists'.1 hne
    obtain ⟨kept', hkept', -⟩ := exists_withoutComment?_letter hkept
    rw [h] at hkept'
    cases hkept'

/-- A marker behind a blank is a comment to one rule only; a line that begins with one is dropped by
both. -/
theorem withoutComment?_isStable_twoRules :
    let line := ['a', ';', ' ', '/', '/', 'b']
    let dropped := ['/', '/', 'b', '/', '/']
    withoutComment? .letterOrBlank line = some ['a', ';'] ∧
    (['a', ';'] <+: line ∧ ¬ CommentLead.letterOrBlank.AcceptsIn ['a', ';'] ∧
      withoutComment? .letterOrBlank ['a', ';'] = some ['a', ';']) ∧
    (∃ kept', withoutComment? .letter line = some kept' ∧ (kept' = ['a', ';'] ∨ kept' = line) ∧
      ['a', ';'] <+: kept') ∧
    withoutComment? .letter dropped = none ∧ withoutComment? .letterOrBlank dropped = none := by
  intro line dropped
  have hkept : withoutComment? .letterOrBlank line = some ['a', ';'] := by decide
  have hdropped : withoutComment? .letter dropped = none := by decide
  obtain ⟨hstable, hordered, hmore⟩ := withoutComment?_isStable
  exact ⟨hkept, hstable _ _ _ hkept, hordered _ _ hkept, hdropped, hmore _ hdropped⟩

end Renumber
