import Renumber.Header.Comment

/-!
# Where the markers of a line stand

The place of a marker is told by what stands in front of it.  A line has no marker, or a first one
(`exists_isFirstMarker`), and no accepted marker, or a last one (`exists_isLastAccepted`).  What is left
of a line depends on these two alone:

    no marker               the line                                (withoutComment?_of_unmarked)
    none is accepted        the line, unless only blanks stand in front of the first marker
                                                                    (withoutComment?_of_unaccepted)
    a last accepted one     what stands in front of it, without the blanks at the end, if it is the
                            first marker and not only blanks stand in front of it
                                                                    (withoutComment?_of_accepted)
-/

namespace Renumber

open Text

/-- A marker stands in the line behind `front`. -/
def HasMarkerBehind (line front : List Char) : Prop := front ++ slashes <+: line

/-- The marker behind `front` is accepted. -/
def CommentLead.AcceptsBehind (lead : CommentLead) (line front : List Char) : Prop :=
  HasMarkerBehind line front ∧ ∃ c ∈ front.getLast?, lead.allows c

/-- Some marker of the text is accepted. -/
def CommentLead.AcceptsIn (lead : CommentLead) (text : List Char) : Prop :=
  ∃ c, lead.allows c ∧ c :: slashes <:+: text

/-- The first marker of the line is the one behind `front`. -/
structure IsFirstMarker (line front : List Char) : Prop where
  marked : HasMarkerBehind line front
  first : ∀ front', HasMarkerBehind line front' → front <+: front'

/-- The last accepted marker of the line is the one behind `front`. -/
structure CommentLead.IsLastAccepted (lead : CommentLead) (line front : List Char) : Prop where
  accepted : lead.AcceptsBehind line front
  last : ∀ front', lead.AcceptsBehind line front' → front' <+: front

/-! ## Lemmas -/

section

variable {line front : List Char} {lead : CommentLead}

theorem HasMarkerBehind.isPrefix (h : HasMarkerBehind line front) : front <+: line :=
  (List.prefix_append _ _).trans h

theorem HasMarkerBehind.mono {line' : List Char} (h : HasMarkerBehind line front)
    (hline : line <+: line') : HasMarkerBehind line' front :=
  List.IsPrefix.trans h hline

theorem hasMarkerBehind_cons {c d : Char} {rest : List Char} :
    HasMarkerBehind (c :: rest) (d :: front) ↔ d = c ∧ HasMarkerBehind rest front :=
  List.cons_prefix_cons

theorem acceptsBehind_cons {c : Char} {rest : List Char} :
    lead.AcceptsBehind (c :: rest) front ↔
      front = [c] ∧ lead.allows c ∧ slashes <+: rest ∨
        ∃ front', front = c :: front' ∧ lead.AcceptsBehind rest front' := by
  unfold CommentLead.AcceptsBehind
  match front with
  | [] => simp
  | [d] =>
    rw [hasMarkerBehind_cons]
    constructor
    · rintro ⟨⟨rfl, hmarked⟩, e, he, hallows⟩
      obtain rfl : d = e := by simpa using he
      exact Or.inl ⟨rfl, hallows, hmarked⟩
    · rintro (⟨hd, hallows, hmarked⟩ | ⟨front', hd, -, e, he, -⟩)
      · obtain rfl : d = c := by simpa using hd
        exact ⟨⟨rfl, hmarked⟩, d, by simp, hallows⟩
      · obtain ⟨-, rfl⟩ := List.cons.inj hd
        simp at he
  | d :: e :: front =>
    rw [hasMarkerBehind_cons, List.getLast?_cons_cons]
    constructor
    · rintro ⟨⟨rfl, hmarked⟩, haccepted⟩
      exact Or.inr ⟨_, rfl, hmarked, haccepted⟩
    · rintro (⟨hd, -⟩ | ⟨front', hd, hmarked, haccepted⟩)
      · simp at hd
      · obtain ⟨rfl, rfl⟩ := List.cons.inj hd
        exact ⟨⟨rfl, hmarked⟩, haccepted⟩

theorem acceptsIn_iff : lead.AcceptsIn line ↔ ∃ front, lead.AcceptsBehind line front := by
  constructor
  · rintro ⟨c, hallows, front, back, h⟩
    refine ⟨front ++ [c], ⟨back, ?_⟩, c, by simp, hallows⟩
    rw [← h]
    simp
  · rintro ⟨front, ⟨back, h⟩, c, hlast, hallows⟩
    obtain ⟨front', rfl⟩ := List.getLast?_eq_some_iff.1 hlast
    refine ⟨c, hallows, front', back, ?_⟩
    rw [← h]
    simp

theorem CommentLead.AcceptsIn.mono {text : List Char} (h : lead.AcceptsIn text)
    (htext : text <:+: line) : lead.AcceptsIn line := by
  obtain ⟨c, hallows, hc⟩ := h
  exact ⟨c, hallows, hc.trans htext⟩

/-! ## The first and the last marker -/

theorem firstMarker?_eq_none_iff : firstMarker? line = none ↔ ∀ front, ¬ HasMarkerBehind line front := by
  induction line with
  | nil => simp [firstMarker?, HasMarkerBehind, slashes]
  | cons c rest ih =>
    unfold firstMarker?
    split
    · rename_i h
      simp only [reduceCtorEq, false_iff]
      exact fun hall => hall [] (List.isPrefixOf_iff_prefix.1 h)
    · rename_i h
      rw [Option.map_eq_none_iff, ih]
      constructor
      · intro hrest front hmarked
        cases front with
        | nil => exact h (List.isPrefixOf_iff_prefix.2 hmarked)
        | cons d front => exact hrest front (hasMarkerBehind_cons.1 hmarked).2
      · intro hall front hmarked
        exact hall (c :: front) (hasMarkerBehind_cons.2 ⟨rfl, hmarked⟩)

theorem isFirstMarker_of_firstMarker? {i : Nat} (h : firstMarker? line = some i) :
    IsFirstMarker line (line.take i) ∧ (line.take i).length = i := by
  induction line generalizing i with
  | nil => cases h
  | cons c rest ih =>
    unfold firstMarker? at h
    split at h
    · rename_i hmarked
      cases h
      exact ⟨⟨List.isPrefixOf_iff_prefix.1 hmarked, fun _ _ => List.nil_prefix⟩, rfl⟩
    · rename_i hmarked
      obtain ⟨i, hi, rfl⟩ := Option.map_eq_some_iff.1 h
      obtain ⟨⟨hrest, hfirst⟩, hlength⟩ := ih hi
      refine ⟨⟨hasMarkerBehind_cons.2 ⟨rfl, hrest⟩, fun front' hfront' => ?_⟩, ?_⟩
      · cases front' with
        | nil => exact absurd (List.isPrefixOf_iff_prefix.2 hfront') hmarked
        | cons d front' =>
          obtain ⟨hd, hbehind⟩ := hasMarkerBehind_cons.1 hfront'
          exact List.cons_prefix_cons.2 ⟨hd.symm, hfirst front' hbehind⟩
      · rw [List.take_succ_cons, List.length_cons, hlength]

theorem lastAccepted?_eq_none_iff :
    lastAccepted? lead line = none ↔ ∀ front, ¬ lead.AcceptsBehind line front := by
  induction line with
  | nil => simp [lastAccepted?, CommentLead.AcceptsBehind, HasMarkerBehind, slashes]
  | cons c rest ih =>
    unfold lastAccepted?
    cases hrest : lastAccepted? lead rest with
    | some i =>
      have hsome : ¬ ∀ front, ¬ lead.AcceptsBehind rest front := by
        rw [← ih, hrest]
        simp
      simp only [reduceCtorEq, false_iff]
      intro hall
      exact hsome fun front h => hall (c :: front) (acceptsBehind_cons.2 (Or.inr ⟨front, rfl, h⟩))
    | none =>
      have hnone := ih.1 hrest
      simp only [acceptsBehind_cons]
      split
      · rename_i h
        rw [Bool.and_eq_true, List.isPrefixOf_iff_prefix] at h
        simp only [reduceCtorEq, false_iff]
        exact fun hall => hall [c] (Or.inl ⟨rfl, h⟩)
      · rename_i h
        rw [Bool.and_eq_true, List.isPrefixOf_iff_prefix] at h
        simp [h, hnone]

theorem isLastAccepted_of_lastAccepted? {i : Nat} (h : lastAccepted? lead line = some i) :
    lead.IsLastAccepted line (line.take i) ∧ (line.take i).length = i := by
  induction line generalizing i with
  | nil => cases h
  | cons c rest ih =>
    unfold lastAccepted? at h
    cases hrest : lastAccepted? lead rest with
    | some j =>
      rw [hrest] at h
      cases h
      obtain ⟨⟨haccepted, hlast⟩, hlength⟩ := ih hrest
      refine ⟨⟨acceptsBehind_cons.2 (Or.inr ⟨_, rfl, haccepted⟩), fun front' hfront' => ?_⟩, ?_⟩
      · rcases acceptsBehind_cons.1 hfront' with ⟨rfl, -⟩ | ⟨front', rfl, hbehind⟩
        · exact ⟨_, rfl⟩
        · exact List.cons_prefix_cons.2 ⟨rfl, hlast front' hbehind⟩
      · rw [List.take_succ_cons, List.length_cons, hlength]
    | none =>
      have hnone := lastAccepted?_eq_none_iff.1 hrest
      simp only [hrest] at h
      split at h
      · rename_i hc
        cases h
        rw [Bool.and_eq_true, List.isPrefixOf_iff_prefix] at hc
        refine ⟨⟨acceptsBehind_cons.2 (Or.inl ⟨rfl, hc⟩), fun front' hfront' => ?_⟩, rfl⟩
        rcases acceptsBehind_cons.1 hfront' with ⟨rfl, -⟩ | ⟨front', rfl, hbehind⟩
        · exact List.prefix_rfl
        · exact absurd hbehind (hnone front')
      · cases h

theorem lastAccepted?_eq_none_iff_acceptsIn : lastAccepted? lead line = none ↔ ¬ lead.AcceptsIn line := by
  rw [lastAccepted?_eq_none_iff, acceptsIn_iff, not_exists]

instance (lead : CommentLead) (line : List Char) : Decidable (lead.AcceptsIn line) :=
  decidable_of_iff (lastAccepted? lead line ≠ none)
    ((not_congr lastAccepted?_eq_none_iff_acceptsIn).trans Classical.not_not)

/-- A line has a first marker, unless it has none. -/
theorem exists_isFirstMarker (h : HasMarkerBehind line front) : ∃ first, IsFirstMarker line first := by
  cases hfirst : firstMarker? line with
  | none => exact absurd h (firstMarker?_eq_none_iff.1 hfirst front)
  | some i => exact ⟨_, (isFirstMarker_of_firstMarker? hfirst).1⟩

/-- A line has a last accepted marker, unless it has none. -/
theorem exists_isLastAccepted (h : lead.AcceptsBehind line front) :
    ∃ last, lead.IsLastAccepted line last := by
  cases hlast : lastAccepted? lead line with
  | none => exact absurd h (lastAccepted?_eq_none_iff.1 hlast front)
  | some i => exact ⟨_, (isLastAccepted_of_lastAccepted? hlast).1⟩

theorem IsFirstMarker.eq {front' : List Char} (h : IsFirstMarker line front)
    (h' : IsFirstMarker line front') : front = front' :=
  (h.first front' h'.marked).eq_of_length_le (h'.first front h.marked).length_le

theorem IsFirstMarker.firstMarker?_eq (h : IsFirstMarker line front) :
    firstMarker? line = some front.length := by
  cases hi : firstMarker? line with
  | none => exact absurd h.marked (firstMarker?_eq_none_iff.1 hi front)
  | some i =>
    obtain ⟨hfirst, hlength⟩ := isFirstMarker_of_firstMarker? hi
    rw [h.eq hfirst, hlength]

theorem CommentLead.IsLastAccepted.lastAccepted?_eq (h : lead.IsLastAccepted line front) :
    lastAccepted? lead line = some front.length := by
  cases hi : lastAccepted? lead line with
  | none => exact absurd h.accepted (lastAccepted?_eq_none_iff.1 hi front)
  | some i =>
    obtain ⟨hlast, hlength⟩ := isLastAccepted_of_lastAccepted? hi
    have hle := (h.last _ hlast.accepted).length_le
    rw [(hlast.last _ h.accepted).eq_of_length_le hle, hlength]

end

/-! ## What is left of a line -/

section

variable {line first cut : List Char} {lead : CommentLead}

theorem withoutComment?_of_unmarked (h : ∀ front, ¬ HasMarkerBehind line front) :
    withoutComment? lead line = some line := by
  unfold withoutComment?
  rw [firstMarker?_eq_none_iff.2 h]

theorem HasMarkerBehind.mem {front : List Char} (h : HasMarkerBehind line front) : '/' ∈ line :=
  h.subset (by simp [slashes])

theorem not_all_isBlank_iff {text : List Char} :
    ¬ text.all isBlank = true ↔ ∃ c ∈ text, isBlank c = false := by
  simp

theorem withoutComment?_of_unaccepted (hfirst : IsFirstMarker line first)
    (hnone : ∀ front, ¬ lead.AcceptsBehind line front) :
    withoutComment? lead line = if first.all isBlank then none else some line := by
  have hline : ¬ line.all isBlank = true :=
    not_all_isBlank_iff.2 ⟨'/', hfirst.marked.mem, by decide⟩
  have hlength : first.length < line.length := by
    have hle := hfirst.marked.length_le
    rw [List.length_append] at hle
    exact Nat.lt_of_lt_of_le (Nat.lt_add_of_pos_right (by decide)) hle
  have hfront : line.take first.length = first :=
    (List.prefix_iff_eq_take.1 hfirst.marked.isPrefix).symm
  unfold withoutComment?
  simp only [hfirst.firstMarker?_eq, lastAccepted?_eq_none_iff.2 hnone, if_neg hline, hlength,
    Option.isSome_none, Bool.false_eq_true, false_or, true_and, hfront]

theorem withoutComment?_of_accepted (hfirst : IsFirstMarker line first)
    (hcut : lead.IsLastAccepted line cut) :
    withoutComment? lead line =
      if first = cut ∧ ¬ cut.all isBlank then some (trimEnd cut) else none := by
  have hfront : line.take cut.length = cut :=
    (List.prefix_iff_eq_take.1 hcut.accepted.1.isPrefix).symm
  unfold withoutComment?
  simp only [hfirst.firstMarker?_eq, hcut.lastAccepted?_eq, Option.isSome_some, true_or, and_true,
    hfront]
  by_cases hblank : (trimEnd cut).all isBlank = true
  · rw [if_pos hblank, if_neg]
    rintro ⟨-, hsome⟩
    obtain ⟨c, hc, hc'⟩ := not_all_isBlank_iff.1 hsome
    exact not_all_isBlank_iff.2 ⟨c, (mem_trimEnd hc').2 hc, hc'⟩ hblank
  obtain ⟨c, hc, hc'⟩ := not_all_isBlank_iff.1 hblank
  have hsome : ¬ cut.all isBlank := not_all_isBlank_iff.2 ⟨c, (mem_trimEnd hc').1 hc, hc'⟩
  rw [if_neg hblank]
  have hle := hfirst.first cut hcut.accepted.1
  by_cases heq : first = cut
  · have hlength : ¬ first.length < (trimEnd cut).length := by
      rw [heq]
      exact Nat.not_lt_of_le (trimEnd_isPrefix cut).length_le
    rw [if_neg hlength, if_pos ⟨heq, hsome⟩]
  · -- the first marker stands in front of the cut, and begins with a character that is not blank
    have hslash : first ++ ['/'] <+: cut := by
      have hline : first ++ ['/'] <+: line :=
        ((List.prefix_append_right_inj first).2 ⟨['/'], rfl⟩).trans hfirst.marked
      rcases List.prefix_or_prefix_of_prefix hline hcut.accepted.1.isPrefix with h | h
      · exact h
      · rcases List.prefix_concat_iff.1 h with h | h
        · exact ⟨[], by rw [List.append_nil, h]⟩
        · exact absurd (hle.eq_of_length_le h.length_le) heq
    have hlength : first.length < (trimEnd cut).length := by
      have hle := (prefix_trimEnd (by decide) hslash).length_le
      rwa [List.length_append] at hle
    rw [if_pos hlength, if_neg fun h => heq h.1]

end

end Renumber
