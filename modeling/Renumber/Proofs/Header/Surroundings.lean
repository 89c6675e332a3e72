import Renumber.Proofs.Header.Renewal
import Renumber.Proofs.Text.Pieces

/-!
# What a renumbered line has in common with the line before

A line is changed at the chosen token and at the labels of the previous build in front of it and behind
it; what follows is the remark.  The two parts around the token are relabelled one by one, so a label
that reaches into the token stays as it is (`Settings.RelabelsAt`), and a line without token keeps its
labels.

A line that is carried over stays one line: a line feed in it comes from the line itself, from the
current label, or from a text of the message that was found (`Settings.BringsLineFeed`).

    text  =  updateLabel before ++ value ++ updateLabel after ++ remark      (renumberLine_changesOnly)
-/

namespace Renumber

open Text

/-- The token that a match stands for: its first group that took part, or else all of it. -/
inductive Pattern.StandsFor (p : Pattern) (m : Pattern.Match) : Span → Prop
  | group {number : Nat} {span : Span} (hpos : 0 < number) (hle : number ≤ p.groups)
      (hspan : m.group? number = some span)
      (hfirst : ∀ earlier, 0 < earlier → earlier < number → m.group? earlier = none) :
      StandsFor p m span
  | whole (hnone : ∀ number, 0 < number → number ≤ p.groups → m.group? number = none) :
      StandsFor p m m.span

/-- The current label takes the place of the previous one from left to right, without overlap. -/
structure Settings.IsRelabelling (s : Settings) (relabel : List Char → List Char) : Prop where
  unchanged : ∀ text, s.previousLabel = "" ∨ s.previousLabel = s.currentLabel ∨
    ¬ s.previousLabel.toList <:+: text → relabel text = text
  pieces : s.previousLabel ≠ "" → ∀ text, ∃! pieces, FallsInto s.previousLabel.toList text pieces
  joined : s.previousLabel ≠ "" → ∀ text pieces, FallsInto s.previousLabel.toList text pieces →
    text = s.previousLabel.toList.intercalate pieces ∧
      relabel text = s.currentLabel.toList.intercalate pieces

/-- The label at this place of the line is replaced. -/
inductive Settings.RelabelsAt (s : Settings) (kept : List Char) (span : Span) (i : Nat) : Prop
  | before {pieces : List (List Char)} (h : FallsInto s.previousLabel.toList (span.before kept) pieces)
      (hi : i ∈ cutPlaces s.previousLabel.toList 0 pieces)
  | after {pieces : List (List Char)} (h : FallsInto s.previousLabel.toList (span.after kept) pieces)
      (hi : i ∈ cutPlaces s.previousLabel.toList (span.start + span.length) pieces)

/-- A text of the message that was found is written, and has a line feed. -/
inductive Settings.BringsLineFeed (s : Settings) (resolver : Resolver) (fate : TokenFate) : Prop
  | fingerprint {id : MessageId} {m : Message} (hm : resolver id = .resolved m)
      (hfate : fate = .matched id m.id) (hwritten : s.asFingerprints = true)
      (h : '\n' ∈ m.fingerprint.toList)
  | signature {id : MessageId} {m : Message} (hm : resolver id = .resolved m)
      (hfate : fate = .matched id m.id) (hwritten : s.bare = false) (h : '\n' ∈ m.signature.toList)

/-- What a renumbered line is made of: what is kept of the line before, with the chosen token in it, and
the remark. -/
structure Settings.Renumbers (s : Settings) (resolver : Resolver) (line kept : List Char) (span : Span)
    (remark text : List Char) (fate : TokenFate) : Prop where
  chosen : s.Chooses line kept span
  tokens : List.Forall₂ s.pattern.StandsFor (Pattern.allMatches s.pattern.program kept)
    (s.pattern.tokens kept)
  text_eq : text = updateLabel s (span.before kept) ++
    (replaceToken s resolver (span.covered kept)).value ++ updateLabel s (span.after kept) ++ remark
  remark_eq_nil_iff : remark = [] ↔ s.bare = true
  annotates : s.bare = false → Annotates resolver fate remark
  apart : ∀ i, s.RelabelsAt kept span i → s.previousLabel.toList <+: kept.drop i ∧
    (i + s.previousLabel.toList.length ≤ span.start ∨ span.start + span.length ≤ i)
  lineFeed : '\n' ∈ text →
    '\n' ∈ line ∨ '\n' ∈ s.currentLabel.toList ∨ s.BringsLineFeed resolver fate

/-! ## Lemmas -/

theorem Pattern.standsFor_token (p : Pattern) (m : Pattern.Match) : p.StandsFor m (p.token m) := by
  unfold token
  cases h : (List.range p.groups).findSome? fun i => m.group? (i + 1) with
  | none =>
    refine .whole fun number hpos hle => ?_
    have hnone := List.findSome?_eq_none_iff.1 h (number - 1) (List.mem_range.2 (by omega))
    rwa [Nat.sub_add_cancel hpos] at hnone
  | some span =>
    obtain ⟨front, i, back, hrange, hspan, hfirst⟩ := List.findSome?_eq_some_iff.1 h
    have hi : i ∈ List.range p.groups := by simp [hrange]
    refine .group (Nat.succ_pos i) (List.mem_range.1 hi) hspan fun earlier hpos hlt => ?_
    -- the numbers ascend, so an earlier one stands in front
    have hearlier : earlier - 1 ∈ front := by
      have hmem : earlier - 1 ∈ front ++ i :: back :=
        hrange ▸ List.mem_range.2 (by have := List.mem_range.1 hi; omega)
      rcases List.mem_append.1 hmem with hmem | hmem
      · exact hmem
      · have hsorted : (front ++ i :: back).Pairwise (· < ·) := hrange ▸ List.pairwise_lt_range
        have hback := (List.pairwise_cons.1 (List.pairwise_append.1 hsorted).2.1).1
        rcases List.mem_cons.1 hmem with heq | hmem
        · omega
        · have := hback _ hmem
          omega
    have hnone := hfirst (earlier - 1) hearlier
    rwa [Nat.sub_add_cancel hpos] at hnone

section

variable {s : Settings} {resolver : Resolver} {kept text token : List Char} {span : Span}

theorem updateLabel_of_fallsInto {pieces : List (List Char)} (hprevious : s.previousLabel ≠ "")
    (h : FallsInto s.previousLabel.toList text pieces) :
    updateLabel s text = s.currentLabel.toList.intercalate pieces := by
  unfold updateLabel
  split
  · rename_i hsame
    rw [← hsame.resolve_left hprevious, h.intercalate_eq]
  · exact h.replaceAll_eq (mt String.toList_eq_nil_iff.1 hprevious)

theorem isRelabelling_updateLabel (s : Settings) : s.IsRelabelling (updateLabel s) where
  unchanged _ h := updateLabel_of_absent h
  pieces hprevious text := existsUnique_fallsInto (mt String.toList_eq_nil_iff.1 hprevious) text
  joined hprevious _ _ h := ⟨h.intercalate_eq.symm, updateLabel_of_fallsInto hprevious h⟩

/-! ### Labels and the token -/

theorem Settings.RelabelsAt.apart {i : Nat} (h : s.RelabelsAt kept span i) :
    s.previousLabel.toList <+: kept.drop i ∧
      (i + s.previousLabel.toList.length ≤ span.start ∨ span.start + span.length ≤ i) := by
  cases h with
  | before h hi =>
    obtain ⟨front, back, hbefore, rfl⟩ := h.exists_append hi
    rw [Nat.zero_add]
    constructor
    · obtain ⟨rest, hkept⟩ := span.before_isPrefix kept
      rw [← hkept, hbefore, List.append_assoc, List.append_assoc, List.drop_left]
      exact List.prefix_append _ _
    · have hlength : (span.before kept).length ≤ span.start := List.length_take_le _ _
      rw [hbefore, List.length_append, List.length_append] at hlength
      omega
  | after h hi =>
    obtain ⟨front, back, hafter, rfl⟩ := h.exists_append hi
    rw [Span.after] at hafter
    rw [← List.drop_drop, hafter, List.append_assoc, List.drop_left]
    exact ⟨List.prefix_append _ _, .inr (Nat.le_add_right _ _)⟩

/-! ### Remarks -/

theorem Annotates.ne_nil {fate : TokenFate} {remark : List Char} (h : Annotates resolver fate remark) :
    remark ≠ [] := by
  cases h <;> simp

/-! ### Line feeds -/

theorem lineFeed_notMem_append_decimal {words : List Char} (h : '\n' ∉ words) (n : Nat) :
    '\n' ∉ words ++ decimal n := by
  simp [h, lineFeed_notMem_decimal]

theorem mem_of_mem_updateLabel {c : Char} (h : c ∈ updateLabel s text) :
    c ∈ s.currentLabel.toList ∨ c ∈ text := by
  unfold updateLabel at h
  split at h
  · exact .inr h
  · exact mem_of_mem_replaceFrom h

theorem bringsLineFeed_of_mem_value (h : '\n' ∈ (replaceToken s resolver token).value) :
    s.BringsLineFeed resolver (replaceToken s resolver token).fate := by
  have hnoNumber : '\n' ∉ noNumber := by decide
  unfold replaceToken at h ⊢
  cases hid : readId? token with
  | none => exact absurd (by simpa only [hid] using h) hnoNumber
  | some id =>
    cases hm : resolver id with
    | unknownId => exact absurd (by simpa only [hid, hm] using h) hnoNumber
    | noCandidate => exact absurd (by simpa only [hid, hm] using h) hnoNumber
    | resolved m =>
      simp only [hid, hm] at h ⊢
      split at h
      · rename_i hwritten
        exact .fingerprint hm rfl hwritten h
      · exact absurd h (lineFeed_notMem_decimal _)

theorem Annotates.lineFeed {fate : TokenFate} {remark : List Char} (hbare : s.bare = false)
    (h : Annotates resolver fate remark) (hmem : '\n' ∈ remark) :
    (∃ token, fate = .notAnId token ∧ '\n' ∈ token) ∨ s.BringsLineFeed resolver fate := by
  cases h with
  | notAnId token =>
    rcases List.mem_append.1 hmem with hmem | hmem
    · exact absurd hmem (by decide)
    · exact .inl ⟨token, rfl, hmem⟩
  | unknown id => exact absurd hmem (lineFeed_notMem_append_decimal (by decide) _)
  | unmatched id => exact absurd hmem (lineFeed_notMem_append_decimal (by decide) _)
  | matched hm hblank => exact absurd hmem (lineFeed_notMem_append_decimal (by decide) _)
  | signed hm hsigned =>
    rcases List.mem_append.1 hmem with hmem | hmem
    · rcases List.mem_append.1 hmem with hmem | hmem
      · exact absurd hmem (lineFeed_notMem_append_decimal (by decide) _)
      · exact absurd hmem (by decide)
    · exact .inr (.signature hm rfl hbare hmem)

theorem lineFeed_of_mem_renumberedText (h : '\n' ∈ renumberedText s resolver kept span) :
    '\n' ∈ kept ∨ '\n' ∈ s.currentLabel.toList ∨
      s.BringsLineFeed resolver (replaceToken s resolver (span.covered kept)).fate := by
  have hpart : ∀ part, part <:+: kept → '\n' ∈ updateLabel s part →
      '\n' ∈ kept ∨ '\n' ∈ s.currentLabel.toList ∨
        s.BringsLineFeed resolver (replaceToken s resolver (span.covered kept)).fate := by
    intro part hpart hmem
    rcases mem_of_mem_updateLabel hmem with hmem | hmem
    · exact .inr (.inl hmem)
    · exact .inl (hpart.subset hmem)
  simp only [renumberedText, List.mem_append] at h
  rcases h with ((hbefore | hvalue) | hafter) | hremark
  · exact hpart _ (span.before_isPrefix kept).isInfix hbefore
  · exact .inr (.inr (bringsLineFeed_of_mem_value hvalue))
  · exact hpart _ (span.after_isSuffix kept).isInfix hafter
  · by_cases hbare : s.bare = true
    · simp [hbare] at hremark
    rw [if_neg hbare] at hremark
    have hannotates := annotates_comment s resolver (span.covered kept)
    rcases hannotates.lineFeed (by simpa using hbare) hremark with ⟨token, hfate, hmem⟩ | hbrings
    · rw [token_of_notAnId hfate] at hmem
      exact .inl ((span.covered_isInfix kept).subset hmem)
    · exact .inr (.inr hbrings)

theorem Settings.Chooses.renumbers {line : List Char} (h : s.Chooses line kept span) :
    s.Renumbers resolver line kept span
      (if s.bare then [] else (replaceToken s resolver (span.covered kept)).comment)
      (renumberedText s resolver kept span) (replaceToken s resolver (span.covered kept)).fate where
  chosen := h
  tokens := List.forall₂_map_right_iff.2
    (List.forall₂_same.2 fun m _ => s.pattern.standsFor_token m)
  text_eq := rfl
  remark_eq_nil_iff := by
    have hne := (annotates_comment s resolver (span.covered kept)).ne_nil
    cases s.bare <;> simp [hne]
  annotates hbare := by
    rw [hbare]
    exact annotates_comment s resolver (span.covered kept)
  apart _ hi := hi.apart
  lineFeed hmem := (lineFeed_of_mem_renumberedText hmem).imp_left fun hkept =>
    (kept_isPrefix h.kept_eq).subset hkept

end

/-! ## Main theorem -/

/-- A renumbered line is made of the parts around the chosen token, relabelled, and of what takes the
token's place, and of the remark; a line without token loses its comment only. -/
theorem renumberLine_changesOnly (s : Settings) (resolver : Resolver) (number : Nat)
    (line : List Char) :
    s.IsRelabelling (updateLabel s) ∧
    (∀ text fate, renumberLine s resolver number line = .ok (.renumbered text fate) →
      ∃ kept span remark, s.Renumbers resolver line kept span remark text fate) ∧
    ∀ text, renumberLine s resolver number line = .ok (.kept text) →
      withoutComment? s.lead line = some text ∧ text <+: line ∧ s.pattern.tokens text = [] := by
  refine ⟨isRelabelling_updateLabel s, fun text fate h => ?_, fun text h => ?_⟩
  · obtain ⟨kept, span, hchooses, rfl, rfl⟩ := renumberLine_eq_renumbered_iff.1 h
    exact ⟨kept, span, _, hchooses.renumbers⟩
  · rcases renumberLine_cases s resolver number line with
      ⟨-, h'⟩ | ⟨kept, hkept, hnone, h'⟩ | ⟨kept, span, -, h'⟩ | ⟨kept, i, -, h'⟩ <;>
      rw [h'] at h <;> cases h
    exact ⟨hkept, kept_isPrefix hkept, hnone⟩

/-- The label stands in front of the token and reaches into it as well. -/
theorem renumberLine_changesOnly_overlappingLabel :
    let s : Settings :=
      { pattern := ⟨#[.char '=', .mark (.opens 1), .char '7', .mark (.closes 1)], 1⟩,
        previousLabel := "7=7", currentLabel := "8=8" }
    let resolver : Resolver := fun _ =>
      .resolved { id := 5, fingerprint := "F", direction := .outgoing }
    renumberLine s resolver 1 ['7', '=', '7', '=', '7'] =
      .ok (.renumbered "8=8=5 // 7".toList (.matched 7 5)) ∧
    (∃ kept span remark, s.Renumbers resolver ['7', '=', '7', '=', '7'] kept span remark
      "8=8=5 // 7".toList (.matched 7 5)) ∧
    renumberLine s resolver 1 ['7', '=', 'x'] = .ok (.kept ['7', '=', 'x']) ∧
    s.pattern.tokens ['7', '=', 'x'] = [] := by
  intro s resolver
  have htokens : s.pattern.tokens ['7', '=', '7', '=', '7'] = [⟨2, 1⟩, ⟨4, 1⟩] := by cbv
  have hchooses : s.Chooses ['7', '=', '7', '=', '7'] ['7', '=', '7', '=', '7'] ⟨4, 1⟩ :=
    ⟨by decide, by rw [htokens]; rfl⟩
  have hline : renumberLine s resolver 1 ['7', '=', '7', '=', '7'] =
      .ok (.renumbered "8=8=5 // 7".toList (.matched 7 5)) :=
    renumberLine_eq_renumbered_iff.2 ⟨_, _, hchooses, by decide, by decide⟩
  have hkept : renumberLine s resolver 1 ['7', '=', 'x'] = .ok (.kept ['7', '=', 'x']) := by cbv
  exact ⟨hline, (renumberLine_changesOnly s resolver 1 _).2.1 _ _ hline, hkept,
    ((renumberLine_changesOnly s resolver 1 _).2.2 _ hkept).2.2⟩

end Renumber
