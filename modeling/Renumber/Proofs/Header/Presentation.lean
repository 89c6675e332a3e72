import Mathlib
import Renumber.Proofs.Header.Alike

/-!
# How a header is presented

The labels of the builds, whether comments are left out and whether fingerprints are written in place
of ids are a matter of presentation.  They have no part in which lines go through, which token is
taken and what becomes of it, nor in what is counted (`presentation_keepsMatches`).

Leaving out the comments takes a remark away from the end of each renumbered line.  `Annotates` says
what such a remark is: it names the token or the id, and adds the signature of the message that was
found, unless this is blank.
-/

namespace Renumber

open Text

/-- The remark on a token of this fate. -/
inductive Annotates (resolver : Resolver) : TokenFate → List Char → Prop
  | notAnId (token : List Char) :
      Annotates resolver (.notAnId token) (" //! Invalid Message ID: ".toList ++ token)
  | unknown (id : MessageId) :
      Annotates resolver (.unknown id) (" //! Message Not Found: ".toList ++ decimal id.toNat)
  | unmatched (id : MessageId) :
      Annotates resolver (.unmatched id) (" //! No Matches: ".toList ++ decimal id.toNat)
  | matched {id : MessageId} {m : Message} (h : resolver id = .resolved m)
      (hblank : ∀ c ∈ m.signature.toList, isBlank c = true) :
      Annotates resolver (.matched id m.id) (" // ".toList ++ decimal id.toNat)
  | signed {id : MessageId} {m : Message} (h : resolver id = .resolved m)
      (hsigned : ∃ c ∈ m.signature.toList, isBlank c = false) :
      Annotates resolver (.matched id m.id)
        (" // ".toList ++ decimal id.toNat ++ " | ".toList ++ m.signature.toList)

/-! ## Lemmas -/

/-- What becomes of a token does not depend on how its replacement is written. -/
theorem fate_replaceToken (s s' : Settings) (resolver : Resolver) (token : List Char) :
    (replaceToken s resolver token).fate = (replaceToken s' resolver token).fate := by
  unfold replaceToken
  cases readId? token with
  | none => rfl
  | some id => cases h : resolver id <;> simp only [h]

theorem comment_of_blank {r : Replacement} (h : ∀ c ∈ r.signature, isBlank c = true) :
    r.comment = r.fate.remark := by
  rw [Replacement.comment, if_pos (List.all_eq_true.2 h), List.append_nil]

theorem comment_unsigned (value : List Char) (fate : TokenFate) :
    (⟨value, fate, []⟩ : Replacement).comment = fate.remark :=
  comment_of_blank (by simp)

theorem comment_of_signed {r : Replacement} (h : ∃ c ∈ r.signature, isBlank c = false) :
    r.comment = r.fate.remark ++ " | ".toList ++ r.signature := by
  have hblank : ¬ r.signature.all isBlank = true := by simpa using h
  rw [Replacement.comment, if_neg hblank, List.append_assoc]

theorem annotates_comment (s : Settings) (resolver : Resolver) (token : List Char) :
    Annotates resolver (replaceToken s resolver token).fate
      (replaceToken s resolver token).comment := by
  unfold replaceToken
  cases readId? token with
  | none =>
    rw [comment_unsigned]
    exact .notAnId token
  | some id =>
    cases h : resolver id with
    | unknownId =>
      simp only [h]
      rw [comment_unsigned]
      exact .unknown id
    | noCandidate =>
      simp only [h]
      rw [comment_unsigned]
      exact .unmatched id
    | resolved m =>
      simp only [h]
      by_cases hblank : ∀ c ∈ m.signature.toList, isBlank c = true
      · rw [comment_of_blank hblank]
        exact .matched h hblank
      · have hsigned : ∃ c ∈ m.signature.toList, isBlank c = false := by simpa using hblank
        rw [comment_of_signed hsigned]
        exact .signed h hsigned

/-- With comments a line goes on where it ends without them. -/
theorem renumberedText_annotated (s : Settings) (resolver : Resolver) (kept : List Char)
    (span : Span) :
    renumberedText { s with bare := false } resolver kept span =
      renumberedText { s with bare := true } resolver kept span ++
        (replaceToken s resolver (span.covered kept)).comment := by
  have hbare : renumberedText { s with bare := true } resolver kept span =
      updateLabel s (span.before kept) ++ (replaceToken s resolver (span.covered kept)).value ++
        updateLabel s (span.after kept) ++ [] := rfl
  rw [hbare, List.append_nil]
  rfl

/-! ## Main theorem -/

/-- Settings that differ in presentation only make the same of every line, up to the text of renumbered
ones, and of every header.  A renumbered line without comments is what stands in front of the remark on
its token. -/
theorem presentation_keepsMatches (s s' : Settings) (hsearch : s.SameSearch s')
    (resolver : Resolver) :
    (∀ number line, EndsAlike (LineChange.Alike (· = ·)) (renumberLine s resolver number line)
      (renumberLine s' resolver number line)) ∧
    (∀ input, (renumber s resolver input {}).2 = (renumber s' resolver input {}).2) ∧
    ∀ number line text fate,
      renumberLine { s with bare := true } resolver number line = .ok (.renumbered text fate) →
      ∃ remark, Annotates resolver fate remark ∧
        renumberLine { s with bare := false } resolver number line =
          .ok (.renumbered (text ++ remark) fate) := by
  have hfate := fate_replaceToken s s' resolver
  refine ⟨renumberLine_alike hsearch hfate, fun input => ?_, fun number line text fate h => ?_⟩
  · exact (renumber_alike hsearch hfate (fun _ _ hsame t => by rw [hsame]) input).1
  · obtain ⟨kept, span, hchooses, rfl, rfl⟩ := renumberLine_eq_renumbered_iff.1 h
    have hsame : Settings.SameSearch { s with bare := true } { s with bare := false } :=
      ⟨rfl, rfl, rfl⟩
    refine ⟨_, annotates_comment s resolver (span.covered kept), ?_⟩
    rw [renumberLine_of_chooses (hsame.chooses hchooses), renumberedText_annotated]
    rfl

/-- The label of one setting is part of the other's, and of the token; one leaves out the comments. -/
theorem presentation_keepsMatches_overlappingLabels :
    let s : Settings :=
      { pattern := ⟨#[.char '7'], 0⟩, previousLabel := "v7", currentLabel := "v8", bare := true }
    let s' : Settings :=
      { pattern := ⟨#[.char '7'], 0⟩, previousLabel := "7", currentLabel := "//",
        asFingerprints := true }
    let resolver : Resolver := fun _ =>
      .resolved { id := 5, fingerprint := "F", direction := .outgoing, signature := "(k:int)" }
    s.SameSearch s' ∧
    renumberLine s resolver 1 ['v', '7', ' ', '7'] =
      .ok (.renumbered "v8 5".toList (.matched 7 5)) ∧
    EndsAlike (LineChange.Alike (· = ·)) (renumberLine s resolver 1 ['v', '7', ' ', '7'])
      (renumberLine s' resolver 1 ['v', '7', ' ', '7']) ∧
    (renumber s resolver (Text.bytesOf "v7 7") {}).2 =
      (renumber s' resolver (Text.bytesOf "v7 7") {}).2 ∧
    ∃ remark, Annotates resolver (.matched 7 5) remark ∧
      renumberLine { s with bare := false } resolver 1 ['v', '7', ' ', '7'] =
        .ok (.renumbered ("v8 5".toList ++ remark) (.matched 7 5)) := by
  intro s s' resolver
  have htokens : s.pattern.tokens ['v', '7', ' ', '7'] = [⟨1, 1⟩, ⟨3, 1⟩] := by
    cbv
  have hchooses : s.Chooses ['v', '7', ' ', '7'] ['v', '7', ' ', '7'] ⟨3, 1⟩ :=
    ⟨by decide, by rw [htokens]; rfl⟩
  have hline : renumberLine s resolver 1 ['v', '7', ' ', '7'] =
      .ok (.renumbered "v8 5".toList (.matched 7 5)) :=
    renumberLine_eq_renumbered_iff.2 ⟨_, _, hchooses, by decide, by decide⟩
  have hsearch : s.SameSearch s' := ⟨rfl, rfl, rfl⟩
  obtain ⟨hlines, hruns, hremarks⟩ := presentation_keepsMatches s s' hsearch resolver
  exact ⟨hsearch, hline, hlines 1 _, hruns _, hremarks 1 _ _ _ hline⟩

end Renumber
