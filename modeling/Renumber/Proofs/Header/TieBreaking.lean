import Mathlib
import Renumber.Proofs.Header.Alike
import Renumber.Proofs.Resolution.Composition

/-!
# What the tie-break decides

A tie-break is asked only for messages with several counterparts, and it can only take one of them.
So two tie-breaks resolve an id to the same, or to two live messages with a shared fingerprint
(`resolve_sameButChosen`).  Lines are dropped, kept, renumbered, counted and refused without regard to
which one was taken (`tieBreak_keepsTally`).  It shows in the new ids and in the remarks only: where
fingerprints are written and remarks left out, the tie-break changes no byte.
-/

namespace Renumber

/-- Two resolutions of an id that are the same, or two of the messages that share the fingerprint of its
message. -/
inductive Resolution.SameButChosen (previous current : Catalog) (id : MessageId) :
    Resolution → Resolution → Prop
  | same (r : Resolution) : SameButChosen previous current id r r
  | shared {p m m' : Message} (hp : p ∈ previous.messages) (hid : p.id = id)
      (hm : current.IsCounterpart p m) (hm' : current.IsCounterpart p m')
      (h : current.index.isShared p.fingerprint = true) :
      SameButChosen previous current id (.resolved m) (.resolved m')

/-- Two fates of a token that are the same, or matches with two messages that share the fingerprint of
the token's message. -/
inductive TokenFate.SameButChosen (previous current : Catalog) : TokenFate → TokenFate → Prop
  | same (fate : TokenFate) : SameButChosen previous current fate fate
  | shared {p m m' : Message} (hp : p ∈ previous.messages)
      (hm : current.IsCounterpart p m) (hm' : current.IsCounterpart p m')
      (h : current.index.isShared p.fingerprint = true) :
      SameButChosen previous current (.matched p.id m.id) (.matched p.id m'.id)

/-! ## Lemmas -/

section

variable {tieBreak tieBreak' : TieBreak} (htie : tieBreak.PicksMember)
  (htie' : tieBreak'.PicksMember) (previous current : Catalog)

include htie htie'

theorem resolve_sameButChosen (id : MessageId) :
    Resolution.SameButChosen previous current id (resolve tieBreak previous current.index id)
      (resolve tieBreak' previous current.index id) := by
  by_cases hunknown : ∀ p ∈ previous.messages, p.id ≠ id
  · rw [resolve_eq_unknownId_iff.2 hunknown, resolve_eq_unknownId_iff.2 hunknown]
    exact .same _
  obtain ⟨p, hp, hid⟩ : ∃ p ∈ previous.messages, p.id = id := by simpa using hunknown
  by_cases hnone : ∀ m, ¬ current.IsCounterpart p m
  · rw [(resolve_eq_noCandidate_iff hp hid htie).2 hnone,
      (resolve_eq_noCandidate_iff hp hid htie').2 hnone]
    exact .same _
  · obtain ⟨n, hn⟩ : ∃ n, current.IsCounterpart p n := by simpa using hnone
    have hne : liveWith p.fingerprint current.messages ≠ [] :=
      List.ne_nil_of_mem (mem_liveWith.2 hn)
    obtain ⟨m, hm⟩ := (exists_resolve_iff hp hid htie).2 hne
    obtain ⟨m', hm'⟩ := (exists_resolve_iff hp hid htie').2 hne
    have hmem := mem_liveWith_of_resolve hp hid htie hm
    have hmem' := mem_liveWith_of_resolve hp hid htie' hm'
    rw [hm, hm']
    cases hshared : current.index.isShared p.fingerprint with
    | false =>
      rw [Catalog.eq_of_isShared_eq_false hshared hmem hmem']
      exact .same _
    | true => exact .shared hp hid (mem_liveWith.1 hmem) (mem_liveWith.1 hmem') hshared

end

section

variable {previous current : Catalog} {resolver resolver' : Resolver}
  (h : ∀ id, Resolution.SameButChosen previous current id (resolver id) (resolver' id))
  (s : Settings) (token : List Char)

include h

theorem fate_sameButChosen :
    TokenFate.SameButChosen previous current (replaceToken s resolver token).fate
      (replaceToken s resolver' token).fate := by
  unfold replaceToken
  cases readId? token with
  | none => exact .same _
  | some id =>
    have hid := h id
    simp only
    generalize resolver id = r at hid ⊢
    generalize resolver' id = r' at hid ⊢
    cases hid with
    | same => exact .same _
    | shared hp hid hm hm' hshared =>
      subst hid
      exact .shared hp hm hm' hshared

/-- Where fingerprints are written, it does not show which of the messages was taken. -/
theorem value_eq_of_asFingerprints (hs : s.asFingerprints = true) :
    (replaceToken s resolver token).value = (replaceToken s resolver' token).value := by
  unfold replaceToken
  cases readId? token with
  | none => rfl
  | some id =>
    have hid := h id
    simp only
    generalize resolver id = r at hid ⊢
    generalize resolver' id = r' at hid ⊢
    cases hid with
    | same => rfl
    | shared hp hid hm hm' hshared =>
      simp only [hs, if_true]
      rw [hm.2.2, hm'.2.2]

end

theorem countFate_sameButChosen {previous current : Catalog} {fate fate' : TokenFate}
    (h : TokenFate.SameButChosen previous current fate fate') (t : Tally) :
    t.countFate fate = t.countFate fate' := by
  cases h with
  | same => rfl
  | shared => rfl

section

variable {s : Settings} {resolver resolver' : Resolver}
  (hvalue : ∀ token, (replaceToken s resolver token).value = (replaceToken s resolver' token).value)
  (hcount : ∀ token (t : Tally), t.countFate (replaceToken s resolver token).fate =
    t.countFate (replaceToken s resolver' token).fate)
  (hbare : s.bare = true)

include hvalue hcount hbare

/-- Without remarks, a line shows of the resolver what replaces the token and how this is counted. -/
theorem renumberRaw_congr (tally : Tally) (raw : List UInt8) :
    renumberRaw s resolver tally raw = renumberRaw s resolver' tally raw := by
  unfold renumberRaw
  cases Text.ofBytes? raw with
  | none => rfl
  | some text =>
    simp only
    generalize splitEnding text.toList = line
    obtain ⟨hkept, -⟩ | ⟨kept, hkept, htokens, -⟩ | ⟨kept, span, hchooses, -⟩ | ⟨kept, i, hlacks, -⟩ :=
      renumberLine_cases s resolver (tally.lines + 1) line.1
    · simp only [renumberLine, hkept]
    · simp only [renumberLine, hkept, htokens]
    · have htext : renumberedText s resolver kept span = renumberedText s resolver' kept span := by
        simp only [renumberedText, hbare, if_true, hvalue]
      have htally := hcount (span.covered kept) { tally with lines := tally.lines + 1 }
      simp only [renumberLine_of_chooses hchooses, Tally.countLine, LineChange.output, htext, htally]
    · simp only [renumberLine_of_lacks hlacks]

theorem renumberLines_congr (tally : Tally) (sink : Sink) (raws : List (List UInt8)) :
    renumberLines s resolver tally sink raws = renumberLines s resolver' tally sink raws := by
  induction raws generalizing tally sink with
  | nil => rfl
  | cons raw rest ih => simp only [renumberLines, renumberRaw_congr hvalue hcount hbare, ih]

theorem renumber_congr (input : List UInt8) (sink : Sink) :
    renumber s resolver input sink = renumber s resolver' input sink := by
  simp only [renumber, renumberLines_congr hvalue hcount hbare]

end

/-! ## Main theorem -/

/-- The tie-breaks of the library pick members of the candidates, and any two tie-breaks that do make
the same of every line and of every header, up to which of the messages that share a fingerprint stands
for a token. -/
theorem tieBreak_keepsTally :
    TieBreak.closest.PicksMember ∧ TieBreak.lowest.PicksMember ∧
    ∀ tieBreak tieBreak' : TieBreak, tieBreak.PicksMember → tieBreak'.PicksMember →
    ∀ (previous current : Catalog) (s : Settings),
      let resolver := resolve tieBreak previous current.index
      let resolver' := resolve tieBreak' previous current.index
      (∀ number line,
        EndsAlike (LineChange.Alike (TokenFate.SameButChosen previous current))
          (renumberLine s resolver number line) (renumberLine s resolver' number line)) ∧
      (∀ input, (renumber s resolver input {}).2 = (renumber s resolver' input {}).2) ∧
      (∀ input e, (renumber s resolver input {}).2 = .error e →
        ∃ number, StopsAt s resolver input number e ∧ StopsAt s resolver' input number e) ∧
      (s.asFingerprints = true → s.bare = true →
        ∀ input sink, renumber s resolver input sink = renumber s resolver' input sink) := by
  refine ⟨TieBreak.closest_picksMember, TieBreak.lowest_picksMember, ?_⟩
  intro tieBreak tieBreak' htie htie' previous current s resolver resolver'
  have hsearch : s.SameSearch s := ⟨rfl, rfl, rfl⟩
  have hresolve := resolve_sameButChosen htie htie' previous current
  have hfate := fate_sameButChosen hresolve s
  have halike := renumber_alike hsearch hfate fun _ _ => countFate_sameButChosen
  refine ⟨renumberLine_alike hsearch hfate, fun input => (halike input).1,
    fun input => (halike input).2, fun hs hbare => ?_⟩
  have hvalue := fun token => value_eq_of_asFingerprints hresolve s token hs
  exact renumber_congr hvalue (fun token => countFate_sameButChosen (hfate token)) hbare

/-- Two messages share the fingerprint; the closer one has the greater id. -/
theorem tieBreak_keepsTally_collision :
    let message (id : MessageId) (references : UInt32) : Message :=
      { id, fingerprint := "f", direction := .outgoing, references }
    let previous : Catalog := ⟨.outgoing, [message 7 1], by decide, by decide, by decide⟩
    let current : Catalog := ⟨.outgoing, [message 5 9, message 6 1], by decide, by decide, by decide⟩
    let s : Settings :=
      { pattern := ⟨#[.char '7'], 0⟩, previousLabel := "a", currentLabel := "b", bare := true,
        asFingerprints := true }
    let closest := resolve TieBreak.closest previous current.index
    let lowest := resolve TieBreak.lowest previous current.index
    closest 7 = .resolved (message 6 1) ∧ lowest 7 = .resolved (message 5 9) ∧
    EndsAlike (LineChange.Alike (TokenFate.SameButChosen previous current))
      (renumberLine s closest 1 ['7']) (renumberLine s lowest 1 ['7']) ∧
    renumberLine s closest 1 ['7'] = .ok (.renumbered ['f'] (.matched 7 6)) ∧
    renumberLine s lowest 1 ['7'] = .ok (.renumbered ['f'] (.matched 7 5)) ∧
    (renumber s closest (Text.bytesOf "7\n") {}).2 = (renumber s lowest (Text.bytesOf "7\n") {}).2 ∧
    renumber s closest (Text.bytesOf "7\n") {} = renumber s lowest (Text.bytesOf "7\n") {} := by
  intro message previous current s closest lowest
  have htokens : s.pattern.tokens ['7'] = [⟨0, 1⟩] := by
    cbv
  have hchooses : s.Chooses ['7'] ['7'] ⟨0, 1⟩ := ⟨by decide, by rw [htokens]; rfl⟩
  have hclosest : closest 7 = .resolved (message 6 1) := by decide
  have hlowest : lowest 7 = .resolved (message 5 9) := by decide
  obtain ⟨hpicks, hpicks', hall⟩ := tieBreak_keepsTally
  obtain ⟨hlines, hruns, -, hbytes⟩ := hall _ _ hpicks hpicks' previous current s
  refine ⟨hclosest, hlowest, hlines 1 _, ?_, ?_, hruns _, hbytes rfl rfl _ _⟩
  · exact renumberLine_eq_renumbered_iff.2 ⟨_, _, hchooses, by decide, by decide⟩
  · exact renumberLine_eq_renumbered_iff.2 ⟨_, _, hchooses, by decide, by decide⟩

end Renumber
