import Renumber.Proofs.Header.Line
import Renumber.Proofs.Resolution.Counterpart
import Renumber.Proofs.Text.Numeral
import Std.Data.HashSet.Lemmas

/-!
# What the fate of a token says

A number that is written into a header is taken over by every build after it, so it has to be right.
`Verdict` lists what can become of a token and when: it is no id, its id is unknown, its message has
no counterpart, or a counterpart takes its place.  Replacing a token ends in such a verdict
(`verdict_replaceToken`); since the four cases exclude each other, the fate that is reported tells
which of them holds (`Verdict.isSound`).

The main theorem says so of a whole line: for any two catalogs, any tie-break that picks a member and
any settings, the fate and the text put in place of the chosen token are sound
(`renumberLine_isSound`).
-/

namespace Renumber

open Text

/-- What can become of a token: what is written in its place, and its fate. -/
inductive Verdict (asFingerprints : Bool) (previous current : Catalog) (token : List Char) :
    List Char → TokenFate → Prop
  | notAnId (h : ∀ p : MessageId, ¬ IsNumeral token p.toNat) :
      Verdict asFingerprints previous current token ['-', '1'] (.notAnId token)
  | unknown {p : MessageId} (hp : IsNumeral token p.toNat)
      (hr : ∀ r ∈ previous.messages, r.id ≠ p) :
      Verdict asFingerprints previous current token ['-', '1'] (.unknown p)
  | unmatched {r : Message} (hp : IsNumeral token r.id.toNat) (hr : r ∈ previous.messages)
      (hm : ∀ m, ¬ current.IsCounterpart r m) :
      Verdict asFingerprints previous current token ['-', '1'] (.unmatched r.id)
  | matched {r m : Message} (hp : IsNumeral token r.id.toNat) (hr : r ∈ previous.messages)
      (hm : current.IsCounterpart r m) :
      Verdict asFingerprints previous current token
        (if asFingerprints then r.fingerprint.toList else decimal m.id.toNat) (.matched r.id m.id)

/-- What the fate of a token and the text in its place say about the two catalogs. -/
structure TokenFate.IsSound (fate : TokenFate) (asFingerprints : Bool) (previous current : Catalog)
    (token value : List Char) : Prop where
  matched_iff : ∀ p, (∃ c, fate = .matched p c) ↔
    IsNumeral token p.toNat ∧
      ∃ r ∈ previous.messages, r.id = p ∧ ∃ m, current.IsCounterpart r m
  matched_value : ∀ p c, fate = .matched p c →
    ∃ r ∈ previous.messages, r.id = p ∧ (∃ m, current.IsCounterpart r m ∧ m.id = c) ∧
      value = if asFingerprints then r.fingerprint.toList else decimal c.toNat
  unmatched_iff : ∀ p, fate = .unmatched p ↔
    IsNumeral token p.toNat ∧
      ∃ r ∈ previous.messages, r.id = p ∧ ∀ m, ¬ current.IsCounterpart r m
  unknown_iff : ∀ p, fate = .unknown p ↔
    IsNumeral token p.toNat ∧ ∀ r ∈ previous.messages, r.id ≠ p
  notAnId_iff : ∀ t, fate = .notAnId t ↔
    t = token ∧ ∀ p : MessageId, ¬ IsNumeral token p.toNat
  unmatched_value : (∀ p c, fate ≠ .matched p c) → value = ['-', '1']

/-! ## Lemmas -/

theorem readId?_eq_some_iff {token : List Char} {p : MessageId} :
    readId? token = some p ↔ IsNumeral token p.toNat := by
  unfold readId?
  rw [Option.map_eq_some_iff]
  constructor
  · rintro ⟨n, hn, rfl⟩
    obtain ⟨hnum, hlt⟩ := (readNumeral_eq_some_iff (by decide)).1 hn
    rwa [UInt32.toNat_ofNat_of_lt' hlt]
  · intro h
    exact ⟨p.toNat, (readNumeral_eq_some_iff (by decide)).2 ⟨h, p.toNat_lt⟩, by simp⟩

/-- A token that reads as `p` reads as nothing else. -/
theorem isNumeral_iff_eq {token : List Char} {p : MessageId} (hp : IsNumeral token p.toNat)
    (q : MessageId) : IsNumeral token q.toNat ↔ q = p := by
  constructor
  · intro hq
    exact UInt32.toNat_inj.1 (hq.eq hp)
  · rintro rfl
    exact hp

theorem verdict_replaceToken {tieBreak : TieBreak} (h : tieBreak.PicksMember) (s : Settings)
    (previous current : Catalog) (token : List Char) :
    Verdict s.asFingerprints previous current token
      (replaceToken s (resolve tieBreak previous current.index) token).value
      (replaceToken s (resolve tieBreak previous current.index) token).fate := by
  unfold replaceToken
  cases hid : readId? token with
  | none =>
    refine .notAnId fun p hp => ?_
    rw [readId?_eq_some_iff.2 hp] at hid
    cases hid
  | some p =>
    have hp := readId?_eq_some_iff.1 hid
    by_cases hr : ∀ r ∈ previous.messages, r.id ≠ p
    · simp only [resolve_eq_unknownId_iff.2 hr]
      exact .unknown hp hr
    · obtain ⟨r, hmem, rfl⟩ : ∃ r ∈ previous.messages, r.id = p := by simpa using hr
      cases hres : resolve tieBreak previous current.index r.id with
      | unknownId => exact absurd rfl (resolve_eq_unknownId_iff.1 hres r hmem)
      | noCandidate =>
        simp only [hres]
        exact .unmatched hp hmem ((resolve_eq_noCandidate_iff hmem rfl h).1 hres)
      | resolved m =>
        have hm := isCounterpart_of_resolve hmem rfl h hres
        have hv : Verdict s.asFingerprints previous current token _ _ := .matched hp hmem hm
        rw [← hm.2.2] at hv
        simpa only [hres] using hv

/-- The four verdicts exclude each other, so that the fate tells which of them it was. -/
theorem Verdict.isSound {asFingerprints : Bool} {previous current : Catalog}
    {token value : List Char} {fate : TokenFate}
    (h : Verdict asFingerprints previous current token value fate) :
    fate.IsSound asFingerprints previous current token value := by
  cases h with
  | notAnId h => constructor <;> simp [h, eq_comm]
  | @unknown p hp hr =>
    have num := isNumeral_iff_eq hp
    constructor
    · intro q
      simp only [num, reduceCtorEq, exists_false, false_iff]
      rintro ⟨rfl, r, hmem, hid, -⟩
      exact hr r hmem hid
    · intro q c hc
      cases hc
    · intro q
      simp only [num, reduceCtorEq, false_iff]
      rintro ⟨rfl, r, hmem, hid, -⟩
      exact hr r hmem hid
    · intro q
      simp only [num, TokenFate.unknown.injEq]
      constructor
      · rintro rfl
        exact ⟨rfl, hr⟩
      · exact fun h => h.1.symm
    · intro t
      simp only [reduceCtorEq, false_iff, not_and]
      exact fun _ h => h p hp
    · exact fun _ => rfl
  | @unmatched r hp hr hm =>
    have num := isNumeral_iff_eq hp
    constructor
    · intro q
      simp only [num, reduceCtorEq, exists_false, false_iff]
      rintro ⟨rfl, r', hr', hid, m, hm'⟩
      obtain rfl := Catalog.eq_of_id_eq previous.ascending hr' hr hid
      exact hm m hm'
    · intro q c hc
      cases hc
    · intro q
      simp only [num, TokenFate.unmatched.injEq]
      constructor
      · rintro rfl
        exact ⟨rfl, r, hr, rfl, hm⟩
      · exact fun h => h.1.symm
    · intro q
      simp only [num, reduceCtorEq, false_iff]
      rintro ⟨rfl, hnone⟩
      exact hnone r hr rfl
    · intro t
      simp only [reduceCtorEq, false_iff, not_and]
      exact fun _ h => h r.id hp
    · exact fun _ => rfl
  | @matched r m hp hr hm =>
    have num := isNumeral_iff_eq hp
    constructor
    · intro q
      simp only [num, TokenFate.matched.injEq]
      constructor
      · rintro ⟨c, rfl, -⟩
        exact ⟨rfl, r, hr, rfl, m, hm⟩
      · exact fun h => ⟨m.id, h.1.symm, rfl⟩
    · intro q c hc
      cases hc
      exact ⟨r, hr, rfl, ⟨m, hm, rfl⟩, rfl⟩
    · intro q
      simp only [num, reduceCtorEq, false_iff]
      rintro ⟨rfl, r', hr', hid, hnone⟩
      obtain rfl := Catalog.eq_of_id_eq previous.ascending hr' hr hid
      exact hnone m hm
    · intro q
      simp only [num, reduceCtorEq, false_iff]
      rintro ⟨rfl, hnone⟩
      exact hnone r hr rfl
    · intro t
      simp only [reduceCtorEq, false_iff, not_and]
      exact fun _ h => h r.id hp
    · exact fun h => absurd rfl (h r.id m.id)

/-! ## Main theorem -/

/-- Whatever is written in place of a token is right: `closest` and `lowest` pick members, and with
any tie-break that does, the token chosen on a renumbered line has a sound fate and replacement. -/
theorem renumberLine_isSound :
    TieBreak.closest.PicksMember ∧ TieBreak.lowest.PicksMember ∧
    ∀ tieBreak : TieBreak, tieBreak.PicksMember →
      ∀ (previous current : Catalog) (s : Settings) (number : Nat) (line text : List Char)
        (fate : TokenFate),
        renumberLine s (resolve tieBreak previous current.index) number line =
            .ok (.renumbered text fate) →
          ∃ kept span value comment,
            s.Chooses line kept span ∧
            text = updateLabel s (span.before kept) ++ value ++ updateLabel s (span.after kept) ++
              comment ∧
            (s.bare = true → comment = []) ∧
            fate.IsSound s.asFingerprints previous current (span.covered kept) value := by
  refine ⟨TieBreak.closest_picksMember, TieBreak.lowest_picksMember, ?_⟩
  intro tieBreak hpick previous current s number line text fate h
  obtain ⟨kept, span, hc, rfl, rfl⟩ := renumberLine_eq_renumbered_iff.1 h
  refine ⟨kept, span, _, _, hc, rfl, ?_, ?_⟩
  · intro hbare
    rw [if_pos hbare]
  · exact (verdict_replaceToken hpick s previous current (span.covered kept)).isSound

/-- One message, and the two live messages and a dead one that have its fingerprint later. -/
def splitMessage : Catalog × Catalog :=
  (⟨.outgoing, [{ id := 7, fingerprint := "F", direction := .outgoing }], by simp, by simp, by simp⟩,
   ⟨.outgoing,
    [{ id := 54, fingerprint := "F", direction := .outgoing, references := 0 },
     { id := 55, fingerprint := "F", direction := .outgoing },
     { id := 56, fingerprint := "F", direction := .outgoing }],
    by simp, by simp, by simp⟩)

/-- A collision with a dead message below it: the lower live id is written. -/
theorem renumberLine_isSound_splitMessage :
    let s : Settings := { pattern := ⟨#[.char '7'], 0⟩, previousLabel := "a", currentLabel := "b" }
    let resolver := resolve .closest splitMessage.1 splitMessage.2.index
    renumberLine s resolver 1 ['A', '=', '7', ';'] =
        .ok (.renumbered "A=55; // 7".toList (.matched 7 55)) ∧
      ∃ kept span value comment,
        s.Chooses ['A', '=', '7', ';'] kept span ∧
        "A=55; // 7".toList = updateLabel s (span.before kept) ++ value ++
          updateLabel s (span.after kept) ++ comment ∧
        (s.bare = true → comment = []) ∧
        (TokenFate.matched 7 55).IsSound false splitMessage.1 splitMessage.2 (span.covered kept)
          value := by
  intro s resolver
  have htokens : s.pattern.tokens ['A', '=', '7', ';'] = [⟨2, 1⟩] := by
    simp [s, Pattern.tokens, Pattern.allMatches, Pattern.matchesFrom, Pattern.findFrom?,
      Pattern.findWith?, Pattern.live, Pattern.settle, Pattern.Thread.follow?, Pattern.ended?,
      Pattern.Thread.step?, Pattern.token, Pattern.Match.span]
  have hchooses : s.Chooses ['A', '=', '7', ';'] ['A', '=', '7', ';'] ⟨2, 1⟩ :=
    ⟨by decide, by rw [htokens]; rfl⟩
  have h : renumberLine s resolver 1 ['A', '=', '7', ';'] =
      .ok (.renumbered "A=55; // 7".toList (.matched 7 55)) :=
    renumberLine_eq_renumbered_iff.2 ⟨_, _, hchooses, by decide, by decide⟩
  exact ⟨h, renumberLine_isSound.2.2 .closest TieBreak.closest_picksMember _ _ s 1 _ _ _ h⟩

end Renumber
