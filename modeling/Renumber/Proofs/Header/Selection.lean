import Renumber.Proofs.Header.Fate
import Renumber.Proofs.Pattern.AssignedNumber

/-!
# What the default pattern selects

Under the default pattern the tokens of a line are its assigned numbers, so a line is kept as it is
if it has none, and otherwise a choice takes the last one or the one with a given index.  The digits
may be of any script, but an id has ASCII digits and 32 bits: a number is no id exactly if it has
another digit or is greater than 4294967295 (`readId?_eq_none_iff`).

The main theorem puts this together for every line that is no comment
(`renumberLine_assignedNumber`).
-/

namespace Renumber

open Text

/-! ## Lemmas -/

/-- The ids that digits of any script stand for. -/
theorem readId?_eq_some_iff_of_digits {token : List Char} (hne : token ≠ [])
    (hdigits : ∀ c ∈ token, isDecimalDigit c) {p : MessageId} :
    readId? token = some p ↔ (∀ c ∈ token, c.isDigit) ∧ p.toNat = Nat.ofDigitChars 10 token 0 := by
  rw [readId?_eq_some_iff]
  constructor
  · rintro ⟨digits, rfl | rfl, -, hascii, hvalue⟩
    · exact ⟨hascii, hvalue⟩
    · -- a sign is no digit of any script
      have hplus : isDecimalDigit '+' = false := by decide
      rw [hdigits '+' List.mem_cons_self] at hplus
      cases hplus
  · rintro ⟨hascii, hvalue⟩
    exact ⟨token, .inl rfl, hne, hascii, hvalue⟩

theorem readId?_eq_none_iff {token : List Char} (hne : token ≠ [])
    (hdigits : ∀ c ∈ token, isDecimalDigit c) :
    readId? token = none ↔
      (∃ c ∈ token, c.isDigit = false) ∨ 4294967295 < Nat.ofDigitChars 10 token 0 := by
  rw [Option.eq_none_iff_forall_ne_some]
  simp only [ne_eq, readId?_eq_some_iff_of_digits hne hdigits, not_and]
  constructor
  · intro h
    by_contra hor
    obtain ⟨hascii, hle⟩ := not_or.1 hor
    have hascii : ∀ c ∈ token, c.isDigit := by simpa using hascii
    refine h (UInt32.ofNat (Nat.ofDigitChars 10 token 0)) hascii ?_
    rw [UInt32.toNat_ofNat_of_lt' (by rw [UInt32.size]; omega)]
  · rintro (⟨c, hc, hother⟩ | hlarge) p hascii hvalue
    · rw [hascii c hc] at hother
      cases hother
    · have := p.toNat_lt
      omega

theorem exists_notAnId_iff {s : Settings} {resolver : Resolver} {token : List Char} :
    (∃ t, (replaceToken s resolver token).fate = .notAnId t) ↔ readId? token = none := by
  unfold replaceToken
  cases readId? token with
  | none => simp
  | some id => cases hid : resolver id <;> simp [hid]

/-! ## Main theorem -/

/-- The default text reads as the pattern whose tokens are the assigned numbers of a line, from left
to right.  A line that is no comment is kept if it has none; otherwise the chosen number is replaced,
unless there are not as many as the index, and it counts as no id exactly if it has a digit of another
script or does not fit into 32 bits. -/
theorem renumberLine_assignedNumber :
    Pattern.ofText? Pattern.defaultText = .ok Pattern.assignedNumber ∧
    (∀ line : List Char,
      (Pattern.assignedNumber.tokens line).Pairwise (fun a b => a.start + a.length < b.start) ∧
      ∀ span, span ∈ Pattern.assignedNumber.tokens line ↔ IsAssignedNumber line span) ∧
    ∀ (s : Settings) (resolver : Resolver) (number : Nat) (line kept : List Char),
      s.pattern = Pattern.assignedNumber → withoutComment? s.lead line = some kept →
        (∀ text, renumberLine s resolver number line = .ok (.kept text) ↔
          text = kept ∧ ∀ span, ¬ IsAssignedNumber kept span) ∧
        (∀ span, s.choice.Picks (s.pattern.tokens kept) span →
          ∃ fate, renumberLine s resolver number line =
              .ok (.renumbered (renumberedText s resolver kept span) fate) ∧
            ((∃ token, fate = .notAnId token) ↔
              (∃ c ∈ span.covered kept, c.isDigit = false) ∨
              4294967295 < Nat.ofDigitChars 10 (span.covered kept) 0)) ∧
        (∀ i, s.choice = .index i → s.pattern.tokens kept ≠ [] →
          (s.pattern.tokens kept).length ≤ i.toNat →
          renumberLine s resolver number line =
            .error (.tokenOutOfRange number i (s.pattern.tokens kept).length)) := by
  have hmem : ∀ (line : List Char) span,
      span ∈ Pattern.assignedNumber.tokens line ↔ IsAssignedNumber line span := by
    intro line span
    rw [Pattern.tokens_assignedNumber, mem_assignedNumbers_iff]
  refine ⟨Pattern.ofText?_defaultText, fun line => ⟨?_, hmem line⟩, ?_⟩
  · rw [Pattern.tokens_assignedNumber]
    exact assignedNumbers_ascending 0 line
  intro s resolver number line kept hpattern hkept
  refine ⟨fun text => ?_, fun span hpicks => ?_, fun i hchoice hne hlength => ?_⟩
  · rw [renumberLine_eq_kept_iff, hkept, Option.some.injEq, hpattern]
    constructor
    · rintro ⟨rfl, hnone⟩
      exact ⟨rfl, fun span hspan => List.not_mem_nil (hnone ▸ (hmem _ span).2 hspan)⟩
    · rintro ⟨rfl, hnone⟩
      exact ⟨rfl, List.eq_nil_iff_forall_not_mem.2 fun span hspan => hnone span ((hmem _ span).1 hspan)⟩
  · have hrun : IsAssignedNumber kept span := (hmem kept span).1 (hpattern ▸ hpicks.mem)
    refine ⟨_, renumberLine_of_chooses ⟨hkept, hpicks⟩, ?_⟩
    rw [exists_notAnId_iff, readId?_eq_none_iff hrun.covered_ne_nil hrun.digits]
  · exact renumberLine_of_lacks ⟨hkept, hchoice, hne, hlength⟩

/-- Three numbers, of which the second has a digit of another script and the third is too large; the
slashes are behind a colon. -/
theorem renumberLine_assignedNumber_threeNumbers :
    let line := "A==7=\t٣= 4294967296 = b; x://y".toList
    let settings (choice : TokenChoice) : Settings :=
      { pattern := Pattern.assignedNumber, choice, previousLabel := "", currentLabel := "" }
    let resolver : Resolver := fun _ => .unknownId
    (∃ fate, renumberLine (settings (.index 0)) resolver 1 line =
        .ok (.renumbered "A==-1=\t٣= 4294967296 = b; x://y //! Message Not Found: 7".toList fate) ∧
      ∀ token, fate ≠ .notAnId token) ∧
    (∃ text token, renumberLine (settings (.index 1)) resolver 1 line =
      .ok (.renumbered text (.notAnId token))) ∧
    (∃ text token, renumberLine (settings .last) resolver 1 line =
      .ok (.renumbered text (.notAnId token))) ∧
    renumberLine (settings (.index 3)) resolver 1 line = .error (.tokenOutOfRange 1 3 3) := by
  intro line settings resolver
  have hkept (choice : TokenChoice) : withoutComment? (settings choice).lead line = some line :=
    (by decide : withoutComment? .letter line = some line)
  have htokens (choice : TokenChoice) :
      (settings choice).pattern.tokens line = [⟨3, 1⟩, ⟨6, 1⟩, ⟨9, 10⟩] := by
    rw [show (settings choice).pattern = Pattern.assignedNumber from rfl,
      Pattern.tokens_assignedNumber]
    decide
  have hline (choice : TokenChoice) :=
    renumberLine_assignedNumber.2.2 (settings choice) resolver 1 line line rfl (hkept choice)
  have hseven : (⟨3, 1⟩ : Span).covered line = ['7'] := by decide
  have hthree : (⟨6, 1⟩ : Span).covered line = ['٣'] := by decide
  have hlarge : (⟨9, 10⟩ : Span).covered line = "4294967296".toList := by decide
  refine ⟨?_, ?_, ?_, ?_⟩
  · obtain ⟨fate, hfate, hiff⟩ := (hline (.index 0)).2.1 ⟨3, 1⟩ (by rw [htokens]; rfl)
    have htext : renumberedText (settings (.index 0)) resolver line ⟨3, 1⟩ =
        "A==-1=\t٣= 4294967296 = b; x://y //! Message Not Found: 7".toList := by decide
    refine ⟨fate, htext ▸ hfate, fun token htoken => ?_⟩
    rw [hseven] at hiff
    rcases hiff.1 ⟨token, htoken⟩ with ⟨c, hc, hother⟩ | hvalue
    · rw [List.mem_singleton.1 hc] at hother
      cases hother
    · exact absurd hvalue (by decide)
  · obtain ⟨fate, hfate, hiff⟩ := (hline (.index 1)).2.1 ⟨6, 1⟩ (by rw [htokens]; rfl)
    rw [hthree] at hiff
    obtain ⟨token, rfl⟩ := hiff.2 (.inl ⟨'٣', List.mem_singleton_self _, by decide⟩)
    exact ⟨_, token, hfate⟩
  · obtain ⟨fate, hfate, hiff⟩ := (hline .last).2.1 ⟨9, 10⟩ (by rw [htokens]; rfl)
    rw [hlarge] at hiff
    obtain ⟨token, rfl⟩ := hiff.2 (.inr (by decide))
    exact ⟨_, token, hfate⟩
  · have herror := (hline (.index 3)).2.2 3 rfl (by rw [htokens]; simp) (by rw [htokens]; decide)
    rwa [htokens] at herror

end Renumber
