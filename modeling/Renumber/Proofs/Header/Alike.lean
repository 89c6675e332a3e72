import Renumber.Proofs.Header.Failure

/-!
# Two runs over one header

Two settings look for tokens in the same way if they have the same pattern, the same choice and the
same rule for comments (`Settings.SameSearch`).  Under such settings a line ends in the same way,
whatever labels are written and whichever resolver is asked: it is dropped, kept with the same text,
refused with the same error, or renumbered, where only the texts and the fates of the token can differ
(`renumberLine_alike`).

If, moreover, the fates are counted alike, two runs over the same header have the same outcome, and
where they fail they end at the same line (`StopsAt`, `renumber_alike`).
-/

namespace Renumber

/-- Two outcomes that are the same error, or results that are related. -/
inductive EndsAlike {ε α : Type} (R : α → α → Prop) : Except ε α → Except ε α → Prop
  | error (e : ε) : EndsAlike R (.error e) (.error e)
  | ok {a b : α} (h : R a b) : EndsAlike R (.ok a) (.ok b)

/-- The same becomes of a line, up to the text of a renumbered one and what is said of its token. -/
inductive LineChange.Alike (R : TokenFate → TokenFate → Prop) : LineChange → LineChange → Prop
  | dropped : Alike R .dropped .dropped
  | kept (text : List Char) : Alike R (.kept text) (.kept text)
  | renumbered {text text' : List Char} {fate fate' : TokenFate} (h : R fate fate') :
      Alike R (.renumbered text fate) (.renumbered text' fate')

/-- A run into an unlimited sink that ends at the line of this number: the lines before it go through,
it stops the run, and the sink is left with what became of the lines before. -/
def StopsAt (s : Settings) (resolver : Resolver) (input : List UInt8) (number : Nat) (e : Error) :
    Prop :=
  ∃ before raw after changes out,
    cutAfter isLineFeed input = before ++ raw :: after ∧ before.length + 1 = number ∧
    Carried s resolver 1 before changes out ∧ LineFault s number raw e ∧
    (renumber s resolver input {}).2 = .error e ∧
    (renumber s resolver input {}).1.contents = encode (banner s) ++ out

/-- Settings under which the same token of a line is taken, or none. -/
structure Settings.SameSearch (s s' : Settings) : Prop where
  pattern_eq : s'.pattern = s.pattern
  choice_eq : s'.choice = s.choice
  lead_eq : s'.lead = s.lead

/-! ## One line -/

section

variable {s s' : Settings} (hsearch : s.SameSearch s')

include hsearch

theorem Settings.SameSearch.chooses {line kept : List Char} {span : Span}
    (h : s.Chooses line kept span) : s'.Chooses line kept span := by
  obtain ⟨hpattern, hchoice, hlead⟩ := hsearch
  refine ⟨?_, ?_⟩
  · rw [hlead]
    exact h.kept_eq
  · rw [hpattern, hchoice]
    exact h.picks

theorem Settings.SameSearch.lacks {line kept : List Char} {i : UInt64} (h : s.Lacks line kept i) :
    s'.Lacks line kept i := by
  obtain ⟨hpattern, hchoice, hlead⟩ := hsearch
  refine ⟨?_, ?_, ?_, ?_⟩
  · rw [hlead]
    exact h.kept_eq
  · rw [hchoice]
    exact h.choice_eq
  · rw [hpattern]
    exact h.ne_nil
  · rw [hpattern]
    exact h.length_le

theorem Settings.SameSearch.lineFault {number : Nat} {raw : List UInt8} {e : Error}
    (h : LineFault s number raw e) : LineFault s' number raw e := by
  cases h with
  | notText h => exact .notText h
  | lacksToken htext hl h =>
    rw [← hsearch.pattern_eq]
    exact .lacksToken htext hl (hsearch.lacks h)

variable {resolver resolver' : Resolver} {R : TokenFate → TokenFate → Prop}
  (hfate : ∀ token, R (replaceToken s resolver token).fate (replaceToken s' resolver' token).fate)

include hfate

theorem renumberLine_alike (number : Nat) (line : List Char) :
    EndsAlike (LineChange.Alike R) (renumberLine s resolver number line)
      (renumberLine s' resolver' number line) := by
  obtain ⟨hkept, h⟩ | ⟨kept, hkept, htokens, h⟩ | ⟨kept, span, hchooses, h⟩ | ⟨kept, i, hlacks, h⟩ :=
    renumberLine_cases s resolver number line
  · have h' : renumberLine s' resolver' number line = .ok .dropped := by
      simp [renumberLine, hsearch.lead_eq, hkept]
    rw [h, h']
    exact .ok .dropped
  · have h' : renumberLine s' resolver' number line = .ok (.kept kept) := by
      simp [renumberLine, hsearch.lead_eq, hsearch.pattern_eq, hkept, htokens]
    rw [h, h']
    exact .ok (.kept kept)
  · rw [h, renumberLine_of_chooses (hsearch.chooses hchooses)]
    exact .ok (.renumbered (hfate _))
  · rw [h, renumberLine_of_lacks (hsearch.lacks hlacks), hsearch.pattern_eq]
    exact .error _

/-! ## A run -/

/-- Where one run goes through, so does the other. -/
theorem Carried.alike {number : Nat} {raws : List (List UInt8)} {changes : List LineChange}
    {out : List UInt8} (h : Carried s resolver number raws changes out) :
    ∃ changes' out', Carried s' resolver' number raws changes' out' ∧
      List.Forall₂ (LineChange.Alike R) changes changes' := by
  induction h with
  | nil => exact ⟨[], [], .nil, .nil⟩
  | @cons number text l rest change changes out hl hchange _ ih =>
    obtain ⟨changes', out', hrest, hchanges⟩ := ih
    have hline := renumberLine_alike hsearch hfate number l.content
    rw [hchange] at hline
    generalize hchange' : renumberLine s' resolver' number l.content = result at hline
    cases hline with
    | ok halike => exact ⟨_, _, .cons hl hchange' hrest, .cons halike hchanges⟩

end

theorem foldl_countLine_alike {R : TokenFate → TokenFate → Prop}
    (hcount : ∀ fate fate', R fate fate' → ∀ t : Tally, t.countFate fate = t.countFate fate')
    {changes changes' : List LineChange} (h : List.Forall₂ (LineChange.Alike R) changes changes')
    (t : Tally) : changes.foldl Tally.countLine t = changes'.foldl Tally.countLine t := by
  induction h generalizing t with
  | nil => rfl
  | @cons change change' _ _ halike _ ih =>
    have hstep : t.countLine change = t.countLine change' := by
      cases halike with
      | dropped => rfl
      | kept text => rfl
      | renumbered h => exact hcount _ _ h _
    rw [List.foldl_cons, List.foldl_cons, hstep, ih]

theorem stopsAt_of_lineFault {s : Settings} {resolver : Resolver} {input : List UInt8}
    {before after : List (List UInt8)} {raw : List UInt8} {changes : List LineChange}
    {out : List UInt8} {e : Error}
    (hinput : cutAfter isLineFeed input = before ++ raw :: after)
    (h : Carried s resolver 1 before changes out) (hfault : LineFault s (before.length + 1) raw e) :
    StopsAt s resolver input (before.length + 1) e := by
  obtain ⟨sink, hcontents, hrun⟩ := renumber_of_lineFault hinput h hfault
  exact ⟨before, raw, after, changes, out, hinput, rfl, h, hfault, by rw [hrun],
    by rw [hrun, hcontents]⟩

theorem StopsAt.outcome_eq {s : Settings} {resolver : Resolver} {input : List UInt8} {number : Nat}
    {e : Error} (h : StopsAt s resolver input number e) :
    (renumber s resolver input {}).2 = .error e := by
  obtain ⟨-, -, -, -, -, -, -, -, -, houtcome, -⟩ := h
  exact houtcome

/-- Two runs over a header that look for tokens in the same way and count them alike: the outcome is
the same, and if it is an error, both runs have ended at the same line. -/
theorem renumber_alike {s s' : Settings} (hsearch : s.SameSearch s') {resolver resolver' : Resolver}
    {R : TokenFate → TokenFate → Prop}
    (hfate : ∀ token, R (replaceToken s resolver token).fate (replaceToken s' resolver' token).fate)
    (hcount : ∀ fate fate', R fate fate' → ∀ t : Tally, t.countFate fate = t.countFate fate')
    (input : List UInt8) :
    (renumber s resolver input {}).2 = (renumber s' resolver' input {}).2 ∧
    ∀ e, (renumber s resolver input {}).2 = .error e →
      ∃ number, StopsAt s resolver input number e ∧ StopsAt s' resolver' input number e := by
  obtain ⟨changes, out, h⟩ | ⟨before, raw, after, e, changes, out, hinput, h, hfault⟩ :=
    carried_or_fault s resolver (cutAfter isLineFeed input) (fun _ h => h) 1
  · obtain ⟨changes', out', h', halike⟩ := h.alike hsearch hfate
    obtain ⟨sink, -, hrun⟩ := renumber_of_carried h
    obtain ⟨sink', -, hrun'⟩ := renumber_of_carried h'
    rw [hrun, hrun']
    exact ⟨congrArg Except.ok (foldl_countLine_alike hcount halike {}), nofun⟩
  · rw [Nat.add_comm] at hfault
    obtain ⟨changes', out', h', -⟩ := h.alike hsearch hfate
    have hstops := stopsAt_of_lineFault hinput h hfault
    have hstops' := stopsAt_of_lineFault hinput h' (hsearch.lineFault hfault)
    refine ⟨hstops.outcome_eq.trans hstops'.outcome_eq.symm, fun e' he' => ?_⟩
    obtain rfl : e = e' := Except.error.inj (hstops.outcome_eq.symm.trans he')
    exact ⟨_, hstops, hstops'⟩

end Renumber
