import Mathlib
import Renumber.Proofs.Header.Streaming

/-!
# What a failed run leaves behind

A line stops a run if its bytes are no text, or if it has tokens but not the one that is asked for
(`LineFault`); comments and lines without tokens never do.  The lines of a header either all go
through, or up to a first one that stops the run (`carried_or_fault`).

A run into an unlimited sink fails exactly if some line stops it.  Then it fails as the first such
line says, and holds the banner and what became of each line before, under the line's own ending, and
nothing of the line itself.  A run into a sink with room for `n` bytes ends the same way if that much
fits, and with the first `n` bytes and a full sink otherwise (`renumber_fails_at_firstFault`).
-/

namespace Renumber

/-- Why a run stops at a line: its bytes are no text, or it has tokens but not the one asked for. -/
inductive LineFault (s : Settings) (number : Nat) (raw : List UInt8) : Error → Prop
  | notText (h : ∀ text, Text.bytesOf text ≠ raw) : LineFault s number raw (.stream .invalidUtf8)
  | lacksToken {text : String} {l : TextLine} {kept : List Char} {i : UInt64}
      (htext : Text.bytesOf text = raw) (hl : IsCut text.toList [l]) (h : s.Lacks l.content kept i) :
      LineFault s number raw (.tokenOutOfRange number i (s.pattern.tokens kept).length)

/-! ## Lemmas -/

section

variable {s : Settings} {resolver : Resolver}

theorem ofBytes?_eq_none_iff {raw : List UInt8} :
    Text.ofBytes? raw = none ↔ ∀ text, Text.bytesOf text ≠ raw := by
  constructor
  · rintro h text rfl
    rw [Text.ofBytes?_bytesOf] at h
    cases h
  · intro h
    by_contra hne
    obtain ⟨text, htext⟩ := Option.ne_none_iff_exists'.1 hne
    exact h text (Text.bytesOf_of_ofBytes? htext)

/-- A line that goes through has no fault. -/
theorem not_lineFault {number number' : Nat} {text : String} {l : TextLine} {change : LineChange}
    (hl : IsCut text.toList [l]) (hchange : renumberLine s resolver number l.content = .ok change)
    {e : Error} : ¬ LineFault s number' (Text.bytesOf text) e := by
  intro hfault
  cases hfault with
  | notText h => exact h text rfl
  | @lacksToken text' l' kept i htext hl' h =>
    obtain rfl := Text.bytesOf_inj htext
    obtain rfl := hl.eq_of_text_eq hl'
    rw [renumberLine_of_lacks h] at hchange
    cases hchange

theorem renumberRaw_of_lineFault {tally : Tally} {raw : List UInt8} {e : Error}
    (h : LineFault s (tally.lines + 1) raw e) : renumberRaw s resolver tally raw = .error e := by
  cases h with
  | notText h =>
    unfold renumberRaw
    rw [ofBytes?_eq_none_iff.2 h]
  | @lacksToken text l kept i htext hl h =>
    subst htext
    rw [renumberRaw_of_isCut hl, renumberLine_of_lacks h]

theorem Carried.not_lineFault {number : Nat} {before : List (List UInt8)}
    {changes : List LineChange} {out : List UInt8} (h : Carried s resolver number before changes out)
    {raw : List UInt8} (hraw : raw ∈ before) {number' : Nat} {e : Error} :
    ¬ LineFault s number' raw e := by
  induction h with
  | nil => cases hraw
  | cons hl hchange h ih =>
    rcases List.mem_cons.1 hraw with rfl | hmem
    · exact Renumber.not_lineFault hl hchange
    · exact ih hmem

/-- The lines of a header all go through, or up to a first one that stops the run. -/
theorem carried_or_fault (s : Settings) (resolver : Resolver) {input : List UInt8}
    (raws : List (List UInt8)) (hraws : ∀ raw ∈ raws, raw ∈ cutAfter isLineFeed input)
    (number : Nat) :
    (∃ changes out, Carried s resolver number raws changes out) ∨
      ∃ before raw after e changes out, raws = before ++ raw :: after ∧
        Carried s resolver number before changes out ∧
        LineFault s (number + before.length) raw e := by
  induction raws generalizing number with
  | nil => exact Or.inl ⟨[], [], .nil⟩
  | cons raw rest ih =>
    by_cases htext : ∀ text, Text.bytesOf text ≠ raw
    · exact Or.inr ⟨[], raw, rest, _, [], [], rfl, .nil, .notText htext⟩
    · obtain ⟨text, rfl⟩ : ∃ text, Text.bytesOf text = raw := by simpa using htext
      obtain ⟨l, hl⟩ := exists_isCut_of_mem (hraws _ List.mem_cons_self)
      cases hline : renumberLine s resolver number l.content with
      | error e =>
        obtain ⟨kept, i, h, rfl⟩ := renumberLine_eq_error_iff.1 hline
        exact Or.inr ⟨[], _, rest, _, [], [], rfl, .nil, .lacksToken rfl hl h⟩
      | ok change =>
        rcases ih (fun raw h => hraws raw (List.mem_cons_of_mem _ h)) (number + 1) with
          ⟨changes, out, h⟩ | ⟨before, raw, after, e, changes, out, rfl, h, hfault⟩
        · exact Or.inl ⟨_, _, .cons hl hline h⟩
        · refine Or.inr ⟨_ :: before, raw, after, e, _, _, rfl, .cons hl hline h, ?_⟩
          rw [List.length_cons]
          rwa [Nat.add_right_comm] at hfault

/-- A run into an unlimited sink that no line stops. -/
theorem renumber_of_carried {input : List UInt8} {changes : List LineChange} {out : List UInt8}
    (h : Carried s resolver 1 (cutAfter isLineFeed input) changes out) :
    ∃ sink, sink.contents = encode (banner s) ++ out ∧
      renumber s resolver input {} = (sink, .ok (changes.foldl Tally.countLine {})) := by
  obtain ⟨sink, -, hcontents, hrun⟩ := renumber_append h (List.append_nil _).symm
  exact ⟨sink, hcontents, hrun⟩

/-- A run into an unlimited sink ends at the first line that stops it. -/
theorem renumber_of_lineFault {input : List UInt8} {before after : List (List UInt8)}
    {raw : List UInt8} {changes : List LineChange} {out : List UInt8} {e : Error}
    (hinput : cutAfter isLineFeed input = before ++ raw :: after)
    (h : Carried s resolver 1 before changes out) (hfault : LineFault s (before.length + 1) raw e) :
    ∃ sink, sink.contents = encode (banner s) ++ out ∧
      renumber s resolver input {} = (sink, .error e) := by
  obtain ⟨sink, -, hcontents, hrun⟩ := renumber_append h hinput
  have hlines : (changes.foldl Tally.countLine {}).lines = before.length := by
    rw [Tally.foldl_countLine_lines, h.length_eq]
    exact Nat.zero_add _
  have hraw : renumberRaw s resolver (changes.foldl Tally.countLine {}) raw = .error e :=
    renumberRaw_of_lineFault (by rwa [hlines])
  refine ⟨sink, hcontents, ?_⟩
  rw [hrun, renumberLines, hraw]

/-- A run into an unlimited sink goes through all lines, or ends at the first that stops it. -/
theorem renumber_cases (s : Settings) (resolver : Resolver) (input : List UInt8) :
    (∃ tally changes out, (renumber s resolver input {}).2 = .ok tally ∧
      Carried s resolver 1 (cutAfter isLineFeed input) changes out) ∨
    ∃ e before raw after changes out, (renumber s resolver input {}).2 = .error e ∧
      cutAfter isLineFeed input = before ++ raw :: after ∧
      LineFault s (before.length + 1) raw e ∧
      Carried s resolver 1 before changes out ∧
      (renumber s resolver input {}).1.contents = encode (banner s) ++ out := by
  rcases carried_or_fault s resolver (cutAfter isLineFeed input) (fun _ h => h) 1 with
    ⟨changes, out, h⟩ | ⟨before, raw, after, e, changes, out, hinput, h, hfault⟩
  · left
    obtain ⟨sink, -, hrun⟩ := renumber_of_carried h
    exact ⟨_, changes, out, by rw [hrun], h⟩
  · right
    rw [Nat.add_comm] at hfault
    obtain ⟨sink, hcontents, hrun⟩ := renumber_of_lineFault hinput h hfault
    exact ⟨e, before, raw, after, changes, out, by rw [hrun], hinput, hfault, h, by rw [hrun, hcontents]⟩

end

/-! ## Main theorem -/

/-- When a run into an unlimited sink fails, how it fails and what it leaves behind, and that a run
into a sink with room for a number of bytes follows it. -/
theorem renumber_fails_at_firstFault (s : Settings) (resolver : Resolver) (input : List UInt8) :
    ((∃ e, (renumber s resolver input {}).2 = .error e) ↔
      ∃ i raw e, (cutAfter isLineFeed input)[i]? = some raw ∧ LineFault s (i + 1) raw e) ∧
    (∀ e, (renumber s resolver input {}).2 = .error e →
      ∃ (lines : List TextLine) (raw : List UInt8) (after : List (List UInt8))
        (changes : List LineChange),
        cutAfter isLineFeed input = lines.map (fun l => encode l.text) ++ raw :: after ∧
        (∀ l ∈ lines, IsCut l.text [l]) ∧
        (∀ l ∈ lines, ∀ number e', ¬ LineFault s number (encode l.text) e') ∧
        LineFault s (lines.length + 1) raw e ∧
        (lines.zipIdx 1).map (fun (l, i) => renumberLine s resolver i l.content) =
          changes.map .ok ∧
        (renumber s resolver input {}).1.contents = encode
          ((if s.bare then [] else
            "// Current: ".toList ++ s.currentLabel.toList ++ ['\n'] ++
            "// Previous: ".toList ++ s.previousLabel.toList ++ ['\n']) ++
          (lines.zip changes).flatMap fun (l, change) =>
            match change with
            | .dropped => []
            | .kept text => text ++ l.ending
            | .renumbered text _ => text ++ l.ending)) ∧
    ∀ n, Sink.Follows (renumber s resolver input { room := some n })
      (renumber s resolver input {}) n := by
  refine ⟨?_, ?_, Sink.renumber_follows s resolver input⟩
  · rcases renumber_cases s resolver input with ⟨tally, changes, out, hok, h⟩ |
      ⟨e, before, raw, after, changes, out, herror, hinput, hfault, -⟩
    · constructor
      · rintro ⟨e, he⟩
        rw [hok] at he
        cases he
      · rintro ⟨i, raw, e, hi, hfault⟩
        exact absurd hfault (h.not_lineFault (List.mem_of_getElem? hi))
    · constructor
      · intro _
        exact ⟨before.length, raw, e, by simp [hinput], hfault⟩
      · intro _
        exact ⟨e, herror⟩
  · intro e he
    rcases renumber_cases s resolver input with ⟨tally, changes, out, hok, h⟩ |
      ⟨e', before, raw, after, changes, out, herror, hinput, hfault, h, hcontents⟩
    · rw [hok] at he
      cases he
    · obtain rfl : e' = e := Except.error.inj (herror.symm.trans he)
      obtain ⟨lines, rfl, hlines, hchanges, rfl⟩ := h.exists_lines
      rw [List.length_map] at hfault
      refine ⟨lines, raw, after, changes, hinput, hlines, fun l hl _ _ => ?_, hfault, hchanges, ?_⟩
      · exact h.not_lineFault (List.mem_map_of_mem hl)
      · rw [hcontents, ← banner_eq, encode_append]
        rfl

/-- The second token is asked for, and the second line has only one: the first line is there with its
line feed, and nothing of the second. -/
theorem renumber_fails_at_firstFault_secondLine :
    let s : Settings :=
      { pattern := ⟨#[.char '7'], 0⟩, choice := .index 1, previousLabel := "a", currentLabel := "b" }
    let run := renumber s (fun _ => .unknownId) (Text.bytesOf "x\n7") {}
    run.1.contents = encode "// Current: b\n// Previous: a\nx\n".toList ∧
    ∃ e, run.2 = .error e ∧
      ∃ (lines : List TextLine) (raw : List UInt8) (after : List (List UInt8)),
        cutAfter isLineFeed (Text.bytesOf "x\n7") =
          lines.map (fun l => encode l.text) ++ raw :: after ∧
        (∀ l ∈ lines, ∀ number e', ¬ LineFault s number (encode l.text) e') ∧
        LineFault s (lines.length + 1) raw e := by
  intro s run
  have htokens : s.pattern.tokens ['7'] = [⟨0, 1⟩] := by
    simp [s, Pattern.tokens, Pattern.allMatches, Pattern.matchesFrom, Pattern.findFrom?,
      Pattern.findWith?, Pattern.live, Pattern.settle, Pattern.Thread.follow?, Pattern.ended?,
      Pattern.Thread.step?, Pattern.token, Pattern.Match.span]
  have hlacks : s.Lacks ['7'] ['7'] 1 :=
    ⟨by decide, rfl, by simp [htokens], by rw [htokens]; decide⟩
  have hcut : IsCut "7".toList [⟨['7'], []⟩] := .rest (by decide) (by decide)
  obtain ⟨hfails, hends, -⟩ := renumber_fails_at_firstFault s (fun _ => .unknownId) (Text.bytesOf "x\n7")
  obtain ⟨e, he⟩ := hfails.2 ⟨1, Text.bytesOf "7", _, by decide, .lacksToken rfl hcut hlacks⟩
  obtain ⟨lines, raw, after, changes, hinput, -, hclean, hfault, -, -⟩ := hends e he
  refine ⟨?_, e, he, lines, raw, after, hinput, hclean, hfault⟩
  dsimp only [run, s]
  cbv

end Renumber
