import Renumber.Proofs.Catalog.Partition
import Renumber.Proofs.Header.Failure
import Renumber.Proofs.Header.Fate
import Renumber.Proofs.Header.Renewal
import Renumber.Proofs.Header.Streaming

/-!
# Carrying a header over to the build it is of

In a build without collisions every live message is the one candidate for itself, so an id that is
carried over to the same build stays what it is (`resolve_self`).  Without banner, remarks and change of
label, a line with such an id becomes what is left of it without its comment; and so does every other
line that does not stop the run (`Settings.Echoes`).

The output is then the text without its comments (`withoutComments`), and its lines are what is left of
the lines of the text: nothing of a comment goes with what is kept, neither a line feed nor a carriage
return that would become part of the ending (`isCut_withoutComments`).  As no more is taken away from
what was kept, a second run finds the same changes but for the dropped lines, and writes the same text
(`renumber_withinBuild`).
-/

namespace Renumber

open Text

/-- What is left of the lines of a text; lines that are comments are left out. -/
def withoutComments (lead : CommentLead) (lines : List TextLine) : List TextLine :=
  lines.filterMap fun l => (withoutComment? lead l.content).map fun kept => ⟨kept, l.ending⟩

/-- The tally of the lines that were not dropped. -/
def Tally.withoutDropped (t : Tally) : Tally := { t with lines := t.lines - t.dropped, dropped := 0 }

/-- A line becomes what is left of it without its comment, and so does what is left, wherever it stands. -/
inductive Settings.Echoes (s : Settings) (resolver : Resolver) (line : List Char) : LineChange → Prop
  | dropped (hnone : withoutComment? s.lead line = none) : Echoes s resolver line .dropped
  | left {kept : List Char} {change : LineChange} (hkept : withoutComment? s.lead line = some kept)
      (hdropped : change.isDropped = false)
      (houtput : ∀ ending, change.output ending = kept ++ ending)
      (hagain : ∀ number, renumberLine s resolver number kept = .ok change) :
      Echoes s resolver line change

/-! ## Ids of the build itself -/

/-- A live message is the one candidate for itself. -/
theorem liveWith_of_no_collisions {c : Catalog} (hcollisions : c.index.collisions = []) {m : Message}
    (hm : m ∈ c.messages) (hlive : 0 < m.references) : liveWith m.fingerprint c.messages = [m] := by
  have hmem : m ∈ liveWith m.fingerprint c.messages := mem_liveWith.2 ⟨hm, hlive, rfl⟩
  have hfew : ¬ 2 ≤ (liveWith m.fingerprint c.messages).length := by
    intro hmany
    have hshared := Catalog.mem_collisions_index.2 ⟨(c.candidates_index m.fingerprint).symm, hmany⟩
    rw [hcollisions] at hshared
    cases hshared
  obtain ⟨only, honly⟩ : ∃ only, liveWith m.fingerprint c.messages = [only] :=
    List.length_eq_one_iff.1 (by have := List.length_pos_of_mem hmem; omega)
  rw [honly, List.mem_singleton] at hmem
  rw [honly, hmem]

theorem resolve_self (tieBreak : TieBreak) {c : Catalog} (hcollisions : c.index.collisions = [])
    {m : Message} (hm : m ∈ c.messages) (hlive : 0 < m.references) :
    resolve tieBreak c c.index m.id = .resolved m := by
  rw [resolve_of_mem hm rfl, liveWith_of_no_collisions hcollisions hm hlive]
  rfl

theorem value_self {s : Settings} (hids : s.asFingerprints = false) (tieBreak : TieBreak) {c : Catalog}
    (hcollisions : c.index.collisions = []) {m : Message} (hm : m ∈ c.messages)
    (hlive : 0 < m.references) :
    (replaceToken s (resolve tieBreak c c.index) (decimal m.id.toNat)).value =
      decimal m.id.toNat := by
  unfold replaceToken
  rw [readId?_eq_some_iff.2 (isNumeral_decimal m.id.toNat)]
  simp only [resolve_self tieBreak hcollisions hm hlive, hids, Bool.false_eq_true, if_false]

/-! ## One line -/

section

variable {s : Settings} {resolver : Resolver} {line kept : List Char} {change : LineChange}

/-- The value is the token itself, and the labels around it stay. -/
theorem renumberedText_eq_kept {span : Span} (hbare : s.bare = true)
    (hlabels : s.previousLabel = "" ∨ s.previousLabel = s.currentLabel)
    (hvalue : (replaceToken s resolver (span.covered kept)).value = span.covered kept) :
    renumberedText s resolver kept span = kept := by
  have hunchanged : ∀ part, updateLabel s part = part := fun part =>
    updateLabel_of_absent (hlabels.imp_right .inl)
  rw [renumberedText_unlabelled fun part _ => hunchanged part, if_pos hbare, List.append_nil, hvalue]
  exact span.before_covered_after kept

theorem echoes_of_renumberLine {number : Nat}
    (htext : ∀ kept span, s.Chooses line kept span → renumberedText s resolver kept span = kept)
    (h : renumberLine s resolver number line = .ok change) : s.Echoes resolver line change := by
  rcases renumberLine_cases s resolver number line with
    ⟨hnone, h'⟩ | ⟨kept, hkept, hnone, h'⟩ | ⟨kept, span, hchooses, h'⟩ | ⟨kept, i, -, h'⟩ <;>
    rw [h'] at h <;> cases h
  · exact .dropped hnone
  · refine .left hkept rfl (fun _ => rfl) fun number' => ?_
    simp [renumberLine, withoutComment?_kept hkept, hnone]
  · refine .left hchooses.kept_eq rfl (fun ending => ?_) fun number' => ?_
    · exact congrArg (· ++ ending) (htext kept span hchooses)
    · exact renumberLine_of_chooses ⟨withoutComment?_kept hchooses.kept_eq, hchooses.picks⟩

end

/-! ## The lines that are left -/

section

variable {lead : CommentLead} {l : TextLine} {lines : List TextLine} {kept text : List Char}

/-- Something is left of a line that is not empty, and at its end no more than the line had there. -/
theorem kept_cases (h : withoutComment? lead text = some kept) :
    kept = text ∨ kept ≠ [] ∧ ∀ c, kept.getLast? = some c → isBlank c = false := by
  rcases withoutComment?_eq_some_iff.1 h with ⟨rfl, -⟩ | ⟨cut, -, -, ⟨c, hc, hblank⟩, rfl⟩
  · exact .inl rfl
  · exact .inr ⟨List.ne_nil_of_mem ((mem_trimEnd hblank).2 hc),
      fun c => isBlank_of_getLast?_trimEnd⟩

theorem TextLine.IsEnded.keeping (hl : l.IsEnded) (h : withoutComment? lead l.content = some kept) :
    TextLine.IsEnded ⟨kept, l.ending⟩ := by
  cases hl with
  | @lf content hlf hcr =>
    refine .lf (fun hmem => hlf ((kept_isPrefix h).subset hmem)) fun hlast => ?_
    rcases kept_cases h with rfl | ⟨-, hend⟩
    · exact hcr hlast
    · exact absurd (hend _ hlast) (by decide)
  | @crlf content hlf => exact .crlf fun hmem => hlf ((kept_isPrefix h).subset hmem)

theorem withoutComments_cons_of_dropped (h : withoutComment? lead l.content = none) :
    withoutComments lead (l :: lines) = withoutComments lead lines :=
  List.filterMap_cons_none (by rw [h]; rfl)

theorem withoutComments_cons_of_kept (h : withoutComment? lead l.content = some kept) :
    withoutComments lead (l :: lines) = ⟨kept, l.ending⟩ :: withoutComments lead lines :=
  List.filterMap_cons_some (by rw [h]; rfl)

/-- What is left of the lines of a text are the lines of what is left of it. -/
theorem isCut_withoutComments (h : IsCut text lines) (lead : CommentLead) :
    IsCut ((withoutComments lead lines).flatMap TextLine.text) (withoutComments lead lines) := by
  induction h with
  | nil => exact .nil
  | @rest content hne hlf =>
    cases hkept : withoutComment? lead content with
    | none =>
      rw [withoutComments_cons_of_dropped hkept]
      exact .nil
    | some kept =>
      rw [withoutComments_cons_of_kept hkept]
      have hleft : kept ≠ [] := by
        rcases kept_cases hkept with rfl | ⟨hleft, -⟩
        · exact hne
        · exact hleft
      have := IsCut.rest hleft fun hmem => hlf ((kept_isPrefix hkept).subset hmem)
      simpa [withoutComments, TextLine.text] using this
  | @line l text lines hl h ih =>
    cases hkept : withoutComment? lead l.content with
    | none => rwa [withoutComments_cons_of_dropped hkept]
    | some kept =>
      rw [withoutComments_cons_of_kept hkept, List.flatMap_cons]
      exact .line (hl.keeping hkept) ih

end

/-! ## Counting -/

theorem Tally.withoutDropped_countLine {t : Tally} (ht : t.dropped ≤ t.lines) (change : LineChange) :
    (t.countLine change).dropped ≤ (t.countLine change).lines ∧
      (t.countLine change).withoutDropped =
        if change.isDropped then t.withoutDropped else t.withoutDropped.countLine change := by
  rw [countLine_eq, countLine_eq]
  have hsub : t.lines + 1 - t.dropped = t.lines - t.dropped + 1 := by omega
  cases hdropped : change.isDropped with
  | true =>
    cases change with
    | dropped => exact ⟨by simp; omega, by simp [withoutDropped, LineChange.hasFate]⟩
    | kept text => cases hdropped
    | renumbered text fate => cases hdropped
  | false => exact ⟨by simp; omega, by simp [withoutDropped, hsub]⟩

/-- The lines that are not dropped are counted as among the others. -/
theorem Tally.withoutDropped_foldl (changes : List LineChange) {t : Tally} (ht : t.dropped ≤ t.lines) :
    (changes.foldl countLine t).dropped ≤ (changes.foldl countLine t).lines ∧
      (changes.foldl countLine t).withoutDropped =
        (changes.filter fun change => !change.isDropped).foldl countLine t.withoutDropped := by
  induction changes generalizing t with
  | nil => exact ⟨ht, rfl⟩
  | cons change changes ih =>
    obtain ⟨hle, hstep⟩ := withoutDropped_countLine ht change
    obtain ⟨hle', hrest⟩ := ih hle
    refine ⟨hle', ?_⟩
    rw [List.foldl_cons, hrest, hstep]
    cases hdropped : change.isDropped <;> simp [hdropped]

/-! ## Both runs -/

section

variable {s : Settings} {resolver : Resolver} {lines : List TextLine}

/-- If every line becomes what is left of it, then so does the text, and what is left of the lines is
carried over by the same changes, but for those that drop a line. -/
theorem carried_withoutComments {number : Nat} {changes : List LineChange} {out : List UInt8}
    (h : Carried s resolver number (lines.map fun l => encode l.text) changes out)
    (hlines : ∀ l ∈ lines, IsCut l.text [l])
    (hleft : ∀ l ∈ withoutComments s.lead lines, IsCut l.text [l])
    (htext : ∀ l ∈ lines, ∀ kept span, s.Chooses l.content kept span →
      renumberedText s resolver kept span = kept) :
    out = encode ((withoutComments s.lead lines).flatMap TextLine.text) ∧
      ∀ number', Carried s resolver number'
        ((withoutComments s.lead lines).map fun l => encode l.text)
        (changes.filter fun change => !change.isDropped) out := by
  induction lines generalizing number changes out with
  | nil =>
    cases h
    exact ⟨rfl, fun _ => .nil⟩
  | cons l lines ih =>
    obtain ⟨change, changes, out, rfl, rfl, hchange, h⟩ :=
      Carried.of_cons_line (hlines l List.mem_cons_self) h
    have hechoes := echoes_of_renumberLine (htext l List.mem_cons_self) hchange
    have ih := fun hleft => ih h (fun l hl => hlines l (List.mem_cons_of_mem _ hl)) hleft
      (fun l hl => htext l (List.mem_cons_of_mem _ hl))
    cases hechoes with
    | dropped hnone =>
      rw [withoutComments_cons_of_dropped hnone] at hleft ⊢
      exact ih hleft
    | left hkept hdropped houtput hagain =>
      rw [withoutComments_cons_of_kept hkept] at hleft ⊢
      obtain ⟨hout, hcarried⟩ := ih fun l hl => hleft l (List.mem_cons_of_mem _ hl)
      rw [List.filter_cons_of_pos (by simp [hdropped]), houtput]
      refine ⟨?_, fun number' => ?_⟩
      · rw [hout, ← encode_append, List.flatMap_cons]
        rfl
      · have := Carried.cons_line (hleft _ List.mem_cons_self) (hagain number')
          (hcarried (number' + 1))
        rwa [houtput] at this

end

/-! ## Main theorem -/

/-- A header that is carried over to the build it is of, with nothing to be written but ids, loses its
comments; a second time it loses nothing, and everything but the comments is counted again. -/
theorem renumber_withinBuild (s : Settings) (tieBreak : TieBreak) (c : Catalog) (text : String)
    (lines : List TextLine) (tally : Tally) (hbare : s.bare = true) (hids : s.asFingerprints = false)
    (hlabels : s.previousLabel = "" ∨ s.previousLabel = s.currentLabel)
    (hcollisions : c.index.collisions = []) (hlines : IsCut text.toList lines)
    (hrun : (renumber s (resolve tieBreak c c.index) (Text.bytesOf text) {}).2 = .ok tally)
    (htokens : ∀ l ∈ lines, ∀ kept span, s.Chooses l.content kept span →
      ∃ m ∈ c.messages, 0 < m.references ∧ span.covered kept = decimal m.id.toNat) :
    let out := encode ((withoutComments s.lead lines).flatMap TextLine.text)
    (renumber s (resolve tieBreak c c.index) (Text.bytesOf text) {}).1.contents = out ∧
    (renumber s (resolve tieBreak c c.index) out {}).1.contents = out ∧
    (renumber s (resolve tieBreak c c.index) out {}).2 = .ok tally.withoutDropped ∧
    tally.dropped ≤ tally.lines := by
  intro out
  have htext : ∀ l ∈ lines, ∀ kept span, s.Chooses l.content kept span →
      renumberedText s (resolve tieBreak c c.index) kept span = kept := by
    intro l hl kept span hchooses
    obtain ⟨m, hm, hlive, htoken⟩ := htokens l hl kept span hchooses
    refine renumberedText_eq_kept hbare hlabels ?_
    rw [htoken, value_self hids tieBreak hcollisions hm hlive]
  have hbanner : encode (banner s) = [] := by
    rw [banner, if_pos hbare]
    rfl
  have hcut := cutAfter_encode hlines
  rw [encode_toList] at hcut
  rcases renumber_cases s (resolve tieBreak c c.index) (Text.bytesOf text) with
    ⟨_, changes, written, -, h⟩ | ⟨e, _, _, _, _, _, herror, -⟩
  · obtain ⟨sink, hcontents, hfirst⟩ := renumber_of_carried h
    rw [hcut] at h
    have hleft := isCut_withoutComments hlines s.lead
    obtain ⟨hwritten, hagain⟩ :=
      carried_withoutComments h (fun _ hl => hlines.of_mem hl) (fun _ hl => hleft.of_mem hl) htext
    obtain ⟨sink', hcontents', hsecond⟩ := renumber_of_carried (cutAfter_encode hleft ▸ hagain 1)
    rw [hfirst] at hrun ⊢
    obtain rfl := Except.ok.inj hrun
    obtain ⟨hle, htally⟩ := Tally.withoutDropped_foldl changes (Nat.le_refl (Tally.dropped {}))
    rw [hbanner, List.nil_append, hwritten] at hcontents hcontents'
    refine ⟨hcontents, ?_, ?_, hle⟩
    · rw [hsecond, hcontents']
    · rw [hsecond, htally]
      rfl
  · rw [herror] at hrun
    cases hrun

/-- A comment, a line with one behind a carriage return, and a rest without an ending; the id is that of a
live message, and a dead one has its fingerprint. -/
theorem renumber_withinBuild_threeLines :
    let s : Settings :=
      { pattern := ⟨#[.char '7'], 0⟩, previousLabel := "", currentLabel := "b", bare := true,
        lead := .letterOrBlank }
    let c : Catalog :=
      ⟨.outgoing,
        [{ id := 5, fingerprint := "G", direction := .outgoing, references := 0 },
          { id := 7, fingerprint := "G", direction := .outgoing }],
        by decide, by decide, by decide⟩
    let resolver := resolve .closest c c.index
    let tally : Tally := { lines := 3, dropped := 1, tried := 2, matched := 2 }
    (renumber s resolver (Text.bytesOf "//x\r\nA\r7 \r//y\n7") {}).2 = .ok tally ∧
    (renumber s resolver (Text.bytesOf "//x\r\nA\r7 \r//y\n7") {}).1.contents =
      encode "A\r7\n7".toList ∧
    (renumber s resolver (encode "A\r7\n7".toList) {}).1.contents = encode "A\r7\n7".toList ∧
    (renumber s resolver (encode "A\r7\n7".toList) {}).2 =
      .ok { lines := 2, tried := 2, matched := 2 } := by
  intro s c resolver tally
  have hrun : (renumber s resolver (Text.bytesOf "//x\r\nA\r7 \r//y\n7") {}).2 = .ok tally := by cbv
  have hlines : IsCut "//x\r\nA\r7 \r//y\n7".toList
      [⟨['/', '/', 'x'], ['\r', '\n']⟩, ⟨['A', '\r', '7', ' ', '\r', '/', '/', 'y'], ['\n']⟩,
        ⟨['7'], []⟩] := by
    have first : TextLine.IsEnded ⟨['/', '/', 'x'], ['\r', '\n']⟩ := .crlf (by decide)
    have second : TextLine.IsEnded ⟨['A', '\r', '7', ' ', '\r', '/', '/', 'y'], ['\n']⟩ :=
      .lf (by decide) (by decide)
    exact .line first (.line second (.rest (by decide) (by decide)))
  have hlast : ∀ line kept span, s.Chooses line kept span → ∀ kept', withoutComment? s.lead line =
      some kept' → ∀ place, (s.pattern.tokens kept').getLast? = some ⟨place, 1⟩ →
      kept = kept' ∧ span = ⟨place, 1⟩ := by
    intro line kept span hchooses kept' hkept place htoken
    obtain rfl := Option.some.inj (hchooses.kept_eq.symm.trans hkept)
    exact ⟨rfl, Option.some.inj (hchooses.picks.symm.trans htoken)⟩
  obtain ⟨hfirst, hsecond, htally, -⟩ :=
    renumber_withinBuild s .closest c _ _ tally rfl rfl (.inl rfl) (by decide) hlines hrun
      fun l hl kept span hchooses => by
        refine ⟨_, List.mem_cons_of_mem _ List.mem_cons_self, by decide, ?_⟩
        simp only [List.mem_cons, List.not_mem_nil, or_false] at hl
        rcases hl with rfl | rfl | rfl
        · have hnone : withoutComment? s.lead ['/', '/', 'x'] = none := by decide
          exact absurd (hchooses.kept_eq.symm.trans hnone) (Option.some_ne_none kept)
        · obtain ⟨rfl, rfl⟩ := hlast _ _ _ hchooses ['A', '\r', '7'] (by decide) 2 (by cbv)
          decide
        · obtain ⟨rfl, rfl⟩ := hlast _ _ _ hchooses ['7'] (by decide) 0 (by cbv)
          decide
  exact ⟨hrun, hfirst, hsecond, htally⟩

end Renumber
