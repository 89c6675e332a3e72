import Renumber.Proofs.Header.Line
import Renumber.Proofs.Header.Run

/-!
# Carrying over a text is carrying over its lines

A run reads, carries over, counts and writes line after line.  If no line of a text fails, the run
does not fail either, its output is the banner and what becomes of each line under the line's own
ending, and its tally counts the lines by what became of them (`renumber_eq_lineByLine`).

Each counter goes up by one for the lines of its kind and stays for the others, so at the end it is
the number of such lines (`Tally.foldl_countLine`).
-/

namespace Renumber

namespace LineChange

def isDropped : LineChange → Bool
  | dropped => true
  | _ => false

def isKept : LineChange → Bool
  | kept _ => true
  | _ => false

/-- Whether the line had a token, and with a fate of this kind. -/
def hasFate (kind : TokenFate → Bool) : LineChange → Bool
  | renumbered _ fate => kind fate
  | _ => false

end LineChange

namespace TokenFate

def isUnmatched : TokenFate → Bool
  | unmatched _ => true
  | _ => false

def isUnknown : TokenFate → Bool
  | unknown _ => true
  | _ => false

def isNotAnId : TokenFate → Bool
  | notAnId _ => true
  | _ => false

end TokenFate

namespace Tally

/-- A tally of lines: every counter is the number of lines of its kind, and no line is left out. -/
structure Counts (t : Tally) (changes : List LineChange) : Prop where
  lines : t.lines = changes.length
  dropped : t.dropped = changes.countP (·.isDropped)
  matched : t.matched = changes.countP (·.hasFate (·.isMatched))
  unmatched : t.unmatched = changes.countP (·.hasFate (·.isUnmatched))
  unknown : t.unknown = changes.countP (·.hasFate (·.isUnknown))
  notIds : t.notIds = changes.countP (·.hasFate (·.isNotAnId))
  tried : t.tried = t.matched + t.unmatched
  sum : t.lines =
    t.dropped + changes.countP (·.isKept) + t.tried + t.notIds + t.unknown

/-! ## Counting -/

/-- What one line adds to each counter. -/
theorem countLine_eq (t : Tally) (change : LineChange) :
    t.countLine change =
      { lines := t.lines + 1
        dropped := t.dropped + if change.isDropped then 1 else 0
        tried := t.tried + if change.hasFate (·.isTried) then 1 else 0
        matched := t.matched + if change.hasFate (·.isMatched) then 1 else 0
        notIds := t.notIds + if change.hasFate (·.isNotAnId) then 1 else 0
        unknown := t.unknown + if change.hasFate (·.isUnknown) then 1 else 0
        unmatched := t.unmatched + if change.hasFate (·.isUnmatched) then 1 else 0 } := by
  rcases change with _ | text | ⟨text, token | id | id | ⟨previous, current⟩⟩ <;> rfl

/-- A counter that goes up by one for the lines of a kind ends as the number of these lines. -/
theorem foldl_countLine {counter : Tally → Nat} {kind : LineChange → Bool}
    (h : ∀ t change, counter (t.countLine change) = counter t + if kind change then 1 else 0)
    (changes : List LineChange) (t : Tally) :
    counter (changes.foldl countLine t) = counter t + changes.countP kind := by
  induction changes generalizing t with
  | nil => simp
  | cons change rest ih =>
    rw [List.foldl_cons, ih, h, List.countP_cons]
    omega

theorem countP_hasFate (changes : List LineChange) :
    changes.countP (·.hasFate (·.isTried)) =
      changes.countP (·.hasFate (·.isMatched)) + changes.countP (·.hasFate (·.isUnmatched)) := by
  induction changes with
  | nil => rfl
  | cons change rest ih =>
    simp only [List.countP_cons, ih]
    rcases change with _ | text | ⟨text, token | id | id | ⟨previous, current⟩⟩ <;>
      simp [LineChange.hasFate, TokenFate.isTried, TokenFate.isMatched, TokenFate.isUnmatched] <;>
      omega

/-- Every line is of exactly one kind. -/
theorem length_eq_countP (changes : List LineChange) :
    changes.length = changes.countP (·.isDropped) + changes.countP (·.isKept) +
      changes.countP (·.hasFate (·.isTried)) + changes.countP (·.hasFate (·.isNotAnId)) +
      changes.countP (·.hasFate (·.isUnknown)) := by
  induction changes with
  | nil => rfl
  | cons change rest ih =>
    rw [List.length_cons, ih]
    simp only [List.countP_cons]
    rcases change with _ | text | ⟨text, token | id | id | ⟨previous, current⟩⟩ <;>
      simp [LineChange.isDropped, LineChange.isKept, LineChange.hasFate, TokenFate.isTried,
        TokenFate.isNotAnId, TokenFate.isUnknown] <;>
      omega

theorem counts_foldl (changes : List LineChange) : (changes.foldl countLine {}).Counts changes := by
  have counted : ∀ (counter : Tally → Nat) (kind : LineChange → Bool), counter {} = 0 →
      (∀ t change, counter (t.countLine change) = counter t + if kind change then 1 else 0) →
      counter (changes.foldl countLine {}) = changes.countP kind := by
    intro counter kind h0 h
    rw [foldl_countLine h, h0, Nat.zero_add]
  have hlines := counted lines (fun _ => true) rfl fun t change => by rw [countLine_eq]; rfl
  have htried := counted tried _ rfl fun t change => by rw [countLine_eq]
  have hdropped := counted dropped _ rfl fun t change => by rw [countLine_eq]
  have hmatched := counted matched _ rfl fun t change => by rw [countLine_eq]
  have hunmatched := counted unmatched _ rfl fun t change => by rw [countLine_eq]
  have hunknown := counted unknown _ rfl fun t change => by rw [countLine_eq]
  have hnotIds := counted notIds _ rfl fun t change => by rw [countLine_eq]
  rw [List.countP_true] at hlines
  refine ⟨hlines, hdropped, hmatched, hunmatched, hunknown, hnotIds, ?_, ?_⟩
  · rw [htried, hmatched, hunmatched, countP_hasFate]
  · rw [hlines, hdropped, htried, hnotIds, hunknown]
    exact length_eq_countP changes

end Tally

/-! ## Lines and their changes -/

theorem banner_eq (s : Settings) :
    banner s = if s.bare then [] else
      "// Current: ".toList ++ s.currentLabel.toList ++ ['\n'] ++
      "// Previous: ".toList ++ s.previousLabel.toList ++ ['\n'] := by
  unfold banner
  split
  · rfl
  · have h : "\n// Previous: ".toList = ['\n'] ++ "// Previous: ".toList := by decide
    rw [h]
    simp only [List.append_assoc]

section

variable {s : Settings} {resolver : Resolver}

theorem carried_of_map_eq {lines : List TextLine} (hlines : ∀ l ∈ lines, IsCut l.text [l])
    {changes : List LineChange} {number : Nat}
    (h : (lines.zipIdx number).map (fun (l, i) => renumberLine s resolver i l.content) =
      changes.map .ok) :
    Carried s resolver number (lines.map fun l => encode l.text) changes
      (encode ((lines.zip changes).flatMap fun (l, change) => change.output l.ending)) := by
  induction lines generalizing changes number with
  | nil =>
    obtain rfl : changes = [] := by simpa using h.symm
    exact .nil
  | cons l lines ih =>
    cases changes with
    | nil => cases h
    | cons change changes =>
      obtain ⟨hchange, hrest⟩ := List.cons.inj h
      have hout := ih (fun l' hl' => hlines l' (List.mem_cons_of_mem _ hl')) hrest
      have := Carried.cons_line (hlines l List.mem_cons_self) hchange hout
      rwa [← encode_append] at this

/-- Lines that do not fail are lines of a text, with what becomes of each. -/
theorem Carried.exists_lines {number : Nat} {raws : List (List UInt8)} {changes : List LineChange}
    {out : List UInt8} (h : Carried s resolver number raws changes out) :
    ∃ lines : List TextLine, raws = lines.map (fun l => encode l.text) ∧
      (∀ l ∈ lines, IsCut l.text [l]) ∧
      (lines.zipIdx number).map (fun (l, i) => renumberLine s resolver i l.content) =
        changes.map .ok ∧
      out = encode ((lines.zip changes).flatMap fun (l, change) => change.output l.ending) := by
  induction h with
  | nil => exact ⟨[], rfl, nofun, rfl, rfl⟩
  | @cons number text l rest change changes out hl hchange h ih =>
    obtain ⟨lines, rfl, hlines, hchanges, rfl⟩ := ih
    have htext : text.toList = l.text := hl.text_eq
    rw [htext] at hl
    refine ⟨l :: lines, ?_, List.forall_mem_cons.2 ⟨hl, hlines⟩, ?_, ?_⟩
    · rw [List.map_cons, ← htext, encode_toList]
    · rw [List.zipIdx_cons, List.map_cons, List.map_cons, hchanges]
      exact congrArg (· :: changes.map .ok) hchange
    · rw [List.zip_cons_cons, List.flatMap_cons, encode_append]

end

/-- Carrying over a text none of whose lines is refused: the banner unless it is left out, then what
becomes of each line, under the line's own ending. -/
theorem renumber_eq_lineByLine (s : Settings) (resolver : Resolver) (text : String)
    (lines : List TextLine) (changes : List LineChange) (hcut : IsCut text.toList lines)
    (hchanges : (lines.zipIdx 1).map (fun (l, i) => renumberLine s resolver i l.content) =
      changes.map .ok) :
    ∃ sink tally, renumber s resolver (Text.bytesOf text) {} = (sink, .ok tally) ∧
      sink.contents = encode
        ((if s.bare then [] else
          "// Current: ".toList ++ s.currentLabel.toList ++ ['\n'] ++
          "// Previous: ".toList ++ s.previousLabel.toList ++ ['\n']) ++
        (lines.zip changes).flatMap fun (l, change) =>
          match change with
          | .dropped => []
          | .kept text => text ++ l.ending
          | .renumbered text _ => text ++ l.ending) ∧
      tally.Counts changes := by
  have hcarried := carried_of_map_eq (fun l hl => hcut.of_mem hl) hchanges
  have hinput : cutAfter isLineFeed (Text.bytesOf text) =
      (lines.map fun l => encode l.text) ++ [] := by
    rw [← encode_toList, cutAfter_encode hcut, List.append_nil]
  obtain ⟨sink, -, hcontents, hrun⟩ := renumber_append hcarried hinput
  refine ⟨sink, _, hrun, ?_, Tally.counts_foldl changes⟩
  rw [hcontents, ← banner_eq, encode_append]
  rfl

/-- A comment, a line with a lone carriage return in it, and a rest without an ending. -/
def threeLines : List TextLine :=
  [⟨['/', '/', 'x'], ['\r', '\n']⟩, ⟨['A', '\r', '7', ';'], ['\r', '\n']⟩, ⟨['e', 'n', 'd'], []⟩]

theorem renumber_eq_lineByLine_threeLines :
    let s : Settings := { pattern := ⟨#[.char '7'], 0⟩, previousLabel := "a", currentLabel := "b" }
    ∃ sink tally, renumber s (fun _ => .unknownId) (Text.bytesOf "//x\r\nA\r7;\r\nend") {} =
        (sink, .ok tally) ∧
      sink.contents = encode
        "// Current: b\n// Previous: a\nA\r-1; //! Message Not Found: 7\r\nend".toList ∧
      tally.Counts
        [.dropped, .renumbered "A\r-1; //! Message Not Found: 7".toList (.unknown 7),
          .kept "end".toList] := by
  intro s
  have hcut : IsCut "//x\r\nA\r7;\r\nend".toList threeLines := by
    have first : TextLine.IsEnded ⟨['/', '/', 'x'], ['\r', '\n']⟩ := .crlf (by decide)
    have second : TextLine.IsEnded ⟨['A', '\r', '7', ';'], ['\r', '\n']⟩ := .crlf (by decide)
    have third : IsCut ['e', 'n', 'd'] [⟨['e', 'n', 'd'], []⟩] := .rest (by decide) (by decide)
    exact .line first (.line second third)
  have hfound : s.pattern.tokens ['A', '\r', '7', ';'] = [⟨2, 1⟩] := by
    simp [s, Pattern.tokens, Pattern.allMatches, Pattern.matchesFrom, Pattern.findFrom?,
      Pattern.findWith?, Pattern.live, Pattern.settle, Pattern.Thread.follow?, Pattern.ended?,
      Pattern.Thread.step?, Pattern.token, Pattern.Match.span]
  have hnone : s.pattern.tokens ['e', 'n', 'd'] = [] := by
    simp [s, Pattern.tokens, Pattern.allMatches, Pattern.matchesFrom, Pattern.findFrom?,
      Pattern.findWith?, Pattern.live, Pattern.settle, Pattern.Thread.follow?, Pattern.ended?,
      Pattern.Thread.step?]
  have hchooses : s.Chooses ['A', '\r', '7', ';'] ['A', '\r', '7', ';'] ⟨2, 1⟩ :=
    ⟨by decide, by rw [hfound]; rfl⟩
  have hsecond : renumberLine s (fun _ => .unknownId) 2 ['A', '\r', '7', ';'] =
      .ok (.renumbered "A\r-1; //! Message Not Found: 7".toList (.unknown 7)) :=
    renumberLine_eq_renumbered_iff.2 ⟨_, _, hchooses, by decide, by decide⟩
  have hthird : renumberLine s (fun _ => .unknownId) 3 ['e', 'n', 'd'] = .ok (.kept "end".toList) := by
    unfold renumberLine
    have hkept : withoutComment? s.lead ['e', 'n', 'd'] = some ['e', 'n', 'd'] := by decide
    simp [hkept, hnone]
  have hchanges : (threeLines.zipIdx 1).map
        (fun (l, i) => renumberLine s (fun _ => .unknownId) i l.content) =
      [.dropped, .renumbered "A\r-1; //! Message Not Found: 7".toList (.unknown 7),
        .kept "end".toList].map .ok := by
    show [.ok .dropped, renumberLine s _ 2 ['A', '\r', '7', ';'],
      renumberLine s _ 3 ['e', 'n', 'd']] = _
    rw [hsecond, hthird]
    rfl
  obtain ⟨sink, tally, hrun, hcontents, hcounts⟩ :=
    renumber_eq_lineByLine s (fun _ => .unknownId) "//x\r\nA\r7;\r\nend" _ _ hcut hchanges
  refine ⟨sink, tally, hrun, ?_, hcounts⟩
  rw [hcontents]
  apply congrArg encode
  decide

end Renumber
