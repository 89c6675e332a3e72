import Renumber.Proofs.Text.Lines

/-!
# A run over the lines of a header

`Carried` lists what a run makes of a number of lines none of which fails: what becomes of each, and
the bytes that are written for all of them.  A run into a sink with room for everything goes through
such lines, counts them and writes their bytes, and then stands at the lines behind them
(`renumberLines_append`).

A sink with room for `n` bytes shadows an unlimited one as long as everything fits (`Sink.Shadows`).
One write keeps it so or leaves the first `n` bytes in the sink with room (`Sink.Shadows.write`), and
therefore so does a whole run (`Sink.renumber_follows`).
-/

namespace Renumber

/-- What a run makes of lines that do not fail: what becomes of each, and the bytes written. -/
inductive Carried (s : Settings) (resolver : Resolver) :
    (number : Nat) → List (List UInt8) → List LineChange → List UInt8 → Prop
  | nil {number : Nat} : Carried s resolver number [] [] []
  | cons {number : Nat} {text : String} {l : TextLine} {rest : List (List UInt8)}
      {change : LineChange} {changes : List LineChange} {out : List UInt8}
      (hl : IsCut text.toList [l]) (hchange : renumberLine s resolver number l.content = .ok change)
      (h : Carried s resolver (number + 1) rest changes out) :
      Carried s resolver number (Text.bytesOf text :: rest) (change :: changes)
        (encode (change.output l.ending) ++ out)

namespace Sink

/-- The sink with room for `n` bytes holds what the unlimited one does, and that is all it got. -/
structure Shadows (bounded full : Sink) (n : Nat) : Prop where
  full_room : full.room = none
  room_eq : bounded.room = some (n - full.contents.length)
  contents_eq : bounded.contents = full.contents
  length_le : full.contents.length ≤ n

/-- How a run into a sink with room for `n` bytes ends, compared with an unlimited one. -/
structure Follows (bounded full : Sink × Except Error Tally) (n : Nat) : Prop where
  of_fits : full.1.contents.length ≤ n →
    bounded.1.contents = full.1.contents ∧ bounded.2 = full.2
  of_exceeds : n < full.1.contents.length →
    bounded.1.contents = full.1.contents.take n ∧ bounded.2 = .error (.stream .sinkFull)

/-! ## Sinks -/

theorem contents_mk (room : Option Nat) (bytes : List UInt8) (chunks : List (List UInt8)) :
    (⟨room, bytes :: chunks⟩ : Sink).contents = (⟨room, chunks⟩ : Sink).contents ++ bytes := by
  simp [contents]

theorem write_of_unlimited {sink : Sink} (h : sink.room = none) (bytes : List UInt8) :
    ∃ sink', sink.write bytes = (sink', true) ∧ sink'.room = none ∧
      sink'.contents = sink.contents ++ bytes := by
  obtain ⟨room, chunks⟩ := sink
  cases h
  exact ⟨_, rfl, rfl, contents_mk none bytes chunks⟩

/-- One write into both sinks. -/
theorem Shadows.write {bounded full : Sink} {n : Nat} (h : bounded.Shadows full n)
    (bytes : List UInt8) :
    ∃ full', full.write bytes = (full', true) ∧ full'.room = none ∧
      full'.contents = full.contents ++ bytes ∧
      ((∃ bounded', bounded.write bytes = (bounded', true) ∧ bounded'.Shadows full' n) ∨
        (∃ bounded', bounded.write bytes = (bounded', false) ∧ n < full'.contents.length ∧
          bounded'.contents = full'.contents.take n)) := by
  obtain ⟨full', hwrite, hroom, hcontents⟩ := write_of_unlimited h.full_room bytes
  refine ⟨full', hwrite, hroom, hcontents, ?_⟩
  have hle := h.length_le
  obtain ⟨room, chunks⟩ := bounded
  obtain rfl : room = some (n - full.contents.length) := h.room_eq
  have hcontents' : (⟨some (n - full.contents.length), chunks⟩ : Sink).contents = full.contents :=
    h.contents_eq
  unfold Sink.write
  by_cases hfits : bytes.length ≤ n - full.contents.length
  · left
    simp only [if_pos hfits]
    refine ⟨_, rfl, hroom, ?_, ?_, ?_⟩
    · rw [hcontents, List.length_append, Nat.sub_sub]
    · rw [contents_mk, hcontents]
      exact congrArg (· ++ bytes) hcontents'
    · rw [hcontents, List.length_append]
      omega
  · right
    simp only [if_neg hfits]
    refine ⟨_, rfl, ?_, ?_⟩
    · rw [hcontents, List.length_append]
      omega
    · rw [contents_mk, hcontents, List.take_append, List.take_of_length_le hle]
      exact congrArg (· ++ bytes.take _) hcontents'

end Sink

/-! ## Lines that do not fail -/

section

variable {s : Settings} {resolver : Resolver}

theorem Tally.countLine_lines (t : Tally) (change : LineChange) :
    (t.countLine change).lines = t.lines + 1 := by
  unfold countLine
  cases change with
  | dropped => rfl
  | kept text => rfl
  | renumbered text fate => cases fate <;> rfl

theorem Tally.foldl_countLine_lines (changes : List LineChange) (t : Tally) :
    (changes.foldl countLine t).lines = t.lines + changes.length := by
  induction changes generalizing t with
  | nil => rfl
  | cons change rest ih =>
    rw [List.foldl_cons, ih, countLine_lines, List.length_cons]
    omega

theorem Carried.length_eq {number : Nat} {before : List (List UInt8)} {changes : List LineChange}
    {out : List UInt8} (h : Carried s resolver number before changes out) :
    changes.length = before.length := by
  induction h with
  | nil => rfl
  | cons hl hchange h ih => rw [List.length_cons, List.length_cons, ih]

theorem Carried.cons_line {number : Nat} {l : TextLine} {rest : List (List UInt8)}
    {change : LineChange} {changes : List LineChange} {out : List UInt8} (hl : IsCut l.text [l])
    (hchange : renumberLine s resolver number l.content = .ok change)
    (h : Carried s resolver (number + 1) rest changes out) :
    Carried s resolver number (encode l.text :: rest) (change :: changes)
      (encode (change.output l.ending) ++ out) := by
  have hofList : IsCut (String.ofList l.text).toList [l] := by rwa [String.toList_ofList]
  exact .cons hofList hchange h

theorem Carried.of_cons_line {number : Nat} {l : TextLine} {rest : List (List UInt8)}
    {changes : List LineChange} {out : List UInt8} (hl : IsCut l.text [l])
    (h : Carried s resolver number (encode l.text :: rest) changes out) :
    ∃ change changes' out', changes = change :: changes' ∧
      out = encode (change.output l.ending) ++ out' ∧
      renumberLine s resolver number l.content = .ok change ∧
      Carried s resolver (number + 1) rest changes' out' := by
  generalize hraw : encode l.text = raw at h
  cases h with
  | @cons _ text l' _ change changes out hl' hchange h =>
    obtain rfl : String.ofList l.text = text := Text.bytesOf_inj hraw
    rw [String.toList_ofList] at hl'
    obtain rfl := hl.eq_of_text_eq hl'
    exact ⟨change, changes, out, rfl, rfl, hchange, h⟩

theorem renumberRaw_of_isCut {tally : Tally} {text : String} {l : TextLine}
    (hl : IsCut text.toList [l]) :
    renumberRaw s resolver tally (Text.bytesOf text) =
      match renumberLine s resolver (tally.lines + 1) l.content with
      | .error e => .error e
      | .ok change => .ok (tally.countLine change, encode (change.output l.ending)) := by
  cases h : renumberLine s resolver (tally.lines + 1) l.content <;>
    simp [renumberRaw, Text.ofBytes?_bytesOf, hl.splitEnding_eq, h]

/-- A run into an unlimited sink goes through lines that do not fail. -/
theorem renumberLines_append {before : List (List UInt8)} {number : Nat}
    {changes : List LineChange} {out : List UInt8}
    (h : Carried s resolver number before changes out) (rest : List (List UInt8)) {tally : Tally}
    (htally : tally.lines + 1 = number) {sink : Sink} (hsink : sink.room = none) :
    ∃ sink', sink'.room = none ∧ sink'.contents = sink.contents ++ out ∧
      renumberLines s resolver tally sink (before ++ rest) =
        renumberLines s resolver (changes.foldl Tally.countLine tally) sink' rest := by
  induction h generalizing tally sink with
  | nil => exact ⟨sink, hsink, by simp, rfl⟩
  | @cons number text l more change changes out hl hchange h ih =>
    obtain ⟨sink₁, hwrite, hroom, hcontents⟩ :=
      Sink.write_of_unlimited hsink (encode (change.output l.ending))
    have hlines : (tally.countLine change).lines + 1 = number + 1 := by
      rw [Tally.countLine_lines, htally]
    obtain ⟨sink₂, hroom₂, hcontents₂, hrun⟩ := ih hlines hroom
    refine ⟨sink₂, hroom₂, ?_, ?_⟩
    · rw [hcontents₂, hcontents, List.append_assoc]
    · rw [List.cons_append, renumberLines, renumberRaw_of_isCut hl, htally, hchange]
      simp only [hwrite]
      exact hrun

/-- A run into an unlimited sink writes the banner and goes through the lines that do not fail. -/
theorem renumber_append {input : List UInt8} {before rest : List (List UInt8)}
    {changes : List LineChange} {out : List UInt8} (h : Carried s resolver 1 before changes out)
    (hinput : cutAfter isLineFeed input = before ++ rest) :
    ∃ sink, sink.room = none ∧ sink.contents = encode (banner s) ++ out ∧
      renumber s resolver input {} =
        renumberLines s resolver (changes.foldl Tally.countLine {}) sink rest := by
  have hfirst : ({} : Tally).lines + 1 = 1 := rfl
  have hempty : ({} : Sink).room = none := rfl
  obtain ⟨sink₁, hwrite, hroom, hcontents⟩ := Sink.write_of_unlimited hempty (encode (banner s))
  obtain ⟨sink₂, hroom₂, hcontents₂, hrun⟩ := renumberLines_append h rest hfirst hroom
  refine ⟨sink₂, hroom₂, by rw [hcontents₂, hcontents]; rfl, ?_⟩
  unfold renumber
  rw [splitLines_eq_cutAfter, hinput, ← hrun, hwrite]

/-- What an unlimited sink holds when a run begins, it holds when the run ends. -/
theorem contents_prefix_renumberLines (raws : List (List UInt8)) (tally : Tally) {sink : Sink}
    (h : sink.room = none) :
    sink.contents <+: (renumberLines s resolver tally sink raws).1.contents := by
  induction raws generalizing tally sink with
  | nil => exact List.prefix_rfl
  | cons raw rest ih =>
    rw [renumberLines]
    cases renumberRaw s resolver tally raw with
    | error e => exact List.prefix_rfl
    | ok step =>
      obtain ⟨tally', bytes⟩ := step
      obtain ⟨sink', hwrite, hroom, hcontents⟩ := Sink.write_of_unlimited h bytes
      simp only [hwrite]
      refine List.IsPrefix.trans ?_ (ih tally' hroom)
      rw [hcontents]
      exact List.prefix_append _ _

end

/-! ## Sinks with room for a number of bytes -/

namespace Sink

variable {s : Settings} {resolver : Resolver} {n : Nat}

theorem Shadows.follows {bounded full : Sink} (h : bounded.Shadows full n)
    (result : Except Error Tally) : Follows (bounded, result) (full, result) n where
  of_fits _ := ⟨h.contents_eq, rfl⟩
  of_exceeds hn := absurd h.length_le (Nat.not_le_of_lt hn)

theorem follows_of_cut {cut reached : Sink} {full : Sink × Except Error Tally}
    (hreached : reached.contents <+: full.1.contents) (hlt : n < reached.contents.length)
    (hcut : cut.contents = reached.contents.take n) :
    Follows (cut, .error (.stream .sinkFull)) full n where
  of_fits hle := by
    have := hreached.length_le
    omega
  of_exceeds _ := by
    obtain ⟨more, hmore⟩ := hreached
    refine ⟨?_, rfl⟩
    rw [hcut, ← hmore, List.take_append_of_le_length (Nat.le_of_lt hlt)]

theorem Shadows.renumberLines (raws : List (List UInt8)) (tally : Tally) {bounded full : Sink}
    (h : bounded.Shadows full n) :
    Follows (Renumber.renumberLines s resolver tally bounded raws)
      (Renumber.renumberLines s resolver tally full raws) n := by
  induction raws generalizing tally bounded full with
  | nil => exact h.follows _
  | cons raw rest ih =>
    rw [Renumber.renumberLines, Renumber.renumberLines]
    cases renumberRaw s resolver tally raw with
    | error e => exact h.follows _
    | ok step =>
      obtain ⟨tally', bytes⟩ := step
      obtain ⟨full', hfull, hroom, -, ⟨bounded', hbounded, h'⟩ | ⟨bounded', hbounded, hlt, hcut⟩⟩ :=
        h.write bytes
      · simp only [hfull, hbounded]
        exact ih tally' h'
      · simp only [hfull, hbounded]
        exact follows_of_cut (contents_prefix_renumberLines rest tally' hroom) hlt hcut

theorem renumber_follows (s : Settings) (resolver : Resolver) (input : List UInt8) (n : Nat) :
    Follows (Renumber.renumber s resolver input { room := some n })
      (Renumber.renumber s resolver input {}) n := by
  have h : ({ room := some n } : Sink).Shadows {} n := ⟨rfl, rfl, rfl, Nat.zero_le n⟩
  unfold Renumber.renumber
  obtain ⟨full', hfull, hroom, -, ⟨bounded', hbounded, h'⟩ | ⟨bounded', hbounded, hlt, hcut⟩⟩ :=
    h.write (encode (banner s))
  · simp only [hfull, hbounded]
    exact h'.renumberLines _ _
  · simp only [hfull, hbounded]
    exact follows_of_cut (contents_prefix_renumberLines _ _ hroom) hlt hcut

end Sink

end Renumber
