import Mathlib
import Renumber.Proofs.Header.Run

/-!
# Headers in pieces

A header may be carried over piece by piece if every piece but the last is aligned to lines.  Nothing
but the count of the lines goes from one line to the next, and that count is of use in errors only:
with `t` counted before, a run counts `t` more, fails some lines farther down, and writes the same
bytes (`renumberLines_behind`).  So a run over two pieces is one over the first and then, unless that
fails, one over the second without the banner (`renumber_append_pieces`).

Tallies are added up in every component, so it does not matter in what order and in what groups
(`Tally.MergesTo`).  Those of the pieces of a header make up the tally of the header
(`renumber_pieces`).
-/

namespace Renumber

/-- Bytes behind which a new line begins. -/
def AlignedToLines (bytes : List UInt8) : Prop := bytes = [] ∨ bytes.getLast? = some 0x0A

/-- The same error some lines farther down. -/
def Error.fartherDown (lines : Nat) : Error → Error
  | .tokenOutOfRange line index found => .tokenOutOfRange (line + lines) index found
  | e => e

namespace Tally

theorem add_def (t u : Tally) : t + u = t.add u := rfl

instance : Zero Tally := ⟨{}⟩

instance : AddCommMonoid Tally where
  add_assoc t u v := by simp [add_def, add, Nat.add_assoc]
  zero_add t := by
    show add {} t = t
    simp [add]
  add_zero t := rfl
  add_comm t u := by simp [add_def, add, Nat.add_comm]
  nsmul := nsmulRec

/-- Tallies are merged one with the other, in any order and in any groups. -/
inductive MergesTo : List Tally → Tally → Prop
  | nothing : MergesTo [] {}
  | single (t : Tally) : MergesTo [t] t
  | merge {before after tallies : List Tally} {t u : Tally} (h : tallies.Perm (before ++ after))
      (ht : MergesTo before t) (hu : MergesTo after u) : MergesTo tallies (t + u)

theorem MergesTo.eq_sum {tallies : List Tally} {total : Tally} (h : MergesTo tallies total) :
    total = tallies.sum := by
  induction h with
  | nothing => rfl
  | single t => exact (List.sum_singleton).symm
  | merge h _ _ iht ihu => rw [h.sum_eq, List.sum_append, iht, ihu]

end Tally

/-! ## Cutting -/

theorem AlignedToLines.cutAfter_append {a : List UInt8} (h : AlignedToLines a) (b : List UInt8) :
    cutAfter isLineFeed (a ++ b) = cutAfter isLineFeed a ++ cutAfter isLineFeed b := by
  induction a using cutInduction isLineFeed with
  | nil => rfl
  | rest l hne hl =>
    obtain hnil | hlast := h
    · exact absurd hnil hne
    · exact absurd (hl 0x0A (List.mem_of_getLast? hlast)) (by decide)
  | line body e tail hb he ih =>
    have htail : AlignedToLines tail := by
      cases tail with
      | nil => exact .inl rfl
      | cons c tail =>
        obtain hnil | hlast := h
        · simp at hnil
        · exact .inr (by simpa [List.getLast?_append, List.getLast?_cons_cons] using hlast)
    rw [List.append_assoc, List.cons_append, cutAfter_of_line hb he, cutAfter_of_line hb he, ih htail]
    rfl

/-! ## Runs behind other lines -/

section

variable {s : Settings} {resolver : Resolver}

theorem renumberLine_fartherDown (number lines : Nat) (line : List Char) :
    renumberLine s resolver (number + lines) line =
      (renumberLine s resolver number line).mapError (Error.fartherDown lines) := by
  unfold renumberLine
  cases withoutComment? s.lead line with
  | none => rfl
  | some rest =>
    cases h : s.pattern.tokens rest with
    | nil => simp [h, Except.mapError]
    | cons first others =>
      simp only [h]
      cases hchoice : s.choice with
      | last => rfl
      | index i =>
        unfold TokenChoice.select
        simp only
        cases (first :: others)[i.toNat]? <;> rfl

theorem Tally.countLine_add (t u : Tally) (change : LineChange) :
    (t + u).countLine change = t + u.countLine change := by
  cases change with
  | dropped => rfl
  | kept text => rfl
  | renumbered text fate => cases fate <;> rfl

theorem renumberRaw_behind (t u : Tally) (raw : List UInt8) :
    renumberRaw s resolver (t + u) raw =
      match renumberRaw s resolver u raw with
      | .error e => .error (e.fartherDown t.lines)
      | .ok (tally, bytes) => .ok (t + tally, bytes) := by
  unfold renumberRaw
  cases Text.ofBytes? raw with
  | none => rfl
  | some text =>
    have hlines : (t + u).lines + 1 = u.lines + 1 + t.lines := by
      show t.lines + u.lines + 1 = u.lines + 1 + t.lines
      omega
    simp only [hlines, renumberLine_fartherDown (u.lines + 1) t.lines]
    cases renumberLine s resolver (u.lines + 1) (splitEnding text.toList).1 with
    | error e => rfl
    | ok change => simp [Except.mapError, Tally.countLine_add]

/-- Lines behind others are counted on top of those, and nothing else about them differs. -/
theorem renumberLines_behind (s : Settings) (resolver : Resolver) (raws : List (List UInt8))
    (t u : Tally) {sink sink' : Sink} (h : sink.room = none) (h' : sink'.room = none) :
    ∃ out,
      (renumberLines s resolver u sink raws).1.contents = sink.contents ++ out ∧
      (renumberLines s resolver (t + u) sink' raws).1.contents = sink'.contents ++ out ∧
      (renumberLines s resolver (t + u) sink' raws).2 =
        match (renumberLines s resolver u sink raws).2 with
        | .error e => .error (e.fartherDown t.lines)
        | .ok tally => .ok (t + tally) := by
  induction raws generalizing u sink sink' with
  | nil => exact ⟨[], by simp [renumberLines], by simp [renumberLines], rfl⟩
  | cons raw rest ih =>
    rw [renumberLines, renumberLines, renumberRaw_behind]
    cases renumberRaw s resolver u raw with
    | error e => exact ⟨[], by simp, by simp, rfl⟩
    | ok step =>
      obtain ⟨tally, bytes⟩ := step
      obtain ⟨sink₁, hwrite, hroom, hcontents⟩ := Sink.write_of_unlimited h bytes
      obtain ⟨sink₁', hwrite', hroom', hcontents'⟩ := Sink.write_of_unlimited h' bytes
      obtain ⟨out, hout, hout', hresult⟩ := ih tally hroom hroom'
      simp only [hwrite, hwrite']
      refine ⟨bytes ++ out, ?_, ?_, hresult⟩
      · rw [hout, hcontents, List.append_assoc]
      · rw [hout', hcontents', List.append_assoc]

/-! ## Runs over pieces -/

/-- A run goes on behind some lines as those have left it. -/
theorem renumberLines_append_eq (raws raws' : List (List UInt8)) (tally : Tally) (sink : Sink) :
    renumberLines s resolver tally sink (raws ++ raws') =
      match renumberLines s resolver tally sink raws with
      | (sink, .error e) => (sink, .error e)
      | (sink, .ok tally) => renumberLines s resolver tally sink raws' := by
  induction raws generalizing tally sink with
  | nil => rfl
  | cons raw rest ih =>
    rw [List.cons_append, renumberLines, renumberLines]
    cases renumberRaw s resolver tally raw with
    | error e => rfl
    | ok step =>
      obtain ⟨tally', bytes⟩ := step
      rcases hwrite : sink.write bytes with ⟨sink', _ | _⟩
      · simp only [hwrite]
      · simp only [hwrite]
        exact ih tally' sink'

theorem lines_of_renumberRaw {t u : Tally} {raw bytes : List UInt8}
    (h : renumberRaw s resolver u raw = .ok (t, bytes)) : t.lines = u.lines + 1 := by
  unfold renumberRaw at h
  cases htext : Text.ofBytes? raw with
  | none => simp [htext] at h
  | some text =>
    simp only [htext] at h
    cases hline : renumberLine s resolver (u.lines + 1) (splitEnding text.toList).1 with
    | error e => simp [hline] at h
    | ok change =>
      obtain ⟨rfl, -⟩ : u.countLine change = t ∧ _ := by simpa [hline] using h
      exact u.countLine_lines change

theorem lines_of_renumberLines (raws : List (List UInt8)) {t u : Tally} {sink : Sink}
    (h : (renumberLines s resolver u sink raws).2 = .ok t) : t.lines = u.lines + raws.length := by
  induction raws generalizing u sink with
  | nil =>
    cases h
    rfl
  | cons raw rest ih =>
    rw [renumberLines] at h
    cases hraw : renumberRaw s resolver u raw with
    | error e =>
      rw [hraw] at h
      cases h
    | ok step =>
      obtain ⟨tally, bytes⟩ := step
      rw [hraw] at h
      rcases hwrite : sink.write bytes with ⟨sink', _ | _⟩
      · simp [hwrite] at h
      · simp only [hwrite] at h
        rw [ih h, lines_of_renumberRaw hraw, List.length_cons]
        omega

theorem room_of_renumberLines (s : Settings) (resolver : Resolver) (raws : List (List UInt8))
    (tally : Tally) {sink : Sink} (h : sink.room = none) :
    (renumberLines s resolver tally sink raws).1.room = none := by
  induction raws generalizing tally sink with
  | nil => exact h
  | cons raw rest ih =>
    rw [renumberLines]
    cases renumberRaw s resolver tally raw with
    | error e => exact h
    | ok step =>
      obtain ⟨tally', bytes⟩ := step
      obtain ⟨sink', hwrite, hroom, -⟩ := Sink.write_of_unlimited h bytes
      simp only [hwrite]
      exact ih tally' hroom

/-- A run over two pieces is one over the first and then one over the second without the banner. -/
theorem renumber_append_pieces (s : Settings) (resolver : Resolver) {a : List UInt8}
    (ha : AlignedToLines a) (b : List UInt8) :
    (∀ e, (renumber s resolver a {}).2 = .error e →
      renumber s resolver (a ++ b) {} = renumber s resolver a {}) ∧
    ∀ t, (renumber s resolver a {}).2 = .ok t → t.lines = (splitLines a).length ∧
      ∃ out,
        (renumber s resolver b {}).1.contents = encode (banner s) ++ out ∧
        (renumber s resolver (a ++ b) {}).1.contents =
          (renumber s resolver a {}).1.contents ++ out ∧
        (renumber s resolver (a ++ b) {}).2 =
          match (renumber s resolver b {}).2 with
          | .error e => .error (e.fartherDown t.lines)
          | .ok u => .ok (t + u) := by
  have hempty : ({} : Sink).room = none := rfl
  obtain ⟨sink, hwrite, hroom, hcontents⟩ := Sink.write_of_unlimited hempty (encode (banner s))
  have hrun (input : List UInt8) : renumber s resolver input {} =
      renumberLines s resolver {} sink (splitLines input) := by
    unfold renumber
    rw [hwrite]
  have hsplit : splitLines (a ++ b) = splitLines a ++ splitLines b := by
    rw [splitLines_eq_cutAfter, splitLines_eq_cutAfter, splitLines_eq_cutAfter, ha.cutAfter_append]
  rw [hrun, hrun, hrun, hsplit, renumberLines_append_eq]
  rcases hfirst : renumberLines s resolver {} sink (splitLines a) with ⟨sink', e' | t'⟩
  · exact ⟨fun _ _ => rfl, nofun⟩
  refine ⟨nofun, fun t h => ?_⟩
  obtain rfl : t' = t := Except.ok.inj h
  have hlines : t'.lines = 0 + (splitLines a).length :=
    lines_of_renumberLines (splitLines a) (congrArg Prod.snd hfirst)
  have hroom' : sink'.room = none := by
    have := room_of_renumberLines s resolver (splitLines a) {} hroom
    rwa [hfirst] at this
  obtain ⟨out, hout, hout', hresult⟩ :=
    renumberLines_behind s resolver (splitLines b) t' {} hroom hroom'
  have hzero : t' + ({} : Tally) = t' := add_zero t'
  rw [hzero] at hout' hresult
  exact ⟨by omega, out, by rw [hout, hcontents]; rfl, hout', hresult⟩

theorem renumber_append_ok_iff {a : List UInt8} (ha : AlignedToLines a) (b : List UInt8)
    (total : Tally) :
    (renumber s resolver (a ++ b) {}).2 = .ok total ↔
      ∃ t u, (renumber s resolver a {}).2 = .ok t ∧ (renumber s resolver b {}).2 = .ok u ∧
        total = t + u := by
  obtain ⟨hfailed, hdone⟩ := renumber_append_pieces s resolver ha b
  cases hfirst : (renumber s resolver a {}).2 with
  | error e =>
    rw [hfailed e hfirst, hfirst]
    simp
  | ok t =>
    obtain ⟨-, out, -, -, hresult⟩ := hdone t hfirst
    rw [hresult]
    cases (renumber s resolver b {}).2 with
    | error e => simp
    | ok u => simp [eq_comm]

/-- Pieces of which all but the last are aligned to lines are carried over if all of them together
are, and what they count adds up to the same. -/
theorem renumber_flatten_ok_iff (pieces : List (List UInt8))
    (h : ∀ piece ∈ pieces.dropLast, AlignedToLines piece) (total : Tally) :
    (renumber s resolver pieces.flatten {}).2 = .ok total ↔
      ∃ tallies, List.Forall₂ (fun piece t => (renumber s resolver piece {}).2 = .ok t) pieces
        tallies ∧ total = tallies.sum := by
  induction pieces generalizing total with
  | nil =>
    have hempty : (renumber s resolver [] {}).2 = .ok 0 := rfl
    rw [List.flatten_nil, hempty]
    simp [eq_comm]
  | cons piece rest ih =>
    by_cases hrest : rest = []
    · subst hrest
      simp [List.forall₂_cons_left_iff]
    · rw [List.dropLast_cons_of_ne_nil hrest] at h
      have hpiece := h piece List.mem_cons_self
      rw [List.flatten_cons, renumber_append_ok_iff hpiece]
      simp only [ih (fun p hp => h p (List.mem_cons_of_mem _ hp)), List.forall₂_cons_left_iff]
      constructor
      · rintro ⟨t, u, ht, ⟨tallies, htallies, rfl⟩, rfl⟩
        exact ⟨t :: tallies, ⟨t, tallies, ht, htallies, rfl⟩, (List.sum_cons).symm⟩
      · rintro ⟨_, ⟨t, tallies, ht, htallies, rfl⟩, rfl⟩
        exact ⟨t, _, ht, ⟨tallies, htallies, rfl⟩, List.sum_cons⟩

end

/-! ## Main theorem -/

/-- What a run over two pieces makes of what a run over each of them makes; and that the tallies of
any pieces merge to the tally of all of them together. -/
theorem renumber_inPieces (s : Settings) (resolver : Resolver) :
    (∀ a b, AlignedToLines a →
      (∀ e, (renumber s resolver a {}).2 = .error e →
        renumber s resolver (a ++ b) {} = renumber s resolver a {}) ∧
      ∀ t, (renumber s resolver a {}).2 = .ok t → t.lines = (splitLines a).length ∧
        ∃ out,
          (renumber s resolver b {}).1.contents = encode (banner s) ++ out ∧
          (renumber s resolver (a ++ b) {}).1.contents =
            (renumber s resolver a {}).1.contents ++ out ∧
          (renumber s resolver (a ++ b) {}).2 =
            match (renumber s resolver b {}).2 with
            | .error e => .error (e.fartherDown t.lines)
            | .ok u => .ok (t + u)) ∧
    ∀ pieces : List (List UInt8), (∀ piece ∈ pieces.dropLast, AlignedToLines piece) →
      (∀ total, (renumber s resolver pieces.flatten {}).2 = .ok total →
        ∃ tallies,
          List.Forall₂ (fun piece t => (renumber s resolver piece {}).2 = .ok t) pieces tallies) ∧
      ∀ tallies,
        List.Forall₂ (fun piece t => (renumber s resolver piece {}).2 = .ok t) pieces tallies →
        ∀ total, Tally.MergesTo tallies total →
          (renumber s resolver pieces.flatten {}).2 = .ok total := by
  refine ⟨fun a b ha => renumber_append_pieces s resolver ha b, fun pieces h => ⟨fun total htotal => ?_, ?_⟩⟩
  · obtain ⟨tallies, htallies, -⟩ := (renumber_flatten_ok_iff pieces h total).1 htotal
    exact ⟨tallies, htallies⟩
  · intro tallies htallies total htotal
    exact (renumber_flatten_ok_iff pieces h total).2 ⟨tallies, htallies, htotal.eq_sum⟩

/-- The second token is asked for, and the only line with a token has no second; without that line the
last piece is merged first. -/
theorem renumber_inPieces_threeLines :
    let s : Settings :=
      { pattern := ⟨#[.char '7'], 0⟩, choice := .index 1, previousLabel := "a", currentLabel := "b" }
    (renumber s (fun _ => .unknownId) (Text.bytesOf "x\n//\n" ++ Text.bytesOf "7") {}).2 =
        .error (.tokenOutOfRange 3 1 1) ∧
      (renumber s (fun _ => .unknownId)
        [Text.bytesOf "x\n", Text.bytesOf "//\n", Text.bytesOf "y"].flatten {}).2 =
        .ok ({ lines := 1 } + ({ lines := 1 } + { lines := 1, dropped := 1 })) := by
  intro s
  obtain ⟨htwo, hall⟩ := renumber_inPieces s (fun _ => .unknownId)
  constructor
  · have hfirst : (renumber s (fun _ => .unknownId) (Text.bytesOf "x\n//\n") {}).2 =
        .ok { lines := 2, dropped := 1 } := by
      cbv
    have hlast : (renumber s (fun _ => .unknownId) (Text.bytesOf "7") {}).2 =
        .error (.tokenOutOfRange 1 1 1) := by
      cbv
    obtain ⟨-, out, -, -, hresult⟩ :=
      (htwo (Text.bytesOf "x\n//\n") (Text.bytesOf "7") (.inr (by decide))).2 _ hfirst
    rw [hresult, hlast]
    rfl
  · have haligned : ∀ piece ∈ [Text.bytesOf "x\n", Text.bytesOf "//\n"], AlignedToLines piece := by
      simp only [List.forall_mem_cons, List.not_mem_nil, false_implies, implies_true, and_true]
      exact ⟨.inr (by decide), .inr (by decide)⟩
    have hkept : (renumber s (fun _ => .unknownId) (Text.bytesOf "x\n") {}).2 =
        .ok { lines := 1 } := by
      cbv
    have hdropped : (renumber s (fun _ => .unknownId) (Text.bytesOf "//\n") {}).2 =
        .ok { lines := 1, dropped := 1 } := by
      cbv
    have hrest : (renumber s (fun _ => .unknownId) (Text.bytesOf "y") {}).2 =
        .ok { lines := 1 } := by
      cbv
    refine (hall [_, _, _] haligned).2 _ (.cons hkept (.cons hdropped (.cons hrest .nil))) _ ?_
    exact @Tally.MergesTo.merge [_] [_, _] _ _ _ (List.perm_append_singleton _ [_, _]) (.single _)
      (@Tally.MergesTo.merge [_] [_] _ _ _ (List.Perm.refl _) (.single _) (.single _))

end Renumber
