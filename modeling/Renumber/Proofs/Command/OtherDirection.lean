import Renumber.Proofs.Command.Alongside
import Renumber.Proofs.Command.Matching
import Renumber.Proofs.Snapshot.Halves

/-!
# Directions on their own

A match of the headers of one direction does not depend on the messages of the other one, also where they
have ids and fingerprints in common (`match_apart_from_otherDirection`).  Two runs of it in worlds that
agree on the rest (`MatchArguments.AgreeOn`) end alike, print the same text, note the same at the level
`info`, and leave the same files but for the snapshots themselves (`MatchArguments.RunsAlike`).
-/

namespace Renumber

open World

/-! ## What is compared -/

/-- There is a snapshot at this path from which a revision can be read. -/
structure World.Holds (w : World) (p : Path) (s : Snapshot) : Prop where
  bytes : ∃ bytes, w.root.read w.here p = .ok bytes ∧ Snapshot.ofBytes? bytes = .ok s
  valid : ∃ r, Revision.ofSnapshot s = .ok r

/-- Two snapshots have the same label, and the same messages of one direction in some order. -/
structure Snapshot.SameHalf (d : Direction) (s t : Snapshot) : Prop where
  label : s.label = t.label
  half : (s.half d).Perm (t.half d)

/-- One of the snapshots that a match reads is at this address. -/
def MatchArguments.SnapshotAt (a : MatchArguments) (w : World) (address : List Name) : Prop :=
  w.LeadsTo a.previous address ∨ w.LeadsTo a.current address

/-- Two worlds in which only the snapshots that a match reads differ, and these only in the messages of
the other direction. -/
structure MatchArguments.AgreeOn (a : MatchArguments) (d : Direction) (w w' : World) : Prop where
  here : w'.here = w.here
  readPattern : w'.readPattern = w.readPattern
  output : w'.output = w.output
  wellFormed : w.root.WellFormed
  wellFormed' : w'.root.WellFormed
  files : Node.Twins (fun address _ _ => a.SnapshotAt w address) w.root w'.root
  previous : ∃ s t, w.Holds a.previous s ∧ w'.Holds a.previous t ∧ s.SameHalf d t
  current : ∃ s t, w.Holds a.current s ∧ w'.Holds a.current t ∧ s.SameHalf d t

/-- A snapshot is at this address, with these contents in the two worlds. -/
def MatchArguments.SnapshotsAt (a : MatchArguments) (w w' : World) (address : List Name)
    (c c' : List UInt8) : Prop :=
  a.SnapshotAt w address ∧ w.root.kind? address = some (.file c) ∧
    w'.root.kind? address = some (.file c')

/-- Two runs of a match end alike, show the same, and leave the same files, but for snapshots that are as
they were. -/
structure MatchArguments.RunsAlike (a : MatchArguments) (w w' : World)
    (result result' : Exit × World) : Prop where
  exit : result.1 = result'.1
  stdout : result.2.stdout = result'.2.stdout
  shown : result.2.shown = result'.2.shown
  files : Node.Twins (a.SnapshotsAt w w') result.2.root result'.2.root

/-! ## What a match does with its snapshots -/

/-- The revisions that are read from two snapshots have the same label, and the same messages of one
direction. -/
structure Revision.SameCatalog (d : Direction) (r q : Revision) : Prop where
  label : r.label = q.label
  catalog : r.catalog d = q.catalog d

theorem World.Holds.exists_reads {w : World} {p : Path} {s : Snapshot} (h : w.Holds p s) :
    ∃ r, w.Reads p r ∧ Revision.ofSnapshot s = .ok r := by
  obtain ⟨⟨bytes, hread, hs⟩, r, hr⟩ := h
  refine ⟨r, ⟨bytes, hread, ?_⟩, hr⟩
  unfold Revision.ofBytes
  rw [hs]
  exact hr

theorem World.Holds.exists_sameCatalog {w w' : World} {p : Path} {s t : Snapshot} {d : Direction}
    (h : w.Holds p s) (h' : w'.Holds p t) (hsame : s.SameHalf d t) :
    ∃ r q, w.Reads p r ∧ w'.Reads p q ∧ r.SameCatalog d q := by
  obtain ⟨r, hreads, hr⟩ := h.exists_reads
  obtain ⟨q, hreads', hq⟩ := h'.exists_reads
  refine ⟨r, q, hreads, hreads', ?_, Revision.catalog_eq_of_half_perm hr hq hsame.half⟩
  rw [(Revision.ofSnapshot_eq_ok_iff.1 hr).1, (Revision.ofSnapshot_eq_ok_iff.1 hq).1, hsame.label]

/-- What is left of a match when its snapshots have been read. -/
def MatchArguments.carryAll (verbosity : Nat) (a : MatchArguments) (previous current : Revision) :
    Action (StateM World) Unit := do
  let pattern ← demand "Invalid identifier pattern" Cause.error (← Host.readPattern a.pattern)
  note verbosity .info s!"Matching {previous.label} -> {current.label}"
  Direction.all.forM
    (carryDirection verbosity a (a.settings pattern previous current) previous current)

theorem matchCommand_eq_carryAll (verbosity : Nat) (a : MatchArguments) :
    (matchCommand verbosity a : Action (StateM World) Unit) = (do
      let previous ← revisionAt verbosity a.previous
      let current ← revisionAt verbosity a.current
      a.carryAll verbosity previous current) := by
  rw [matchCommand_eq]
  unfold MatchArguments.load MatchArguments.carryAll
  simp only [bind_assoc, pure_bind]

/-- Reading the snapshots shows no more than details. -/
theorem perform_matchCommand_of_reads (verbosity : Nat) {a : MatchArguments} {w : World}
    {previous current : Revision} (hprevious : w.Reads a.previous previous)
    (hcurrent : w.Reads a.current current) :
    ∃ details, (∀ item ∈ details, item.IsDetail verbosity) ∧
      perform (matchCommand verbosity a) w =
        perform (a.carryAll verbosity previous current) { w with output := details ++ w.output } := by
  obtain ⟨first, hfirst, hperform⟩ := perform_revisionAt_of_reads verbosity hprevious
  have hsame : SameFiles w { w with output := first ++ w.output } := ⟨rfl, rfl⟩
  obtain ⟨second, hsecond, hperform'⟩ :=
    perform_revisionAt_of_reads verbosity (hsame.reads_iff.2 hcurrent)
  refine ⟨second ++ first, List.forall_mem_append.2 ⟨hsecond, hfirst⟩, ?_⟩
  rw [matchCommand_eq_carryAll, perform_bind_ok hperform, perform_bind_ok hperform', List.append_assoc]

section

variable {a : MatchArguments} {d : Direction} {input : Path} (hinput : a.headers d = some input)
  (hother : ∀ other, other ≠ d → a.headers other = none)

include hinput hother

/-- Only the headers of one direction are carried over. -/
theorem forM_carryDirection (verbosity : Nat) (s : Settings) (previous current : Revision) :
    Direction.all.forM (carryDirection verbosity a s previous current) =
      renumberHeaders verbosity a s previous current d input := by
  have hcarry : carryDirection verbosity a s previous current d =
      renumberHeaders verbosity a s previous current d input := by
    unfold carryDirection
    rw [hinput, Option.elim_some]
  have hskip : ∀ other, other ≠ d →
      carryDirection verbosity a s previous current other = pure () := by
    intro other hne
    unfold carryDirection
    rw [hother other hne, Option.elim_none]
  change (carryDirection verbosity a s previous current .outgoing >>= fun _ =>
    carryDirection verbosity a s previous current .incoming >>= fun _ => pure ()) = _
  cases d with
  | outgoing => rw [hcarry, hskip .incoming nofun, pure_bind, bind_pure_unit]
  | incoming => rw [hcarry, hskip .outgoing nofun, pure_bind, bind_pure_unit]

theorem carryAll_congr (verbosity : Nat) {previous current previous' current' : Revision}
    (hprevious : previous.SameCatalog d previous') (hcurrent : current.SameCatalog d current') :
    a.carryAll verbosity previous current = a.carryAll verbosity previous' current' := by
  unfold MatchArguments.carryAll MatchArguments.settings
  simp only [forM_carryDirection hinput hother]
  unfold renumberHeaders
  rw [hprevious.label, hprevious.catalog, hcurrent.label, hcurrent.catalog]

/-- Headers are carried over if the pattern is well-formed, after a note. -/
theorem perform_carryAll (verbosity : Nat) (previous current : Revision)
    (read : Except Error Pattern) :
    (∃ f, ∀ w : World, w.readPattern a.pattern = read →
      perform (a.carryAll verbosity previous current) w = (.error f, w)) ∨
    ∃ s items, ∀ w : World, w.readPattern a.pattern = read →
      perform (a.carryAll verbosity previous current) w =
        perform (renumberHeaders verbosity a s previous current d input)
          { w with output := items ++ w.output } := by
  unfold MatchArguments.carryAll
  simp only [forM_carryDirection hinput hother]
  cases read with
  | error e =>
    refine .inl ⟨⟨"Invalid identifier pattern", some (.error e)⟩, fun w hread => ?_⟩
    rw [perform_bind_ok (perform_readPattern a.pattern w), hread]
    rfl
  | ok pattern =>
    refine .inr ⟨a.settings pattern previous current, ?_⟩
    by_cases htaken : NoteLevel.info.verbosity ≤ verbosity
    · refine ⟨[.noted .info (Text.escaped s!"Matching {previous.label} -> {current.label}")],
        fun w hread => ?_⟩
      rw [perform_bind_ok (perform_readPattern a.pattern w), hread, note, if_pos htaken]
      rfl
    · refine ⟨[], fun w hread => ?_⟩
      rw [perform_bind_ok (perform_readPattern a.pattern w), hread, note, if_neg htaken]
      rfl

end

/-! ## Two runs -/

theorem World.shown_of_details {verbosity : Nat} {w : World} {shown details earlier : List Output}
    (hdetails : ∀ item ∈ details, item.IsDetail verbosity)
    (h : w.output = shown ++ (details ++ earlier)) :
    w.shown = ((shown ++ earlier).filter Output.isGeneral).reverse := by
  unfold World.shown
  rw [h, List.filter_reverse, List.filter_append, List.filter_append, filter_details hdetails,
    List.nil_append, List.filter_append]

/-- Worlds that agree come alongside each other. -/
theorem MatchArguments.AgreeOn.alongside {a : MatchArguments} {d : Direction} {w w' : World}
    (h : a.AgreeOn d w w') (earlier earlier' items : List Output) :
    let start : World := { w with output := items ++ earlier }
    Alongside (a.SnapshotsAt w w') start earlier earlier' start
      { w' with output := items ++ earlier' } where
  twins address := (h.files address).imp_right fun ⟨c, c', hat, hc, hc'⟩ =>
    ⟨c, c', ⟨hat, hc, hc'⟩, hc, hc'⟩
  here := h.here
  output := ⟨items, rfl, rfl⟩
  becomes := refl_of _ _
  wellFormed := h.wellFormed
  wellFormed' := h.wellFormed'

section

variable {a : MatchArguments} {d : Direction} {input : Path} (hinput : a.headers d = some input)
  (hother : ∀ other, other ≠ d → a.headers other = none)

include hinput hother

/-- The snapshots are read in both worlds, and from then on everything goes alike. -/
theorem alongside_matchCommand (verbosity : Nat) (hnil : input.segments ≠ []) {w w' : World}
    (h : a.AgreeOn d w w')
    (hspare : ∀ x y, w.LeadsTo input x → a.SnapshotAt w y → ¬ x <+: y) :
    ∃ start details details', (∀ item ∈ details ++ details', item.IsDetail verbosity) ∧
      (perform (matchCommand verbosity a) w).1 = (perform (matchCommand verbosity a) w').1 ∧
      Alongside (a.SnapshotsAt w w') start (details ++ w.output) (details' ++ w'.output)
        (perform (matchCommand verbosity a) w).2 (perform (matchCommand verbosity a) w').2 := by
  obtain ⟨s, t, hs, ht, hsame⟩ := h.previous
  obtain ⟨previous, previous', hreads, hreads', hprevious⟩ := hs.exists_sameCatalog ht hsame
  obtain ⟨s, t, hs, ht, hsame⟩ := h.current
  obtain ⟨current, current', hreads₁, hreads₁', hcurrent⟩ := hs.exists_sameCatalog ht hsame
  obtain ⟨details, hdetails, hmatch⟩ := perform_matchCommand_of_reads verbosity hreads hreads₁
  obtain ⟨details', hdetails', hmatch'⟩ := perform_matchCommand_of_reads verbosity hreads' hreads₁'
  rw [← carryAll_congr hinput hother verbosity hprevious hcurrent] at hmatch'
  rw [hmatch, hmatch']
  have hall := List.forall_mem_append.2 ⟨hdetails, hdetails'⟩
  have hread : w'.readPattern a.pattern = w.readPattern a.pattern := by rw [h.readPattern]
  obtain ⟨f, hfails⟩ | ⟨settings, items, hcarries⟩ :=
    perform_carryAll hinput hother verbosity previous current (w.readPattern a.pattern)
  · rw [hfails { w with output := details ++ w.output } rfl,
      hfails { w' with output := details' ++ w'.output } hread]
    exact ⟨_, _, _, hall, rfl, h.alongside _ _ []⟩
  · rw [hcarries { w with output := details ++ w.output } rfl,
      hcarries { w' with output := details' ++ w'.output } hread]
    exact ⟨_, _, _, hall, alongside_renumberHeaders verbosity a settings previous current d hnil
      (h.alongside _ _ items) fun x hx y c c' hy => hspare x y hx hy.1⟩

end

/-! ## Main theorem -/

/-- A match of the headers of one direction, in two worlds in which only the snapshots differ, and these
only in the messages of the other direction: if no snapshot is where the headers are or below, the runs are
alike.  Whatever messages there are of one direction, the other may have any: the messages of two snapshots
make up one together, also if they have ids in common. -/
theorem match_apart_from_otherDirection :
    (∀ (verbosity : Nat) (a : MatchArguments) (d : Direction) (input : Path),
      a.headers d = some input → (∀ other, other ≠ d → a.headers other = none) →
      input.segments ≠ [] →
      ∀ w w' : World, a.AgreeOn d w w' →
      (∀ x y, w.LeadsTo input x → a.SnapshotAt w y → ¬ x <+: y) →
      a.RunsAlike w w' ((runRequest (.run verbosity (.carry a)) : StateM World Exit).run w)
        ((runRequest (.run verbosity (.carry a)) : StateM World Exit).run w')) ∧
    ∀ (s t : Snapshot) (r q : Revision), Revision.ofSnapshot s = .ok r →
      Revision.ofSnapshot t = .ok q →
      Revision.ofSnapshot (s.withIncoming t) = .ok (r.withIncoming q) := by
  refine ⟨?_, fun s t r q => Revision.ofSnapshot_withIncoming⟩
  intro verbosity a d input hinput hother hnil w w' h hspare
  obtain ⟨start, details, details', hdetails, houtcome, hafter⟩ :=
    alongside_matchCommand hinput hother verbosity hnil h hspare
  rw [runRequest_run_match, runRequest_run_match, houtcome]
  obtain ⟨hfirst, hsecond⟩ := List.forall_mem_append.1 hdetails
  obtain ⟨shown, houtput, houtput'⟩ := hafter.output
  have hshown : (perform (matchCommand verbosity a) w).2.shown =
      (perform (matchCommand verbosity a) w').2.shown := by
    rw [shown_of_details hfirst houtput, shown_of_details hsecond houtput', h.output]
  exact {
    exit := rfl
    stdout := by
      dsimp only
      rw [stdout_eq_join_shown, hshown, ← stdout_eq_join_shown]
    shown := hshown
    files := hafter.twins }

/-- A header, and the snapshots of two builds. -/
def besideHeader (older : List UInt8) : Node :=
  .directory
    [("h", .file [55, 10]),
      ("new", .file [10, 2, 118, 50, 18, 9, 8, 8, 18, 1, 102, 24, 1, 32, 1]),
      ("old", .file older)]

/-- The snapshot of a build with one outgoing message. -/
def plainBuild : List UInt8 := [10, 2, 118, 49, 18, 9, 8, 7, 18, 1, 102, 24, 1, 32, 1]

/-- The same with an incoming message that has the id and the fingerprint of the outgoing one. -/
def sharingBuild : List UInt8 := plainBuild ++ [18, 9, 8, 7, 18, 1, 102, 24, 2, 32, 1]

def sharedEntry (id : MessageId) (d : Direction) : SnapshotEntry :=
  { id, fingerprint := "f", direction := d.number, references := 1 }

theorem wellFormed_besideHeader (older : List UInt8) : (besideHeader older).WellFormed := by
  have hnames : (["h", "new", "old"] : List Name).Nodup ∧
      ∀ name ∈ (["h", "new", "old"] : List Name), IsName name := by decide
  exact Node.wellFormed_directory hnames (by simp)

theorem headers_twoHeaders :
    ∀ other, other ≠ Direction.outgoing → twoHeadersArguments.headers other = none
  | .outgoing, hne => absurd rfl hne
  | .incoming, _ => rfl

section

variable (older : List UInt8)

theorem leadsTo_besideHeader :
    ({ root := besideHeader older } : World).LeadsTo (.ofText "h") ["h"] := by cbv

theorem leadsTo_old : ({ root := besideHeader older } : World).LeadsTo (.ofText "old") ["old"] := by cbv

theorem leadsTo_new : ({ root := besideHeader older } : World).LeadsTo (.ofText "new") ["new"] := by cbv

/-- The snapshots are beside the header. -/
theorem beside_of_snapshotAt {x y : List Name}
    (hx : ({ root := besideHeader older } : World).LeadsTo (.ofText "h") x)
    (hy : twoHeadersArguments.SnapshotAt { root := besideHeader older } y) : ¬ x <+: y := by
  obtain rfl := hx.eq (leadsTo_besideHeader older)
  obtain hy | hy := hy
  · obtain rfl := hy.eq (leadsTo_old older)
    decide
  · obtain rfl := hy.eq (leadsTo_new older)
    decide

theorem twins_besideHeader (other : List UInt8) :
    Node.Twins (fun address _ _ => twoHeadersArguments.SnapshotAt { root := besideHeader older } address)
      (besideHeader older) (besideHeader other) := by
  intro address
  have hput : besideHeader other =
      (besideHeader older).put (.file other) ([] ++ [Name.ofText "old"]) := by
    have hheader : Name.ofText "h" ≠ Name.ofText "old" := by decide
    have hnewer : Name.ofText "new" ≠ Name.ofText "old" := by decide
    unfold besideHeader
    rw [List.nil_append, Node.put_singleton]
    simp [Node.setEntry, hheader, hnewer]
  have hfile : (besideHeader older).kind? ["old"] = some (.file older) := by cbv
  have hfree : (besideHeader older).kind? ([] ++ [Name.ofText "old"]) ≠ some .directory := by
    rw [List.nil_append, hfile]
    simp
  rw [hput, Node.kind?_put rfl rfl hfree, List.nil_append]
  split
  · rename_i heq
    subst heq
    exact .inr ⟨older, other, .inl (leadsTo_old older), hfile, rfl⟩
  · exact .inl rfl

theorem holds_new : ({ root := besideHeader older } : World).Holds (.ofText "new")
    ⟨"v2", [sharedEntry 8 .outgoing]⟩ :=
  ⟨⟨[10, 2, 118, 50, 18, 9, 8, 8, 18, 1, 102, 24, 1, 32, 1], by cbv, by cbv⟩, _, rfl⟩

end

theorem agreeOn_besideHeader : twoHeadersArguments.AgreeOn .outgoing
    { root := besideHeader plainBuild } { root := besideHeader sharingBuild } where
  here := rfl
  readPattern := rfl
  output := rfl
  wellFormed := wellFormed_besideHeader plainBuild
  wellFormed' := wellFormed_besideHeader sharingBuild
  files := twins_besideHeader plainBuild sharingBuild
  previous := ⟨⟨"v1", [sharedEntry 7 .outgoing]⟩,
    ⟨"v1", [sharedEntry 7 .outgoing, sharedEntry 7 .incoming]⟩,
    ⟨⟨plainBuild, by cbv, by cbv⟩, _, rfl⟩, ⟨⟨sharingBuild, by cbv, by cbv⟩, _, rfl⟩, rfl, by decide⟩
  current := ⟨_, _, holds_new plainBuild, holds_new sharingBuild, rfl, .rfl⟩

/-- The two runs of a match are alike, where the older build has an incoming message with the id of the
outgoing one and where it has none. -/
theorem match_apart_from_otherDirection_sharedId :
    let w : World := { root := besideHeader plainBuild }
    let w' : World := { root := besideHeader sharingBuild }
    let s : Snapshot := ⟨"v1", [sharedEntry 7 .outgoing]⟩
    let t : Snapshot := ⟨"v1", [sharedEntry 7 .outgoing, sharedEntry 7 .incoming]⟩
    let run : StateM World Exit := runRequest (.run 2 (.carry twoHeadersArguments))
    twoHeadersArguments.RunsAlike w w' (run.run w) (run.run w') ∧
      s.withIncoming t = t ∧ ∃ r, Revision.ofSnapshot (s.withIncoming t) = .ok r := by
  intro w w' s t run
  obtain ⟨halike, hhalves⟩ := match_apart_from_otherDirection
  have hsegments := segments_ne_nil_of_ofWords? ofWords?_twoHeaders (d := .outgoing) rfl
  exact ⟨halike 2 twoHeadersArguments .outgoing (.ofText "h") rfl headers_twoHeaders hsegments w w'
    agreeOn_besideHeader fun x y => beside_of_snapshotAt plainBuild, by decide, _, hhalves s t _ _ rfl rfl⟩

end Renumber
