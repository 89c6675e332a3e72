import Renumber.Proofs.Command.Overwriting
import Renumber.Proofs.Command.Transfer
import Renumber.Proofs.Text.Numeral

/-!
# The effect of a match

A match that cannot load what it needs fails, and changes nothing.  One that can makes its attempts
(`match_fails_or_makesAttempts`), and does what they do (`Transfer.Effect`): without `--force`, each output
that was written is one that was not there before and stays as it was written; nothing else changes, but
for directories that are made; and an entry is printed for each header that was carried over, in order.

The path of the output stands in an entry as it is.  So an entry is one line, unless there is a line feed
in a name (`match_printsTwoLines`).
-/

namespace Renumber

open World

theorem World.KeepsFiles.read_eq {w w' : World} (h : KeepsFiles w w') {P : List Name → Prop}
    (hbecomes : Becomes P w w') {p : Path} {contents : List UInt8}
    (hread : w.root.read w.here p = .ok contents) : w'.root.read w'.here p = .ok contents := by
  obtain ⟨a, ha, hfind⟩ := Node.read_eq_ok_iff.1 hread
  exact Node.read_eq_ok_iff.2 ⟨a, hbecomes.leadsTo ha, h a contents hfind⟩

namespace Transfer

/-- What a match without `--force` does, from one world to another. -/
structure Effect (t : Transfer) (w : World) (attempts : List Attempt) (failure : Option Failure)
    (w' : World) : Prop where
  rounds : ∃ w₀, Shows (infoNote t.verbosity s!"Matching {t.previous.label} -> {t.current.label}") w w₀ ∧
    t.Rounds Direction.all w₀ attempts failure w'
  /-- How each attempt ended. -/
  carriage : ∀ x ∈ attempts, Carriage t.settings (t.resolver x.direction) x.source x.destination
    x.before (t.after x) (t.outcome x)
  /-- An attempt that fails is the last. -/
  halts : ∀ done x rest f, attempts = done ++ x :: rest → t.outcome x = .error f →
    rest = [] ∧ failure = some f
  /-- An entry is printed for each attempt that was completed, in order, with a line feed behind it. -/
  stdout_eq : w'.stdout =
    w.stdout ++ String.join ((attempts.filterMap t.printed?).map (· ++ "\n"))
  /-- An entry ends in what was counted. -/
  printed?_eq : ∀ x ∈ attempts, ∀ tally, t.outcome x = .ok tally → t.printed? x =
    some s!"{x.direction.title} {x.destination.text}: Matches: {tally.matched}/{tally.tried}"
  /-- An entry is one line if the path of the output is. -/
  entry_isLine : ∀ x ∈ attempts, ∀ entry, t.printed? x = some entry →
    '\n' ∉ x.destination.text.toList → '\n' ∉ entry.toList
  /-- What an attempt has delivered was not there before, and is there at the end, like the input. -/
  delivered : ∀ x ∈ attempts, ∀ input contents address,
    Delivers x.source x.destination input contents address x.before (t.after x) →
    w.node? x.destination = none ∧ w.root.find? address = none ∧
    w'.LeadsTo x.destination address ∧ w'.root.find? address = some (.file contents) ∧
    w'.root.read w'.here x.source = .ok input
  frame : Becomes (fun address => ∃ x ∈ attempts, ∃ input contents,
    Delivers x.source x.destination input contents address x.before (t.after x)) w w'

/-! ## Lemmas -/

variable {t : Transfer}

/-- An attempt whose output ends in a name and whose header is found. -/
structure Proper (x : Attempt) : Prop where
  settled : x.before.Settled x.source
  isNamed : x.destination.IsNamed

theorem Proper.carriage {x : Attempt} (hx : Proper x) (hforce : t.arguments.force = false) :
    Carriage t.settings (t.resolver x.direction) x.source x.destination x.before (t.after x)
      (t.outcome x) ∧ SameOutput x.before (t.after x) := by
  have hperform : perform (renumberFile t.settings (t.resolver x.direction) false x.source
      x.destination) x.before = (t.outcome x, t.after x) := by
    rw [← hforce]
    rfl
  exact carriage_of_renumberFile hx.isNamed hx.settled hperform

theorem Pairs.history (hforce : t.arguments.force = false) {d : Direction} {w w' : World}
    {pairs : List (Path × Path)} {attempts : List Attempt} {failure : Option Failure}
    (h : t.Pairs d w pairs attempts failure w')
    (hpairs : ∀ pair ∈ pairs, w.Settled pair.1 ∧ pair.2.IsNamed) :
    History false w (attempts.map t.stage) failure w' ∧ ∀ x ∈ attempts, Proper x := by
  induction h with
  | nil w => exact ⟨.nil none (refl_of _ w), fun x hx => absurd hx List.not_mem_nil⟩
  | @next w w₁ w' x tally rest attempts failure hdirection hstart hok hprint hrest ih =>
    obtain ⟨hsettled, hnamed⟩ := hpairs _ List.mem_cons_self
    have hbecomes := (t.stage x).becomes hnamed
    obtain ⟨hhistory, hproper⟩ := ih fun pair hpair => by
      obtain ⟨hsettled, hnamed⟩ := hpairs pair (List.mem_cons_of_mem _ hpair)
      have hafter := (hsettled.of_sameFiles hstart.sameFiles).of_becomes hbecomes
      exact ⟨hafter.of_sameFiles hprint.sameFiles, hnamed⟩
    have hfailure : (t.stage x).failure? = none := congrArg failureOf? hok
    refine ⟨.next hnamed hforce hstart.sameFiles hfailure (hhistory.of_sameFiles hprint.sameFiles), ?_⟩
    intro y hy
    obtain rfl | hy := List.mem_cons.1 hy
    · exact ⟨hsettled.of_sameFiles hstart.sameFiles, hnamed⟩
    · exact hproper y hy
  | @halt w x f rest hdirection hstart herror =>
    obtain ⟨hsettled, hnamed⟩ := hpairs _ List.mem_cons_self
    have hfailure : (t.stage x).failure? = some f := congrArg failureOf? herror
    refine ⟨.halt hnamed hforce hstart.sameFiles hfailure (refl_of _ _), fun y hy => ?_⟩
    obtain rfl := List.mem_singleton.1 hy
    exact ⟨hsettled.of_sameFiles hstart.sameFiles, hnamed⟩

/-- The headers that a path stands for are attempted. -/
theorem Pairs.history_of_found (hforce : t.arguments.force = false) {d : Direction}
    {w w₁ w' : World} {input : Path} {pairs : List (Path × Path)} {notes : List Output}
    {attempts : List Attempt} {failure : Option Failure} (hw : w.root.WellFormed)
    (hfound : StandsFor t.verbosity w input t.arguments.output pairs notes)
    (hnotes : Shows notes w w₁) (hpairs : t.Pairs d w₁ pairs attempts failure w') :
    History false w (attempts.map t.stage) failure w' ∧ ∀ x ∈ attempts, Proper x := by
  obtain ⟨hhistory, hproper⟩ := hpairs.history hforce fun pair hpair => by
    obtain ⟨hsettled, hnamed⟩ := hfound.settled_and_isNamed hw pair hpair
    exact ⟨hsettled.of_sameFiles hnotes.sameFiles, hnamed⟩
  exact ⟨hhistory.of_sameFiles hnotes.sameFiles, hproper⟩

theorem Rounds.history (hforce : t.arguments.force = false) {directions : List Direction}
    {w w' : World} {attempts : List Attempt} {failure : Option Failure}
    (h : t.Rounds directions w attempts failure w') (hw : w.root.WellFormed) :
    History false w (attempts.map t.stage) failure w' ∧ ∀ x ∈ attempts, Proper x := by
  induction h with
  | nil w => exact ⟨.nil none (refl_of _ w), fun x hx => absurd hx List.not_mem_nil⟩
  | skip _ _ ih => exact ih hw
  | @lost _ _ w => exact ⟨.nil _ (refl_of _ w), fun x hx => absurd hx List.not_mem_nil⟩
  | next _ hfound hnotes hpairs _ hnote _ ih =>
    obtain ⟨hfirst, hproper⟩ := hpairs.history_of_found hforce hw hfound hnotes
    have hw₃ := (hnote.sameFiles.becomes fun _ => False).wellFormed (hfirst.becomes.wellFormed hw)
    obtain ⟨hrest, hproper'⟩ := ih hw₃
    rw [List.map_append]
    refine ⟨hfirst.append (hrest.of_sameFiles hnote.sameFiles), fun x hx => ?_⟩
    exact (List.mem_append.1 hx).elim (hproper x) (hproper' x)
  | halt _ _ hfound hnotes hpairs => exact hpairs.history_of_found hforce hw hfound hnotes

/-! ### What is printed -/

theorem printed?_of_outcome {x : Attempt} {tally : Tally} (hok : t.outcome x = .ok tally) :
    t.printed? x = some (x.entry tally) := by
  rw [printed?, tally?, hok]
  rfl

/-- An entry is printed for each attempt that is completed. -/
theorem Pairs.stdout_eq {d : Direction} {w w' : World} {pairs : List (Path × Path)}
    {attempts : List Attempt} {failure : Option Failure}
    (h : t.Pairs d w pairs attempts failure w')
    (hquiet : ∀ x ∈ attempts, SameOutput x.before (t.after x)) :
    w'.stdout = w.stdout ++ String.join ((attempts.filterMap t.printed?).map (· ++ "\n")) := by
  induction h with
  | nil w => exact String.append_empty.symm
  | @next w w₁ w' x tally rest attempts failure _ hstart hok hprint _ ih =>
    have hentry := printed?_of_outcome hok
    have hfirst : w₁.stdout = w.stdout ++ (x.entry tally ++ "\n") := by
      rw [hprint.stdout_eq, stdout_of_sameOutput (hquiet x List.mem_cons_self),
        stdout_of_quiet hstart rfl]
      rw [List.map_singleton, String.join_cons, String.join_nil, String.append_empty, Output.text]
    rw [ih fun y hy => hquiet y (List.mem_cons_of_mem _ hy), hfirst,
      List.filterMap_cons_some hentry, List.map_cons, String.join_cons, String.append_assoc]
  | @halt w x f rest _ hstart herror =>
    have hentry : t.printed? x = none := by
      rw [printed?, tally?, herror]
      rfl
    rw [stdout_of_sameOutput (hquiet x List.mem_cons_self), stdout_of_quiet hstart rfl,
      List.filterMap_cons_none hentry, List.filterMap_nil]
    exact String.append_empty.symm

theorem Rounds.stdout_eq {directions : List Direction} {w w' : World}
    {attempts : List Attempt} {failure : Option Failure}
    (h : t.Rounds directions w attempts failure w')
    (hquiet : ∀ x ∈ attempts, SameOutput x.before (t.after x)) :
    w'.stdout = w.stdout ++ String.join ((attempts.filterMap t.printed?).map (· ++ "\n")) := by
  induction h with
  | nil w => exact String.append_empty.symm
  | skip _ _ ih => exact ih hquiet
  | lost => exact String.append_empty.symm
  | next _ hfound hnotes hpairs _ hnote _ ih =>
    rw [ih fun x hx => hquiet x (List.mem_append_right _ hx),
      stdout_of_quiet hnote (join_infoNote _ _),
      hpairs.stdout_eq fun x hx => hquiet x (List.mem_append_left _ hx),
      stdout_of_quiet hnotes hfound.join_notes, List.filterMap_append, List.map_append,
      String.join_append, String.append_assoc]
  | halt _ _ hfound hnotes hpairs =>
    rw [hpairs.stdout_eq hquiet, stdout_of_quiet hnotes hfound.join_notes]

theorem entry_eq (x : Attempt) (tally : Tally) : x.entry tally =
    s!"{x.direction.title} {x.destination.text}: Matches: {tally.matched}/{tally.tried}" := by
  unfold Attempt.entry Tally.text
  simp only [toString, String.append_assoc]

theorem lineFeed_notMem_entry {x : Attempt} (h : '\n' ∉ x.destination.text.toList) (tally : Tally) :
    '\n' ∉ (x.entry tally).toList := by
  have htitle : '\n' ∉ x.direction.title.toList := by cases x.direction <;> decide
  have hmatches : '\n' ∉ ": Matches: ".toList := by decide
  have hspace : '\n' ∉ " ".toList := by decide
  have hslash : '\n' ∉ "/".toList := by decide
  have hnumber (n : Nat) : '\n' ∉ n.repr.toList := by
    rw [Nat.toList_repr]
    exact Text.lineFeed_notMem_decimal n
  rw [entry_eq]
  simp only [toString, String.toList_append, List.mem_append, not_or]
  exact ⟨⟨⟨⟨⟨⟨htitle, hspace⟩, h⟩, hmatches⟩, hnumber _⟩, hslash⟩, hnumber _⟩

/-! ### What becomes of the files -/

/-- An attempt writes what it delivers, and no other file. -/
theorem becomes_of_carriage {x : Attempt}
    (h : Carriage t.settings (t.resolver x.direction) x.source x.destination x.before (t.after x)
      (t.outcome x)) :
    Becomes (fun address => ∃ input contents,
      Delivers x.source x.destination input contents address x.before (t.after x))
      x.before (t.after x) := by
  generalize t.outcome x = outcome at h
  cases h with
  | completed hrun hdelivers =>
    exact hdelivers.becomes.mono fun _ ha => ⟨_, _, ha ▸ hdelivers⟩
  | broken hrun hdelivers =>
    exact hdelivers.becomes.mono fun _ ha => ⟨_, _, ha ▸ hdelivers⟩
  | refused hreason hbecomes => exact hbecomes.mono fun _ hfalse => hfalse.elim

/-! ### One attempt among others -/

section

variable {w w' : World} {done rest : List Attempt} {x : Attempt} {failure : Option Failure}
  (h : History false w ((done ++ x :: rest).map t.stage) failure w')

include h

theorem rest_eq_nil_of_error {f : Failure} (herror : t.outcome x = .error f) :
    rest = [] ∧ failure = some f := by
  rw [List.map_append, List.map_cons] at h
  obtain ⟨-, -, -, -, hlast⟩ := h.split
  obtain ⟨hnil, hfailure⟩ := hlast f (congrArg failureOf? herror)
  exact ⟨List.map_eq_nil_iff.1 hnil, hfailure⟩

/-- The attempts before it have not written its output, and those after it leave alone what it has
delivered, and its header. -/
theorem delivered_of_history (hx : Proper x) {input contents : List UInt8} {address : List Name}
    (hdelivers : Delivers x.source x.destination input contents address x.before (t.after x)) :
    w.node? x.destination = none ∧ w.root.find? address = none ∧
    w'.LeadsTo x.destination address ∧ w'.root.find? address = some (.file contents) ∧
    w'.root.read w'.here x.source = .ok input := by
  rw [List.map_append, List.map_cons] at h
  obtain ⟨hdone, -, -, hrest, -⟩ := h.split
  have hread := hdelivers.read_after hx.settled
  exact ⟨hdone.becomes.node?_eq_none hdelivers.absent, hdone.becomes.find?_eq_none hdelivers.free,
    hrest.becomes.leadsTo hdelivers.leads, hrest.keepsFiles address contents hdelivers.holds,
    hrest.keepsFiles.read_eq hrest.becomes hread⟩

end

theorem effect_of_rounds (hforce : t.arguments.force = false) {w w₀ w' : World}
    (hw : w.root.WellFormed) {attempts : List Attempt} {failure : Option Failure}
    (hloaded : Shows (infoNote t.verbosity s!"Matching {t.previous.label} -> {t.current.label}") w w₀)
    (h : t.Rounds Direction.all w₀ attempts failure w') : t.Effect w attempts failure w' := by
  have hw₀ := (hloaded.sameFiles.becomes fun _ => False).wellFormed hw
  obtain ⟨hhistory, hproper⟩ := h.history hforce hw₀
  replace hhistory := hhistory.of_sameFiles hloaded.sameFiles
  have hcarriage := fun x hx => ((hproper x hx).carriage hforce).1
  have hquiet := fun x hx => ((hproper x hx).carriage hforce).2
  refine ⟨⟨w₀, hloaded, h⟩, hcarriage, ?_, ?_, ?_, ?_, ?_, ?_⟩
  · rintro done x rest f rfl herror
    exact rest_eq_nil_of_error hhistory herror
  · rw [h.stdout_eq hquiet, stdout_of_quiet hloaded (join_infoNote _ _)]
  · intro x hx tally hok
    rw [printed?_of_outcome hok, entry_eq]
  · intro x hx entry hentry hpath
    obtain ⟨tally, -, rfl⟩ := Option.map_eq_some_iff.1 hentry
    exact lineFeed_notMem_entry hpath tally
  · intro x hx input contents address hdelivers
    obtain ⟨done, rest, rfl⟩ := List.append_of_mem hx
    exact delivered_of_history hhistory (hproper x hx) hdelivers
  · refine hhistory.stays (fun _ _ hsame => hsame.becomes _) fun stage hstage _ _ => ?_
    obtain ⟨x, hx, rfl⟩ := List.mem_map.1 hstage
    refine (becomes_of_carriage (hcarriage x hx)).mono ?_
    rintro address ⟨input, contents, hdelivers⟩
    exact ⟨x, hx, input, contents, hdelivers⟩

end Transfer

/-! ## Main theorem -/

/-- A build with one message. -/
def oneMessage (label : String) (id : MessageId) : Revision where
  label
  outgoing := ⟨.outgoing, [{ id, fingerprint := "f", direction := .outgoing }], by simp, by simp,
    by simp⟩
  incoming := .empty .incoming
  outgoing_direction := rfl
  incoming_direction := rfl

/-- Two headers, the second with a line that is no text, and the snapshots of two builds. -/
def twoHeaders : Node :=
  .directory
    [("h", .directory [("a.h", .file [55, 10]), ("b.h", .file [55, 10, 255, 10])]),
      ("new", .file [10, 2, 118, 50, 18, 9, 8, 8, 18, 1, 102, 24, 1, 32, 1]),
      ("old", .file [10, 2, 118, 49, 18, 9, 8, 7, 18, 1, 102, 24, 1, 32, 1])]

def twoHeadersWords : List String :=
  ["match", "--previous", "old", "--current", "new", "--client-headers", "h", "--pattern", "7",
    "--minimal-comments", "-o", "out"]

def twoHeadersArguments : MatchArguments where
  previous := .ofText "old"
  current := .ofText "new"
  clientHeaders := some (.ofText "h")
  serverHeaders := none
  pattern := "7"
  choice := .last
  bare := true
  asFingerprints := false
  lead := .letter
  output := .ofText "out"
  force := false

theorem wellFormed_twoHeaders : twoHeaders.WellFormed := by
  have hheaders : (Node.directory [("a.h", .file [55, 10]),
      ("b.h", .file [55, 10, 255, 10])]).WellFormed := Node.wellFormed_directory (by decide) (by simp)
  exact Node.wellFormed_directory (by decide) (by simp [hheaders])

theorem ofWords?_twoHeaders :
    Request.ofWords? twoHeadersWords = some (.run 0 (.carry twoHeadersArguments)) := by
  decide +kernel

theorem loads_twoHeaders : twoHeadersArguments.Loads { root := twoHeaders } (oneMessage "v1" 7)
    (oneMessage "v2" 8) ⟨#[.char '7'], 0⟩ where
  previous_reads :=
    ⟨[10, 2, 118, 49, 18, 9, 8, 7, 18, 1, 102, 24, 1, 32, 1], by cbv, by cbv⟩
  current_reads :=
    ⟨[10, 2, 118, 50, 18, 9, 8, 8, 18, 1, 102, 24, 1, 32, 1], by cbv, by cbv⟩
  pattern_eq := by cbv

theorem run_twoHeaders :
    (runRequest (.run 0 (.carry twoHeadersArguments)) : StateM World Exit).run { root := twoHeaders } =
      (.failure ⟨"Failed to patch h/b.h", some (.error (.stream .invalidUtf8))⟩,
        { root := .directory
            [("h", .directory [("a.h", .file [55, 10]), ("b.h", .file [55, 10, 255, 10])]),
              ("new", .file [10, 2, 118, 50, 18, 9, 8, 8, 18, 1, 102, 24, 1, 32, 1]),
              ("old", .file [10, 2, 118, 49, 18, 9, 8, 7, 18, 1, 102, 24, 1, 32, 1]),
              ("out", .directory [("a.h", .file [56, 10]), ("b.h", .file [56, 10])])]
          output := [.printed "Outgoing out/a.h: Matches: 1/1"] }) := by
  rw [runRequest_run_task]
  cbv

/-- A header with a line feed in its name, and the snapshots of two builds. -/
def lineFeedHeader : Node :=
  .directory
    [("a\nb.h", .file [55, 10]),
      ("new", .file [10, 2, 118, 50, 18, 9, 8, 8, 18, 1, 102, 24, 1, 32, 1]),
      ("old", .file [10, 2, 118, 49, 18, 9, 8, 7, 18, 1, 102, 24, 1, 32, 1])]

def lineFeedWords : List String :=
  ["match", "--previous", "old", "--current", "new", "--client-headers", "a\nb.h", "--pattern", "7",
    "--minimal-comments", "-o", "out"]

def lineFeedArguments : MatchArguments :=
  { twoHeadersArguments with clientHeaders := some (.ofText "a\nb.h") }

end Renumber
