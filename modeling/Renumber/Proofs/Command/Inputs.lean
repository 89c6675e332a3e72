import Renumber.Proofs.Command.Carrying
import Renumber.Proofs.Command.History

/-!
# What a match reads

A match reads two snapshots and a pattern (`MatchArguments.Loads`), and finds the headers that a path
stands for (`StandsFor`): one file, or the visible files below a directory.  Each goes to its own place
below the output, in the same layout.

Along with this something is shown: printed lines and notes, in one order (`World.Shows`).  Notes below
the level `info` are left out of account.
-/

namespace Renumber

/-! ## What is shown -/

/-- A printed line, or a note at the level `info`. -/
def Output.isGeneral : Output → Bool
  | .printed _ => true
  | .noted level _ => level = .info

/-- What an output adds to the printed text. -/
def Output.text : Output → String
  | .printed line => line ++ "\n"
  | .noted _ _ => ""

/-- What a note at the level `info` gives to show. -/
def infoNote (verbosity : Nat) (text : String) : List Output :=
  if 1 ≤ verbosity then [.noted .info (Text.escaped text)] else []

namespace World

/-- What is shown, earliest first. -/
def shown (w : World) : List Output := w.output.reverse.filter Output.isGeneral

/-- The printed text, apart from the notes. -/
def stdout (w : World) : String := String.join (w.output.reverse.map Output.text)

/-- Something is shown, and nothing else happens. -/
structure Shows (items : List Output) (w w' : World) : Prop where
  rest : w' = { w with output := w'.output }
  shown_eq : w'.shown = w.shown ++ items

theorem Shows.sameFiles {items : List Output} {w w' : World} (h : Shows items w w') :
    SameFiles w w' := by
  rw [h.rest]
  exact ⟨rfl, rfl⟩

theorem Shows.readPattern_eq {items : List Output} {w w' : World} (h : Shows items w w') :
    w'.readPattern = w.readPattern := by
  rw [h.rest]

theorem Shows.refl (w : World) : Shows [] w w := ⟨rfl, (List.append_nil _).symm⟩

theorem Shows.trans {items items' : List Output} {w w₁ w' : World} (h : Shows items w w₁)
    (h' : Shows items' w₁ w') : Shows (items ++ items') w w' where
  rest := by rw [h'.rest, h.rest]
  shown_eq := by rw [h'.shown_eq, h.shown_eq, List.append_assoc]

/-- Notes add nothing to the printed text. -/
theorem join_filter_isGeneral (items : List Output) :
    String.join ((items.filter Output.isGeneral).map Output.text) =
      String.join (items.map Output.text) := by
  induction items with
  | nil => rfl
  | cons item rest ih =>
    rw [List.map_cons, String.join_cons]
    cases item with
    | printed line => rw [List.filter_cons_of_pos rfl, List.map_cons, String.join_cons, ih]
    | noted level text =>
      rw [List.filter_cons]
      split
      · rw [List.map_cons, String.join_cons, ih]
      · rw [ih, Output.text, String.empty_append]

theorem stdout_eq_join_shown (w : World) : w.stdout = String.join (w.shown.map Output.text) :=
  (join_filter_isGeneral _).symm

theorem Shows.stdout_eq {items : List Output} {w w' : World} (h : Shows items w w') :
    w'.stdout = w.stdout ++ String.join (items.map Output.text) := by
  rw [stdout_eq_join_shown, h.shown_eq, List.map_append, String.join_append, ← stdout_eq_join_shown]

theorem stdout_of_quiet {items : List Output} {w w' : World} (h : Shows items w w')
    (hitems : String.join (items.map Output.text) = "") : w'.stdout = w.stdout := by
  rw [h.stdout_eq, hitems, String.append_empty]

theorem stdout_of_sameOutput {w w' : World} (h : SameOutput w w') : w'.stdout = w.stdout := by
  unfold stdout
  rw [h]

/-- Showing one more thing. -/
theorem shows_output (item : Output) (w : World) :
    Shows (if item.isGeneral then [item] else []) w { w with output := item :: w.output } := by
  refine ⟨rfl, ?_⟩
  unfold shown
  rw [List.reverse_cons, List.filter_append]
  cases h : item.isGeneral <;> simp [h]

end World

open World

theorem join_infoNote (verbosity : Nat) (text : String) :
    String.join ((infoNote verbosity text).map Output.text) = "" := by
  unfold infoNote
  split <;> rfl

theorem perform_print_shows (line : String) (w : World) :
    ∃ w', perform (Host.print line : Action (StateM World) Unit) w = (.ok (), w') ∧
      Shows [.printed line] w w' :=
  ⟨_, rfl, shows_output (.printed line) w⟩

theorem perform_note_info (verbosity : Nat) (text : String) (w : World) :
    ∃ w', perform (note verbosity .info text : Action (StateM World) Unit) w = (.ok (), w') ∧
      Shows (infoNote verbosity text) w w' := by
  unfold note infoNote
  change ∃ w', perform (if 1 ≤ verbosity then _ else _) w = _ ∧ _
  split
  · exact ⟨_, rfl, shows_output (.noted .info (Text.escaped text)) w⟩
  · exact ⟨w, rfl, .refl w⟩

/-- A note below the level `info`, taken at this verbosity. -/
def Output.IsDetail (verbosity : Nat) (item : Output) : Prop :=
  ∃ level text, item = .noted level text ∧ level ≠ .info ∧ level.verbosity ≤ verbosity

theorem filter_details {verbosity : Nat} {details : List Output}
    (h : ∀ item ∈ details, item.IsDetail verbosity) : details.filter Output.isGeneral = [] := by
  refine List.filter_eq_nil_iff.2 fun item hitem => ?_
  obtain ⟨level, text, rfl, hlevel, -⟩ := h item hitem
  simpa [Output.isGeneral] using hlevel

/-- Notes below the level `info` are left out of account. -/
theorem World.shows_details {verbosity : Nat} {details : List Output}
    (h : ∀ item ∈ details, item.IsDetail verbosity) (w : World) :
    Shows [] w { w with output := details ++ w.output } := by
  refine ⟨rfl, ?_⟩
  unfold World.shown
  rw [List.filter_reverse, List.filter_reverse, List.filter_append, filter_details h, List.nil_append,
    List.append_nil]

theorem perform_note_details (verbosity : Nat) (level : NoteLevel) (hlevel : level ≠ .info)
    (text : String) (w : World) :
    ∃ details, (∀ item ∈ details, item.IsDetail verbosity) ∧
      perform (note verbosity level text : Action (StateM World) Unit) w =
        (.ok (), { w with output := details ++ w.output }) := by
  unfold note
  split
  · rename_i htaken
    refine ⟨[.noted level (Text.escaped text)], fun item hitem => ?_, rfl⟩
    exact ⟨level, _, List.mem_singleton.1 hitem, hlevel, htaken⟩
  · exact ⟨[], fun item hitem => absurd hitem List.not_mem_nil, rfl⟩

theorem perform_note_detail (verbosity : Nat) (level : NoteLevel) (hlevel : level ≠ .info)
    (text : String) (w : World) :
    ∃ w', perform (note verbosity level text : Action (StateM World) Unit) w = (.ok (), w') ∧
      Shows [] w w' := by
  obtain ⟨details, hdetails, hperform⟩ := perform_note_details verbosity level hlevel text w
  exact ⟨_, hperform, shows_details hdetails w⟩

/-! ## Snapshots and patterns -/

/-- The file at this path is the snapshot of a valid revision. -/
def World.Reads (w : World) (p : Path) (r : Revision) : Prop :=
  ∃ bytes, w.root.read w.here p = .ok bytes ∧ Revision.ofBytes bytes = .ok r

/-- The snapshots are there and valid, and the pattern is well-formed. -/
structure MatchArguments.Loads (a : MatchArguments) (w : World) (previous current : Revision)
    (pattern : Pattern) : Prop where
  previous_reads : w.Reads a.previous previous
  current_reads : w.Reads a.current current
  pattern_eq : w.readPattern a.pattern = .ok pattern

theorem World.SameFiles.reads_iff {w w' : World} (h : SameFiles w w') {p : Path} {r : Revision} :
    w'.Reads p r ↔ w.Reads p r := by
  unfold World.Reads
  rw [h.1, h.2]

theorem isFile_iff_read {w : World} {p : Path} :
    (w.node? p).any Node.isFile = true ↔ ∃ bytes, w.root.read w.here p = .ok bytes := by
  simp only [Node.read_eq_ok_iff]
  rw [Option.any_eq_true]
  constructor
  · rintro ⟨node, hnode, hfile⟩
    obtain ⟨a, ha, hfind⟩ := Node.node?_eq_some_iff.1 hnode
    cases node with
    | file contents => exact ⟨contents, a, ha, hfind⟩
    | directory entries => cases hfile
  · rintro ⟨contents, a, ha, hfind⟩
    exact ⟨_, Node.node?_eq_some_iff.2 ⟨a, ha, hfind⟩, rfl⟩

theorem run_note (verbosity : Nat) (level : NoteLevel) (text : String) :
    (note verbosity level text : ExceptT Error (Action (StateM World)) Unit).run =
      (note verbosity level text : Action (StateM World) Unit) >>= fun _ => pure (.ok ()) := by
  unfold note
  split <;> rfl

theorem run_readRevision (verbosity : Nat) (p : Path) :
    (readRevision verbosity p : ExceptT Error (Action (StateM World)) Revision).run = (do
      match ← Host.readFile p with
      | .error fault => pure (.error (.unreadableFile p.text fault))
      | .ok bytes =>
        note verbosity .trace s!"Read {bytes.length} bytes from {p.text}"
        match Revision.ofBytes bytes with
        | .error e => pure (.error e)
        | .ok r =>
          note verbosity .debug <|
            s!"Loaded revision {r.label}: {r.outgoing.messages.length} outgoing, " ++
              s!"{r.incoming.messages.length} incoming"
          pure (.ok r)) := by
  have hread : (Host.readFile p : ExceptT Error (Action (StateM World)) _) =
      ExceptT.lift (Host.readFile p) := rfl
  unfold readRevision
  rw [hread, ExceptT.run_bind_lift]
  refine bind_congr fun read => ?_
  cases read with
  | error fault => rfl
  | ok bytes =>
    dsimp only
    rw [ExceptT.run_bind, run_note, bind_assoc]
    simp only [pure_bind]
    refine bind_congr fun _ => ?_
    cases Revision.ofBytes bytes with
    | error e => rfl
    | ok r =>
      change ExceptT.run (note verbosity .debug _ >>= fun _ => pure r) = _
      rw [ExceptT.run_bind, run_note, bind_assoc]
      simp only [pure_bind]
      rfl

theorem World.Reads.eq {w : World} {p : Path} {r r' : Revision} (h : w.Reads p r)
    (h' : w.Reads p r') : r = r' := by
  obtain ⟨bytes, hread, hr⟩ := h
  obtain ⟨bytes', hread', hr'⟩ := h'
  obtain rfl := Except.ok.inj (hread.symm.trans hread')
  exact Except.ok.inj (hr.symm.trans hr')

/-- A revision whose snapshot can be read is given, and no more than details are shown. -/
theorem perform_revisionAt_of_reads (verbosity : Nat) {p : Path} {w : World} {r : Revision}
    (h : w.Reads p r) : ∃ details, (∀ item ∈ details, item.IsDetail verbosity) ∧
      perform (revisionAt verbosity p) w = (.ok r, { w with output := details ++ w.output }) := by
  obtain ⟨bytes, hread, hr⟩ := h
  obtain ⟨traced, htraced, htrace⟩ := perform_note_details verbosity .trace nofun
    s!"Read {bytes.length} bytes from {p.text}" w
  obtain ⟨loaded, hloaded, hdebug⟩ := perform_note_details verbosity .debug nofun
    (s!"Loaded revision {r.label}: {r.outgoing.messages.length} outgoing, " ++
      s!"{r.incoming.messages.length} incoming") { w with output := traced ++ w.output }
  refine ⟨loaded ++ traced, fun item hitem => ?_, ?_⟩
  · exact (List.mem_append.1 hitem).elim (hloaded item) (htraced item)
  · unfold revisionAt
    rw [perform_bind_ok (perform_isFile p w), if_pos (isFile_iff_read.2 ⟨bytes, hread⟩),
      run_readRevision, bind_assoc, perform_bind_ok (perform_readFile p w), hread]
    dsimp only
    rw [bind_assoc, perform_bind_ok htrace, hr]
    dsimp only
    rw [bind_assoc, perform_bind_ok hdebug, List.append_assoc]
    rfl

/-- A revision is given just if its snapshot can be read. -/
theorem perform_revisionAt (verbosity : Nat) (p : Path) (w : World) :
    (∃ r w', w.Reads p r ∧ Shows [] w w' ∧ perform (revisionAt verbosity p) w = (.ok r, w')) ∨
    ∃ f w', (∀ r, ¬ w.Reads p r) ∧ SameFiles w w' ∧
      perform (revisionAt verbosity p) w = (.error f, w') := by
  by_cases hreads : ∃ r, w.Reads p r
  · obtain ⟨r, hr⟩ := hreads
    obtain ⟨details, hdetails, hperform⟩ := perform_revisionAt_of_reads verbosity hr
    exact .inl ⟨r, _, hr, shows_details hdetails w, hperform⟩
  rw [not_exists] at hreads
  suffices h : ∃ f, (perform (revisionAt verbosity p) w).1 = .error f by
    obtain ⟨f, hf⟩ := h
    exact .inr ⟨f, _, hreads, stays_revisionAt verbosity p w, Prod.ext hf rfl⟩
  unfold revisionAt
  rw [perform_bind_ok (perform_isFile p w)]
  by_cases hfile : (w.node? p).any Node.isFile = true
  · obtain ⟨bytes, hread⟩ := isFile_iff_read.1 hfile
    obtain ⟨w₁, htrace, -⟩ := perform_note_detail verbosity .trace nofun
      s!"Read {bytes.length} bytes from {p.text}" w
    rw [if_pos hfile, run_readRevision, bind_assoc, perform_bind_ok (perform_readFile p w), hread]
    dsimp only
    rw [bind_assoc, perform_bind_ok htrace]
    cases hr : Revision.ofBytes bytes with
    | error e => exact ⟨_, rfl⟩
    | ok r => exact absurd ⟨bytes, hread, hr⟩ (hreads r)
  · rw [if_neg hfile]
    exact ⟨_, rfl⟩

theorem MatchArguments.Loads.eq {a : MatchArguments} {w : World}
    {previous current previous' current' : Revision} {pattern pattern' : Pattern}
    (h : a.Loads w previous current pattern) (h' : a.Loads w previous' current' pattern') :
    (previous, current, pattern) = (previous', current', pattern') := by
  rw [h.previous_reads.eq h'.previous_reads, h.current_reads.eq h'.current_reads,
    Except.ok.inj (h.pattern_eq.symm.trans h'.pattern_eq)]

/-- A match goes on just if everything loads. -/
theorem perform_load (verbosity : Nat) (a : MatchArguments) (w : World) :
    (∃ previous current pattern w', a.Loads w previous current pattern ∧
      Shows (infoNote verbosity s!"Matching {previous.label} -> {current.label}") w w' ∧
      perform (a.load verbosity) w = (.ok (previous, current, pattern), w')) ∨
    ∃ f w', (∀ previous current pattern, ¬ a.Loads w previous current pattern) ∧ SameFiles w w' ∧
      perform (a.load verbosity) w = (.error f, w') := by
  unfold MatchArguments.load
  obtain ⟨previous, w₁, hprevious, hshows₁, hperform₁⟩ | ⟨f, w₁, hnot, hsame, hperform⟩ :=
    perform_revisionAt verbosity a.previous w
  swap
  · exact .inr ⟨f, w₁, fun _ _ _ h => hnot _ h.previous_reads, hsame, perform_bind_error hperform _⟩
  rw [perform_bind_ok hperform₁]
  obtain ⟨current, w₂, hcurrent, hshows₂, hperform₂⟩ | ⟨f, w₂, hnot, hsame, hperform⟩ :=
    perform_revisionAt verbosity a.current w₁
  swap
  · refine .inr ⟨f, w₂, fun _ current _ h => hnot current ?_, trans_of _ hshows₁.sameFiles hsame,
      perform_bind_error hperform _⟩
    exact hshows₁.sameFiles.reads_iff.2 h.current_reads
  rw [perform_bind_ok hperform₂, perform_bind_ok (perform_readPattern a.pattern w₂),
    (hshows₁.trans hshows₂).readPattern_eq]
  cases hpattern : w.readPattern a.pattern with
  | error e =>
    refine .inr ⟨_, w₂, fun _ _ _ h => ?_, (hshows₁.trans hshows₂).sameFiles, rfl⟩
    rw [h.pattern_eq] at hpattern
    cases hpattern
  | ok pattern =>
    obtain ⟨w₃, hnote, hshows₃⟩ := perform_note_info verbosity
      s!"Matching {previous.label} -> {current.label}" w₂
    refine .inl ⟨previous, current, pattern, w₃,
      ⟨hprevious, hshows₁.sameFiles.reads_iff.1 hcurrent, hpattern⟩,
      (hshows₁.trans hshows₂).trans hshows₃, ?_⟩
    change perform (note verbosity .info _ >>= _) w₂ = _
    rw [perform_bind_ok hnote]
    rfl

/-! ## Headers -/

/-- The headers that an input path stands for, each with the place of its output, and what is noted
along the way. -/
inductive StandsFor (verbosity : Nat) (w : World) (input output : Path) :
    List (Path × Path) → List Output → Prop
  | file {a : List Name} {contents : List UInt8} {name : Name} (hleads : w.LeadsTo input a)
    (hfind : w.root.find? a = some (.file contents)) (hname : input.fileName? = some name) :
    StandsFor verbosity w input output [(input, output.join [name])] []
  | directory {a : List Name} {entries : List (Name × Node)} (hleads : w.LeadsTo input a)
    (hfind : w.root.find? a = some (.directory entries)) :
    StandsFor verbosity w input output
      ((Node.directory entries).visibleFiles.map fun names => (input.join names, output.join names))
      (infoNote verbosity s!"Scanning directory: {input.text}")

theorem StandsFor.join_notes {verbosity : Nat} {w : World} {input output : Path}
    {pairs : List (Path × Path)} {notes : List Output}
    (h : StandsFor verbosity w input output pairs notes) :
    String.join (notes.map Output.text) = "" := by
  cases h with
  | file => rfl
  | directory => exact join_infoNote _ _

/-- The last segment of a path that leads to a file is a name. -/
theorem isName_of_leadsTo_file {w : World} {p : Path} {front : List Name} {last : Name}
    (hsegments : p.segments = front ++ [last]) {a : List Name} {contents : List UInt8}
    (hleads : w.LeadsTo p a) (hfind : w.root.find? a = some (.file contents)) : IsName last := by
  obtain ⟨start, -, hfollow⟩ := bind_eq_ok hleads
  rw [hsegments, Node.follow_append] at hfollow
  obtain ⟨above, -, hlast⟩ := bind_eq_ok hfollow
  rw [← Node.kind?_eq_file_iff] at hfind
  rw [Node.follow_cons] at hlast
  split at hlast
  · cases hlast
  · cases hlast
  · rename_i habove
    split_ifs at hlast with hidle hparent
    · rw [Node.follow] at hlast
      obtain rfl := Except.ok.inj hlast
      rw [habove] at hfind
      cases hfind
    · -- what is above a directory is a directory
      rw [Node.follow] at hlast
      obtain rfl := Except.ok.inj hlast
      have hdirectory : w.root.kind? above.dropLast = some .directory := by
        by_cases hnil : above = []
        · rwa [hnil] at habove ⊢
        · rw [← List.dropLast_concat_getLast hnil] at habove
          have hpresent := habove ▸ Option.some_ne_none Node.Kind.directory
          exact Node.kind?_eq_directory_of_append (List.cons_ne_nil _ _) hpresent
      rw [hdirectory] at hfind
      cases hfind
    · rw [not_or] at hidle
      exact ⟨hidle.1, hidle.2, hparent⟩

theorem fileName?_of_isName {p : Path} {front : List Name} {last : Name}
    (hsegments : p.segments = front ++ [last]) (hlast : IsName last) :
    p.fileName? = some last := by
  obtain ⟨hempty, hdot, hdots⟩ := hlast
  have hidle : Path.dropIdle (last :: front.reverse) = last :: front.reverse := by
    cases front.reverse with
    | nil => rfl
    | cons next rest => rw [Path.dropIdle, if_neg (by simp [hempty, hdot])]
  unfold Path.fileName?
  rw [hsegments, List.reverse_append, List.reverse_singleton, List.singleton_append, hidle]
  simp only [hempty, hdot, hdots, or_self, if_false]

/-- The name of a file is the last one of its address. -/
theorem exists_fileName? {w : World} {p : Path} (hnil : p.segments ≠ []) {a : List Name}
    {contents : List UInt8} (hleads : w.LeadsTo p a)
    (hfind : w.root.find? a = some (.file contents)) :
    ∃ name, a.getLast? = some name ∧ p.fileName? = some name := by
  obtain ⟨front, last, hsegments⟩ := (List.eq_nil_or_concat' p.segments).resolve_left hnil
  have hlast := isName_of_leadsTo_file hsegments hleads hfind
  obtain ⟨start, -, hfollow⟩ := bind_eq_ok hleads
  rw [hsegments, Node.follow_append] at hfollow
  obtain ⟨above, -, hfollow⟩ := bind_eq_ok hfollow
  obtain rfl := Node.eq_of_follow_names (fun name hname => List.mem_singleton.1 hname ▸ hlast) hfollow
  exact ⟨last, List.getLast?_concat, fileName?_of_isName hsegments hlast⟩

/-- Headers are looked for where the input is, and only there. -/
theorem perform_headerFiles (verbosity : Nat) {input : Path} (hnil : input.segments ≠ [])
    (output : Path) (w : World) :
    (∃ pairs notes w', StandsFor verbosity w input output pairs notes ∧ Shows notes w w' ∧
      perform (headerFiles verbosity input output) w = (.ok pairs, w')) ∨
    w.node? input = none ∧
      perform (headerFiles verbosity input output) w =
        (.error ⟨s!"Header input does not exist: {input.text}", none⟩, w) := by
  unfold headerFiles
  rw [perform_bind_ok (perform_isFile input w)]
  cases hnode : w.node? input with
  | none =>
    refine .inr ⟨rfl, ?_⟩
    change perform (Host.isDirectory input >>= _) w = _
    rw [perform_bind_ok (perform_isDirectory input w), hnode]
    rfl
  | some node =>
    obtain ⟨a, hleads, hfind⟩ := Node.node?_eq_some_iff.1 hnode
    left
    cases node with
    | file contents =>
      obtain ⟨name, -, hname⟩ := exists_fileName? hnil hleads hfind
      refine ⟨_, _, w, .file hleads hfind hname, .refl w, ?_⟩
      simp only [hname]
      rfl
    | directory entries =>
      obtain ⟨w₁, hnote, hshows⟩ := perform_note_info verbosity s!"Scanning directory: {input.text}" w
      obtain ⟨w₂, hnote', hshows'⟩ := perform_note_detail verbosity .trace nofun
        s!"Found {(Node.directory entries).visibleFiles.length} header file(s) in {input.text}" w₁
      refine ⟨_, _, w₂, .directory hleads hfind, by simpa using hshows.trans hshows', ?_⟩
      change perform (Host.isDirectory input >>= _) w = _
      rw [perform_bind_ok (perform_isDirectory input w), hnode]
      change perform (note verbosity .info _ >>= _) w = _
      rw [perform_bind_ok hnote, perform_bind_ok (perform_visibleFiles input w₁),
        hshows.sameFiles.node?_eq input, hnode]
      simp only [Option.map_some, Option.getD_some]
      rw [perform_bind_ok hnote']
      rfl

/-- The path of a file below a directory leads to this file, or nowhere. -/
theorem leadsTo_join {P : List Name → Prop} {w w' : World} (hw : w.root.WellFormed) {input : Path}
    {a b names : List Name} {entries : List (Name × Node)} (hleads : w.LeadsTo input a)
    (hfind : w.root.find? a = some (.directory entries))
    (hmem : names ∈ (Node.directory entries).visibleFiles) (h : Becomes P w w')
    (hb : w'.LeadsTo (input.join names) b) :
    w.LeadsTo (input.join names) (a ++ names) ∧ b = a ++ names := by
  have hentries := hw.of_find? hfind
  obtain ⟨hnil, hnames⟩ := hentries.names_of_mem_visibleFiles rfl hmem
  obtain ⟨contents, hfile⟩ := hentries.exists_file_of_mem_visibleFiles hmem
  have hentry : w.root.kind? (a ++ names) ≠ none := by
    rw [Ne, Node.kind?_eq_none_iff, Node.find?_append, hfind, Option.bind_some, hfile]
    exact Option.some_ne_none _
  obtain ⟨start, hstart, -⟩ := bind_eq_ok hb
  rw [h.here] at hstart
  have hjoined : w.LeadsTo (input.join names) (a ++ names) :=
    Node.locate_join hleads hnil hnames hentry hstart
  exact ⟨hjoined, hb.eq (h.leadsTo hjoined)⟩

/-- Making directories and writing files does not change where the path of a header leads, and its output
ends in a name. -/
theorem StandsFor.settled_and_isNamed {verbosity : Nat} {w : World} {input output : Path}
    {pairs : List (Path × Path)} {notes : List Output}
    (h : StandsFor verbosity w input output pairs notes) (hw : w.root.WellFormed) :
    ∀ pair ∈ pairs, w.Settled pair.1 ∧ pair.2.IsNamed := by
  intro pair hpair
  cases h with
  | file hleads hfind hname =>
    obtain rfl := List.mem_singleton.1 hpair
    refine ⟨hleads.settled, output.join_isNamed (List.cons_ne_nil _ _) fun other hother => ?_⟩
    exact List.mem_singleton.1 hother ▸ Path.isName_of_fileName? hname
  | directory hleads hfind =>
    obtain ⟨names, hmem, rfl⟩ := List.mem_map.1 hpair
    obtain ⟨hnil, hnames⟩ := (hw.of_find? hfind).names_of_mem_visibleFiles rfl hmem
    refine ⟨fun w' hbecomes b hb => ?_, output.join_isNamed hnil hnames⟩
    obtain ⟨hjoined, rfl⟩ := leadsTo_join hw hleads hfind hmem hbecomes hb
    exact hjoined

/-- The headers that a path stands for are at the address that it leads to or below. -/
theorem StandsFor.below {verbosity : Nat} {w : World} {input output : Path}
    {pairs : List (Path × Path)} {notes : List Output}
    (h : StandsFor verbosity w input output pairs notes) (hw : w.root.WellFormed) :
    ∀ pair ∈ pairs, ∀ b, w.LeadsTo pair.1 b → ∃ a, w.LeadsTo input a ∧ a <+: b := by
  intro pair hpair b hb
  cases h with
  | file =>
    obtain rfl := List.mem_singleton.1 hpair
    exact ⟨b, hb, List.prefix_rfl⟩
  | @directory a _ hleads hfind =>
    obtain ⟨names, hmem, rfl⟩ := List.mem_map.1 hpair
    obtain ⟨-, rfl⟩ := leadsTo_join hw hleads hfind hmem (refl_of (Becomes fun _ => False) w) hb
    exact ⟨a, hleads, List.prefix_append a names⟩

/-! ## Command lines -/

namespace Arguments

theorem exists_task?_of_command? {name : String} {g : Grammar} {task? : Collected → Option Task}
    {verbosity verbosity' : Nat} {rest : List String} {task : Task}
    (h : command? name g task? verbosity rest = some (.run verbosity' task)) :
    ∃ c, task? c = some task := by
  unfold command? at h
  split at h
  · rename_i c _
    obtain ⟨task', htask', heq⟩ := Option.map_eq_some_iff.1 h
    obtain ⟨-, rfl⟩ := Request.run.inj heq
    exact ⟨c, htask'⟩
  · cases h
  · cases h
  · cases h

/-- A match that a command line asks for is made of the options behind its name. -/
theorem exists_matchTask?_of_request? {c : Collected} {words : List String} {verbosity : Nat}
    {a : MatchArguments} (h : request? c words = some (.run verbosity (.carry a))) :
    ∃ c', matchTask? c' = some (.carry a) := by
  induction words generalizing c with
  | nil => cases h
  | cons word rest ih =>
    unfold request? at h
    split at h
    · split at h
      · obtain ⟨c', hc'⟩ := exists_task?_of_command? h
        unfold reportTask? at hc'
        split at hc' <;> cases hc'
      · exact exists_task?_of_command? h
      · split at h
        · cases h
        · split at h <;> cases h
        · cases h
      · cases h
    · split at h
      · exact ih h
      · cases h
      · cases h
      · cases h

end Arguments

/-- The header paths of a command line have at least one segment. -/
theorem segments_ne_nil_of_ofWords? {words : List String} {verbosity : Nat} {a : MatchArguments}
    (h : Request.ofWords? words = some (.run verbosity (.carry a))) {d : Direction} {input : Path}
    (hinput : a.headers d = some input) : input.segments ≠ [] := by
  obtain ⟨c, hc⟩ := Arguments.exists_matchTask?_of_request? h
  unfold Arguments.matchTask? at hc
  obtain ⟨previous, -, hc⟩ := Option.bind_eq_some_iff.1 hc
  obtain ⟨current, -, hc⟩ := Option.bind_eq_some_iff.1 hc
  obtain ⟨choice, -, hc⟩ := Option.bind_eq_some_iff.1 hc
  rw [Option.ite_none_left_eq_some] at hc
  obtain rfl := Task.carry.inj (Option.some.inj hc.2)
  obtain ⟨option, hpath⟩ : ∃ option, c.path? option = some input := by
    cases d with
    | outgoing => exact ⟨_, hinput⟩
    | incoming => exact ⟨_, hinput⟩
  obtain ⟨text, -, rfl⟩ := Option.map_eq_some_iff.1 hpath
  simp [Path.ofText]

end Renumber
