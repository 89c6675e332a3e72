import Mathlib
import Renumber.Proofs.Command.Inputs
import Renumber.Proofs.Files.Walk
import Renumber.Proofs.Text.Lines

/-!
# Which headers are collected

A directory stands for every file below it to which no text with a dot in front leads, whatever the
directory itself is called (`World.Finds`).  A name that is no text is looked into even if its first byte
is a dot (`headerFiles_collects_dotName`).  The files come in the order of their names from the directory,
name by name and byte by byte; so all that is below `a` comes before the file `a.h`, although a dot comes
before a slash.

Each goes to the same names below the output.  Different names lead to different places, so no two
headers have one output (`headerFiles_collects`).
-/

namespace Renumber

open World

/-- These are the files below the directory at the address, by the names that lead to them from there,
but for those behind a name that is a text with a dot in front; the names are in the order of their
bytes. -/
structure World.Finds (w : World) (a : List Name) (found : List (List Name)) : Prop where
  mem_iff : ∀ names, names ∈ found ↔
    (∃ contents, w.root.kind? (a ++ names) = some (.file contents)) ∧
      ∀ name ∈ names, ∀ rest : List Char, name.bytes ≠ encode ('.' :: rest)
  ascending : found.Pairwise fun names names' => names.map Name.bytes < names'.map Name.bytes

/-- The outputs of the headers, and where the paths of headers and outputs lead. -/
structure World.LeadsApart (w : World) (a : List Name) (found : List (List Name))
    (input output : Path) : Prop where
  sources_nodup : (found.map input.join).Nodup
  destinations_nodup : (found.map output.join).Nodup
  source_eq : ∀ names ∈ found, ∀ b, w.LeadsTo (input.join names) b → b = a ++ names
  /-- Whatever is written in the meantime, two outputs are at different addresses. -/
  apart : ∀ names ∈ found, ∀ names' ∈ found, ∀ (w' : World) (b : List Name),
    w'.LeadsTo (output.join names) b → w'.LeadsTo (output.join names') b → names = names'

/-! ## Lemmas -/

theorem map_bytes_lt {names names' : List Name} (h : names < names') :
    names.map Name.bytes < names'.map Name.bytes := by
  induction h with
  | nil => exact List.nil_lt_cons _ _
  | cons _ ih => exact List.cons_lt_cons_iff.2 (.inr ⟨rfl, ih⟩)
  | rel h => exact List.cons_lt_cons_iff.2 (.inl h)

theorem isHidden_eq_true_iff {name : Name} :
    Node.isHidden name = true ↔ ∃ rest : List Char, name.bytes = encode ('.' :: rest) := by
  rw [Node.isHidden, Option.any_eq_true, Name.text?]
  constructor
  · rintro ⟨text, htext, hdot⟩
    obtain ⟨rest, hrest⟩ := List.head?_eq_some_iff.1 (beq_iff_eq.1 hdot)
    exact ⟨rest, by rw [← hrest, encode_toList, Text.bytesOf_of_ofBytes? htext]⟩
  · rintro ⟨rest, hrest⟩
    refine ⟨String.ofList ('.' :: rest), ?_, by rw [String.toList_ofList]; rfl⟩
    rw [hrest, encode, Text.ofBytes?_bytesOf]

theorem isHidden_eq_false_iff {name : Name} :
    Node.isHidden name = false ↔ ∀ rest : List Char, name.bytes ≠ encode ('.' :: rest) := by
  rw [← not_exists, ← isHidden_eq_true_iff, Bool.not_eq_true]

theorem Path.join_injective (p : Path) : Function.Injective p.join := by
  obtain ⟨front, hjoin⟩ := p.exists_join
  intro names names' h
  rw [hjoin, hjoin, Path.mk.injEq] at h
  exact List.append_cancel_left h

section

variable {w : World} {a : List Name} {entries : List (Name × Node)}

theorem finds_visibleFiles (hw : w.root.WellFormed) (hfind : w.root.find? a = some (.directory entries)) :
    w.Finds a (Node.directory entries).visibleFiles where
  mem_iff names := by
    have hkind : w.root.kind? (a ++ names) = (Node.directory entries).kind? names := by
      rw [Node.kind?, Node.find?_append, hfind, Option.bind_some, Node.kind?]
    rw [(hw.of_find? hfind).mem_visibleFiles_iff, hkind]
    simp only [isHidden_eq_false_iff]
  ascending := (Node.WellFormed.filesWhere_ascending _ (hw.of_find? hfind)).imp map_bytes_lt

theorem nodup_visibleFiles (hw : w.root.WellFormed)
    (hfind : w.root.find? a = some (.directory entries)) :
    (Node.directory entries).visibleFiles.Nodup :=
  (finds_visibleFiles hw hfind).ascending.imp fun {names names'} hlt (heq : names = names') =>
    List.lt_irrefl _ (heq ▸ hlt)

theorem leadsApart_visibleFiles (hw : w.root.WellFormed)
    (hfind : w.root.find? a = some (.directory entries)) {input : Path} (hleads : w.LeadsTo input a)
    (output : Path) : w.LeadsApart a (Node.directory entries).visibleFiles input output where
  sources_nodup := (nodup_visibleFiles hw hfind).map input.join_injective
  destinations_nodup := (nodup_visibleFiles hw hfind).map output.join_injective
  source_eq names hnames b hb :=
    (leadsTo_join hw hleads hfind hnames (refl_of (Becomes fun _ => False) w) hb).2
  apart names hmem names' hmem' w' b hb hb' := by
    obtain ⟨hnil, hnames⟩ := (hw.of_find? hfind).names_of_mem_visibleFiles rfl hmem
    obtain ⟨hnil', hnames'⟩ := (hw.of_find? hfind).names_of_mem_visibleFiles rfl hmem'
    exact Node.eq_of_locate_join hnil hnames hnil' hnames' hb hb'

/-- If the input is there, the headers that it stands for are given. -/
theorem exists_standsFor (verbosity : Nat) {input : Path} (hnil : input.segments ≠ []) (output : Path)
    (hleads : w.LeadsTo input a) {kind : Node.Kind} (hkind : w.root.kind? a = some kind) :
    ∃ pairs notes w', StandsFor verbosity w input output pairs notes ∧ SameFiles w w' ∧
      perform (headerFiles verbosity input output) w = (.ok pairs, w') := by
  obtain ⟨node, hfind, -⟩ := Option.map_eq_some_iff.1 hkind
  have hnode : w.node? input = some node := Node.node?_eq_some_iff.2 ⟨a, hleads, hfind⟩
  obtain ⟨pairs, notes, w', hstands, hshows, hperform⟩ | ⟨hnone, -⟩ :=
    perform_headerFiles verbosity hnil output w
  · exact ⟨pairs, notes, w', hstands, hshows.sameFiles, hperform⟩
  · rw [hnode] at hnone
    cases hnone

end

/-! ## Main theorem -/

/-- For a directory the visible files below it are given, each once and in order, with outputs that are
apart; for a file this file alone.  Nothing happens to the files meanwhile. -/
theorem headerFiles_collects (w : World) (hw : w.root.WellFormed) (verbosity : Nat) (input : Path)
    (hnil : input.segments ≠ []) (output : Path) :
    (∀ a, w.LeadsTo input a → w.root.kind? a = some .directory →
      ∃ found w', perform (headerFiles verbosity input output) w =
          (.ok (found.map fun names => (input.join names, output.join names)), w') ∧
        SameFiles w w' ∧ w.Finds a found ∧ w.LeadsApart a found input output) ∧
    ∀ a contents, w.LeadsTo input a → w.root.kind? a = some (.file contents) →
      ∃ name w', a.getLast? = some name ∧ input.fileName? = some name ∧
        perform (headerFiles verbosity input output) w = (.ok [(input, output.join [name])], w') ∧
        SameFiles w w' := by
  constructor
  · intro a hleads hkind
    obtain ⟨_, _, w', hstands, hsame, hperform⟩ :=
      exists_standsFor verbosity hnil output hleads hkind
    cases hstands with
    | file hleads' hfind hname =>
      obtain rfl := hleads.eq hleads'
      rw [Node.kind?_eq_file_iff.2 hfind] at hkind
      cases hkind
    | directory hleads' hfind =>
      obtain rfl := hleads.eq hleads'
      exact ⟨_, w', hperform, hsame, finds_visibleFiles hw hfind,
        leadsApart_visibleFiles hw hfind hleads output⟩
  · intro a contents hleads hkind
    obtain ⟨_, _, w', hstands, hsame, hperform⟩ :=
      exists_standsFor verbosity hnil output hleads hkind
    cases hstands with
    | file hleads' hfind hname =>
      obtain ⟨name, hlast, hname'⟩ := exists_fileName? hnil hleads (Node.kind?_eq_file_iff.1 hkind)
      obtain rfl := Option.some.inj (hname'.symm.trans hname)
      exact ⟨name, w', hlast, hname, hperform, hsame⟩
    | directory hleads' hfind =>
      obtain rfl := hleads.eq hleads'
      rw [Node.kind?_eq_directory_iff.2 ⟨_, hfind⟩] at hkind
      cases hkind

/-- A hidden directory with a file `a.h` beside a directory `a`, and a hidden directory in it. -/
def hiddenHeaders : Node :=
  .directory [(".headers", .directory [("b", .directory [("x.h", .file [])]), ("a.h", .file []),
    (".git", .directory [("config", .file [])]), ("a", .directory [("z.h", .file [])])])]

theorem wellFormed_hiddenHeaders : hiddenHeaders.WellFormed := by
  have hfolder (name : Name) (hname : IsName name) :
      (Node.directory [(name, .file [])]).WellFormed :=
    Node.wellFormed_directory ⟨List.nodup_singleton name, by simpa using hname⟩ (by simp)
  have hb := hfolder "x.h" (by decide)
  have hgit := hfolder "config" (by decide)
  have ha := hfolder "z.h" (by decide)
  have hheaders : (Node.directory [("b", .directory [("x.h", .file [])]), ("a.h", .file []),
      (".git", .directory [("config", .file [])]), ("a", .directory [("z.h", .file [])])]).WellFormed :=
    Node.wellFormed_directory (by decide) (by simp [hb, hgit, ha])
  exact Node.wellFormed_directory (by decide) (by simp [hheaders])

/-- What is below `.headers` is found although its own name has a dot in front, and what is below
`.git` is not. -/
theorem headerFiles_collects_hiddenHeaders :
    let w : World := { root := hiddenHeaders }
    let input := Path.ofText ".headers"
    let output := Path.ofText "out"
    (∃ found w', perform (headerFiles 0 input output) w =
        (.ok (found.map fun names => (input.join names, output.join names)), w') ∧
      (∀ names ∈ ([["a.h"], ["a", "z.h"], ["b", "x.h"]] : List (List Name)), names ∈ found) ∧
      ([".git", "config"] : List Name) ∉ found ∧
      w.Finds [".headers"] found ∧ w.LeadsApart [".headers"] found input output) ∧
    ∃ w', perform (headerFiles 0 (Path.ofText ".headers/a.h") output) w =
      (.ok [(Path.ofText ".headers/a.h", Path.ofText "out/a.h")], w') := by
  intro w input output
  have hw : w.root.WellFormed := wellFormed_hiddenHeaders
  constructor
  · obtain ⟨found, w', hperform, -, hfinds, hapart⟩ :=
      (headerFiles_collects w hw 0 input (by decide) output).1 [".headers"] (by cbv) (by cbv)
    refine ⟨found, w', hperform, fun names hnames => ?_, fun hgit => ?_, hfinds, hapart⟩
    · rw [hfinds.mem_iff]
      simp only [← isHidden_eq_false_iff]
      obtain rfl | rfl | rfl : names = ["a.h"] ∨ names = ["a", "z.h"] ∨ names = ["b", "x.h"] := by
        simpa using hnames
      · exact ⟨⟨[], by cbv⟩, by decide⟩
      · exact ⟨⟨[], by cbv⟩, by decide⟩
      · exact ⟨⟨[], by cbv⟩, by decide⟩
    · have hdot : (".git" : Name).bytes = encode ('.' :: "git".toList) := by decide
      exact (hfinds.mem_iff _).1 hgit |>.2 ".git" List.mem_cons_self _ hdot
  · obtain ⟨name, w', hlast, -, hperform, -⟩ := (headerFiles_collects w hw 0
      (Path.ofText ".headers/a.h") (by decide) output).2 [".headers", "a.h"] [] (by cbv) (by cbv)
    obtain rfl := Option.some.inj hlast
    exact ⟨w', hperform⟩

/-- A dot, a letter, and a byte that goes on in no text. -/
def dotName : Name := ⟨[0x2E, 0x63, 0xE9]⟩

/-- A file whose name begins with a dot is found, if the name is no text. -/
theorem headerFiles_collects_dotName :
    let w : World := { root := .directory [("h", .directory [(dotName, .file [])])] }
    let input := Path.ofText "h"
    let output := Path.ofText "out"
    w.root.WellFormed ∧ dotName.bytes.head? = some 0x2E ∧ (∀ text, dotName ≠ Name.ofText text) ∧
      perform (headerFiles 0 input output) w =
        (.ok [(input.join [dotName], output.join [dotName])], w) := by
  intro w input output
  have hw : w.root.WellFormed := by
    have hheaders : (Node.directory [(dotName, .file [])]).WellFormed :=
      Node.wellFormed_directory (by decide) (by simp)
    exact Node.wellFormed_directory (by decide) (by simp [hheaders])
  have hnone : dotName.text? = none := by cbv
  refine ⟨hw, rfl, fun text htext => ?_, by cbv⟩
  have hsome : dotName.text? = some text := by rw [htext, Name.text?, Name.ofText, Text.ofBytes?_bytesOf]
  rw [hnone] at hsome
  cases hsome

end Renumber
