import Mathlib.Data.List.Basic
import Renumber.Proofs.Report.Interruption
import Renumber.Proofs.Text.Grouping

/-!
# The lines of a report

A report is the label, and then for each direction an empty line and a header with the number of its
messages, a line for each unique message, the collision groups behind a header of their own if there
are any, and the dead messages (`Revision.reportLines`).  Every line is ended by a line feed
(`Revision.fullText_eq`).

As long as no text of the revision has a line feed in it, cutting the report at its line feeds gives
back these lines and nothing else (`Revision.splitOn_report`).
-/

namespace Renumber

open Text

/-! ## The lines -/

def Message.parserPart (m : Message) : List Char :=
  match m.parser with
  | some parser => "[Parser: ".toList ++ parser.toList ++ [']']
  | none => []

/-- The line of a message; the mark tells the section. -/
def Message.line (mark : List Char) (m : Message) : List Char :=
  m.direction.title.toList ++ mark ++
    (['['] ++ decimal m.id.toNat ++ ", ".toList ++ m.fingerprint.toList ++ "] = ".toList) ++
    m.name.toList ++ m.signature.toList ++ m.parserPart

def collisionMark (size : Nat) : List Char := "[Collisions: ".toList ++ decimal size ++ [']']

def deadMark : List Char := "[Dead]".toList

namespace Catalog

/-- The line that opens a section. -/
def header (c : Catalog) (text : List Char) : List Char :=
  "// ".toList ++ c.direction.title.toList ++ text

def collisionLines (c : Catalog) : List (List Char) :=
  if c.groups = [] then []
  else [[], c.header " Message Hash Collisions".toList] ++
    c.groups.flatMap fun group => group.2.map (Message.line (collisionMark group.2.length))

def reportLines (c : Catalog) : List (List Char) :=
  [[], c.header (" Messages | ".toList ++ grouped c.size)] ++ c.uniqueMessages.map (Message.line []) ++
    c.collisionLines ++
    [[], c.header " Dead Messages".toList] ++ c.deadMessages.map (Message.line deadMark)

end Catalog

def Revision.reportLines (r : Revision) : List (List Char) :=
  ["// ".toList ++ r.label.toList] ++ r.outgoing.reportLines ++ r.incoming.reportLines

/-- The text that has these lines, each with a line feed at its end. -/
def ended (lines : List (List Char)) : List Char := lines.flatMap (· ++ ['\n'])

/-! ## Texts without line feeds -/

structure Message.IsOneLine (m : Message) : Prop where
  fingerprint : '\n' ∉ m.fingerprint.toList
  name : '\n' ∉ m.name.toList
  signature : '\n' ∉ m.signature.toList
  parser : ∀ parser ∈ m.parser, '\n' ∉ parser.toList

instance (m : Message) : Decidable m.IsOneLine :=
  decidable_of_iff ('\n' ∉ m.fingerprint.toList ∧ '\n' ∉ m.name.toList ∧
      '\n' ∉ m.signature.toList ∧ ∀ parser ∈ m.parser, '\n' ∉ parser.toList)
    ⟨fun ⟨hf, hn, hs, hp⟩ => ⟨hf, hn, hs, hp⟩, fun ⟨hf, hn, hs, hp⟩ => ⟨hf, hn, hs, hp⟩⟩

/-- No text of the revision has a line feed in it. -/
structure Revision.IsOneLined (r : Revision) : Prop where
  label : '\n' ∉ r.label.toList
  messages : ∀ d, ∀ m ∈ (r.catalog d).messages, m.IsOneLine

/-! ## Sections -/

/-- Which messages of a catalog are in which section of a report, and in which order. -/
structure Catalog.Sections (c : Catalog) (unique : List Message)
    (groups : List (String × List Message)) (dead : List Message) : Prop where
  perm : (unique ++ groups.flatMap (·.2) ++ dead).Perm c.messages
  mem_unique : ∀ m, m ∈ unique ↔ m ∈ c.messages ∧ 0 < m.references ∧
    ∀ n ∈ c.messages, 0 < n.references → n.fingerprint = m.fingerprint → n = m
  mem_groups : ∀ fingerprint group, (fingerprint, group) ∈ groups ↔ 2 ≤ group.length ∧
    group = c.messages.filter fun m => 0 < m.references ∧ m.fingerprint = fingerprint
  mem_dead : ∀ m, m ∈ dead ↔ m ∈ c.messages ∧ m.references = 0
  unique_ascending : unique.Pairwise (·.id < ·.id)
  groups_ascending : groups.Pairwise FirstBefore
  members_ascending : ∀ group ∈ groups, group.2.Pairwise (·.id < ·.id)
  dead_ascending : dead.Pairwise (·.id < ·.id)

/-! ## Lemmas -/

/-! ### Lines of a text -/

theorem ended_append (a b : List (List Char)) : ended (a ++ b) = ended a ++ ended b :=
  List.flatMap_append

/-- Cutting a text at its line feeds gives its lines, and nothing behind the last line feed. -/
theorem splitOn_ended {lines : List (List Char)} (h : ∀ line ∈ lines, '\n' ∉ line) :
    (ended lines).splitOn '\n' = lines ++ [[]] := by
  have hjoined : ended lines = ['\n'].intercalate (lines ++ [[]]) := by
    clear h
    induction lines with
    | nil => rfl
    | cons line rest ih =>
      rw [List.cons_append, List.intercalate_cons_of_ne_nil (by simp), ← ih, ended,
        List.flatMap_cons]
      rfl
  rw [hjoined]
  refine List.splitOn_intercalate '\n' (fun line hline => ?_) (by simp)
  rcases List.mem_append.1 hline with hline | hline
  · exact h line hline
  · rw [List.mem_singleton.1 hline]
    exact List.not_mem_nil

/-! ### The text of a report -/

theorem entry_eq (m : Message) (mark : List Char) :
    m.direction.title.toList ++ mark ++ m.entry = m.line mark ++ ['\n'] := by
  have hassoc (front key name signature parser ending : List Char) :
      front ++ (key ++ name ++ signature ++ parser ++ ending) =
        front ++ key ++ name ++ signature ++ parser ++ ending := by
    simp only [List.append_assoc]
  exact hassoc ..

theorem flatMap_text_map (event : Message → ReportEvent) (mark : List Char)
    (h : ∀ m, (event m).text = m.line mark ++ ['\n']) (messages : List Message) :
    (messages.map event).flatMap ReportEvent.text = ended (messages.map (Message.line mark)) := by
  rw [ended, List.flatMap_map, List.flatMap_map]
  exact List.flatMap_congr fun m _ => h m

theorem text_unique (m : Message) : (ReportEvent.unique m).text = m.line [] ++ ['\n'] :=
  calc
    _ = m.direction.title.toList ++ m.entry := rfl
    _ = m.direction.title.toList ++ [] ++ m.entry := by rw [List.append_nil]
    _ = _ := entry_eq m []

theorem text_collision (m : Message) (size : Nat) :
    (ReportEvent.collision m size).text = m.line (collisionMark size) ++ ['\n'] := by
  have hassoc (a b c d e : List Char) : a ++ b ++ c ++ d ++ e = a ++ (b ++ c ++ d) ++ e := by
    simp only [List.append_assoc]
  calc
    _ = m.direction.title.toList ++ "[Collisions: ".toList ++ decimal size ++ [']'] ++ m.entry := rfl
    _ = m.direction.title.toList ++ collisionMark size ++ m.entry := hassoc ..
    _ = _ := entry_eq m (collisionMark size)

theorem text_dead (m : Message) : (ReportEvent.dead m).text = m.line deadMark ++ ['\n'] :=
  entry_eq m deadMark

theorem ended_header (c : Catalog) (text : List Char) :
    ended [[], c.header text] =
      "\n// ".toList ++ c.direction.title.toList ++ (text ++ ['\n']) := by
  rw [ended, List.flatMap_cons, List.flatMap_cons, List.flatMap_nil, List.append_nil, Catalog.header,
    List.append_assoc _ text]
  rfl

theorem text_direction (c : Catalog) : (ReportEvent.direction c.direction c.size).text =
    ended [[], c.header (" Messages | ".toList ++ grouped c.size)] := by
  have hassoc (a b c d : List Char) : a ++ b ++ c ++ d = a ++ (b ++ c ++ d) := by
    simp only [List.append_assoc]
  exact (hassoc ..).trans (ended_header c _).symm

theorem text_collisions (c : Catalog) : (ReportEvent.collisions c.direction).text =
    ended [[], c.header " Message Hash Collisions".toList] := by
  rw [ended_header]
  rfl

theorem text_deadSection (c : Catalog) : (ReportEvent.deadSection c.direction).text =
    ended [[], c.header " Dead Messages".toList] := by
  rw [ended_header]
  rfl

theorem flatMap_text_groupEvents (group : String × List Message) :
    (groupEvents group).flatMap ReportEvent.text =
      ended (group.2.map (Message.line (collisionMark group.2.length))) := by
  rw [groupEvents, List.flatMap_cons, flatMap_text_map _ _ (text_collision · _)]
  exact List.nil_append _

theorem flatMap_text_collisionEvents (c : Catalog) :
    (collisionEvents c.direction c.groups).flatMap ReportEvent.text = ended c.collisionLines := by
  unfold Catalog.collisionLines
  cases c.groups with
  | nil => rfl
  | cons group rest =>
    rw [if_neg (List.cons_ne_nil _ _), collisionEvents, List.flatMap_cons, List.flatMap_assoc,
      ended_append, ← text_collisions, ended, List.flatMap_assoc]
    simp only [flatMap_text_groupEvents]
    rfl

theorem flatMap_text_events (c : Catalog) :
    c.events.flatMap ReportEvent.text = ended c.reportLines := by
  unfold Catalog.events Catalog.reportLines
  simp only [List.flatMap_append, ended_append, flatMap_text_map _ _ text_unique,
    flatMap_text_map _ _ text_dead, flatMap_text_collisionEvents, ← text_direction,
    ← text_deadSection, List.flatMap_cons, List.flatMap_nil, List.append_nil]

theorem Revision.fullText_eq (r : Revision) : r.fullText = ended r.reportLines := by
  have hlabel : (ReportEvent.revision r.label).text = ended ["// ".toList ++ r.label.toList] := by
    rw [ended, List.flatMap_cons, List.flatMap_nil, List.append_nil]
    rfl
  unfold fullText events reportLines
  simp only [List.flatMap_append, ended_append, flatMap_text_events, ← hlabel, List.flatMap_cons,
    List.flatMap_nil, List.append_nil]

/-! ### No line feeds in a line -/

theorem lineFeed_notMem_grouped (n : Nat) : '\n' ∉ grouped n := fun h =>
  absurd (isDigit_or_eq_of_mem_grouped h) (by decide)

theorem lineFeed_notMem_collisionMark (size : Nat) : '\n' ∉ collisionMark size := by
  unfold collisionMark
  simp only [List.mem_append, not_or]
  exact ⟨⟨by decide, lineFeed_notMem_decimal size⟩, by decide⟩

theorem lineFeed_notMem_title (d : Direction) : '\n' ∉ d.title.toList := by
  cases d <;> decide

theorem Catalog.lineFeed_notMem_header (c : Catalog) {text : List Char} (h : '\n' ∉ text) :
    '\n' ∉ c.header text := by
  unfold header
  simp only [List.mem_append, not_or]
  exact ⟨⟨by decide, lineFeed_notMem_title _⟩, h⟩

theorem Message.IsOneLine.lineFeed_notMem_line {m : Message} (h : m.IsOneLine) {mark : List Char}
    (hmark : '\n' ∉ mark) : '\n' ∉ m.line mark := by
  have hparser : '\n' ∉ m.parserPart := by
    unfold parserPart
    split
    · rename_i parser hparser
      simp only [List.mem_append, not_or]
      exact ⟨⟨by decide, h.parser parser hparser⟩, by decide⟩
    · exact List.not_mem_nil
  have hkey : '\n' ∉ ['['] ++ decimal m.id.toNat ++ ", ".toList ++ m.fingerprint.toList ++
      "] = ".toList := by
    simp only [List.mem_append, not_or]
    exact ⟨⟨⟨⟨by decide, lineFeed_notMem_decimal _⟩, by decide⟩, h.fingerprint⟩, by decide⟩
  unfold line
  simp only [List.mem_append, not_or] at hkey ⊢
  exact ⟨⟨⟨⟨⟨lineFeed_notMem_title _, hmark⟩, hkey⟩, h.name⟩, h.signature⟩, hparser⟩

theorem Catalog.lineFeed_notMem_reportLines {c : Catalog} (h : ∀ m ∈ c.messages, m.IsOneLine) :
    ∀ line ∈ c.reportLines, '\n' ∉ line := by
  have hmessages (messages : List Message) (mark : List Char) (hmark : '\n' ∉ mark)
      (hsub : messages ⊆ c.messages) : ∀ line ∈ messages.map (Message.line mark), '\n' ∉ line := by
    intro line hline
    obtain ⟨m, hm, rfl⟩ := List.mem_map.1 hline
    exact (h m (hsub hm)).lineFeed_notMem_line hmark
  have hopening {text : List Char} (htext : '\n' ∉ text) : ∀ line ∈ [[], c.header text], '\n' ∉ line := by
    simpa using c.lineFeed_notMem_header htext
  have hcollisions : ∀ line ∈ c.collisionLines, '\n' ∉ line := by
    unfold collisionLines
    split_ifs
    · nofun
    refine List.forall_mem_append.2 ⟨hopening (by decide), fun line hline => ?_⟩
    obtain ⟨group, hgroup, hline⟩ := List.mem_flatMap.1 hline
    refine hmessages group.2 _ (lineFeed_notMem_collisionMark _) (fun m hm => ?_) line hline
    rw [(mem_groups.1 hgroup).1] at hm
    exact (mem_liveWith.1 hm).1
  have htotal : '\n' ∉ " Messages | ".toList ++ grouped c.size :=
    List.not_mem_append (by decide) (lineFeed_notMem_grouped _)
  unfold reportLines
  simp only [List.forall_mem_append]
  exact ⟨⟨⟨⟨hopening htotal, hmessages _ [] (by decide) List.filter_sublist.subset⟩, hcollisions⟩,
    hopening (by decide)⟩, hmessages _ deadMark (by decide) List.filter_sublist.subset⟩

theorem Revision.IsOneLined.lineFeed_notMem_reportLines {r : Revision} (h : r.IsOneLined) :
    ∀ line ∈ r.reportLines, '\n' ∉ line := by
  have hlabel : '\n' ∉ "// ".toList ++ r.label.toList := List.not_mem_append (by decide) h.label
  unfold reportLines
  simp only [List.forall_mem_append, List.forall_mem_singleton]
  exact ⟨⟨hlabel, Catalog.lineFeed_notMem_reportLines (h.messages .outgoing)⟩,
    Catalog.lineFeed_notMem_reportLines (h.messages .incoming)⟩

/-! ### The sections of a catalog -/

namespace Catalog

theorem mem_uniqueMessages {c : Catalog} {m : Message} :
    m ∈ c.uniqueMessages ↔ m ∈ c.messages ∧ 0 < m.references ∧
      ∀ n ∈ c.messages, 0 < n.references → n.fingerprint = m.fingerprint → n = m := by
  unfold uniqueMessages
  simp only [List.mem_filter, Bool.and_eq_true, Bool.not_eq_true', Message.isDead_eq_false_iff,
    beq_iff_eq]
  refine and_congr_right fun hm => and_congr_right fun hlive => ?_
  have hself : m ∈ liveWith m.fingerprint c.messages := mem_liveWith.2 ⟨hm, hlive, rfl⟩
  have hascending := liveWith_ascending c m.fingerprint
  constructor
  · intro hlength n hn hnlive hprint
    obtain ⟨a, ha⟩ := List.length_eq_one_iff.1 hlength
    have hother : n ∈ liveWith m.fingerprint c.messages := mem_liveWith.2 ⟨hn, hnlive, hprint⟩
    rw [ha, List.mem_singleton] at hself hother
    rw [hself, hother]
  · intro hsole
    have hall : ∀ n ∈ liveWith m.fingerprint c.messages, n = m := fun n hn =>
      let ⟨hn, hnlive, hprint⟩ := mem_liveWith.1 hn
      hsole n hn hnlive hprint
    -- a second message would be another with a higher id
    match liveWith m.fingerprint c.messages, hself, hascending, hall with
    | [_], _, _, _ => rfl
    | a :: b :: _, _, hascending, hall =>
      have hlt := (List.pairwise_cons.1 hascending).1 b List.mem_cons_self
      rw [hall a List.mem_cons_self, hall b (.tail _ List.mem_cons_self)] at hlt
      exact absurd hlt (UInt32.lt_irrefl _)

theorem sections (c : Catalog) : c.Sections c.uniqueMessages c.groups c.deadMessages where
  perm := c.sections_perm
  mem_unique _ := mem_uniqueMessages
  mem_groups fingerprint group := by
    rw [Catalog.mem_groups, liveWith_eq_filter, and_comm]
  mem_dead m := by
    simp [deadMessages, Message.isDead]
  unique_ascending := c.ascending.filter _
  groups_ascending := c.groups_ascending
  members_ascending group hgroup := by
    rw [(Catalog.mem_groups.1 hgroup).1]
    exact liveWith_ascending c group.1
  dead_ascending := c.ascending.filter _

end Catalog

/-! ## Main theorem -/

/-- The whole report is written, and its lines are those of the revision: every message stands on one
line of the section that it belongs to, the sections are in order, the numbers of messages are in groups
of three digits, and no line of an outgoing message names a parser. -/
theorem Revision.splitOn_report (r : Revision) (h : r.IsOneLined) :
    (r.reportOn {}).2 = true ∧
    r.report.toList.splitOn '\n' = r.reportLines ++ [[]] ∧
    (∀ d, let c := r.catalog d
      c.Sections c.uniqueMessages c.groups c.deadMessages ∧
        ∃ groups, grouped c.size = [','].intercalate groups ∧ IsGrouping groups (decimal c.size)) ∧
    ∀ m ∈ (r.catalog .outgoing).messages, m.parserPart = [] := by
  refine ⟨?_, ?_, fun d => ⟨(r.catalog d).sections, exists_grouped _⟩, fun m hm => ?_⟩
  · rw [r.reportOn_eq, show ({} : Page) = ⟨none, []⟩ from rfl, Page.write_unlimited]
  · rw [r.report_eq, String.toList_ofList, r.fullText_eq]
    exact splitOn_ended h.lineFeed_notMem_reportLines
  · rw [Message.parserPart, r.outgoing.parser_eq_none r.outgoing_direction m hm]

/-- A collision beside a unique message, and a dead message with a parser. -/
theorem Revision.splitOn_report_collision :
    let message (id : MessageId) (fingerprint name : String) : Message :=
      { id, fingerprint, direction := .outgoing, name, signature := "()" }
    let event : Message :=
      { id := 2, fingerprint := "x", direction := .incoming, references := 0, name := "E",
        signature := "(k:int)", parser := "P" }
    let r : Revision :=
      ⟨"v1", ⟨.outgoing, [message 3 "f" "A", message 5 "g" "B", message 7 "f" "C"], by decide, by decide,
        by decide⟩, ⟨.incoming, [event], by decide, by decide, by decide⟩, rfl, rfl⟩
    r.IsOneLined ∧ r.report.toList.splitOn '\n' =
      ["// v1", "", "// Outgoing Messages | 3", "Outgoing[5, g] = B()", "",
        "// Outgoing Message Hash Collisions", "Outgoing[Collisions: 2][3, f] = A()",
        "Outgoing[Collisions: 2][7, f] = C()", "", "// Outgoing Dead Messages", "",
        "// Incoming Messages | 1", "", "// Incoming Dead Messages",
        "Incoming[Dead][2, x] = E(k:int)[Parser: P]", ""].map String.toList := by
  intro message event r
  have h : r.IsOneLined := by
    refine ⟨by decide, fun d => ?_⟩
    cases d <;> decide
  refine ⟨h, (r.splitOn_report h).2.1.trans ?_⟩
  decide

end Renumber
