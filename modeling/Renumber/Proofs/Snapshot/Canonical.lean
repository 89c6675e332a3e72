import Mathlib.Data.List.Perm.Basic
import Renumber.Proofs.Catalog.Build
import Renumber.Report.Text
import Renumber.Snapshot.Revision

/-!
# What becomes of a snapshot that is read and stored again

Reading drops the parsers of outgoing messages and parsers without a name, and sorts; storing writes
the outgoing messages first, by id.  So of each entry its canonical form stays
(`SnapshotEntry.canonical`), and a snapshot is read as a revision exactly if the canonical forms of its
entries are those that the revision is stored as, in another order (`Revision.ofSnapshot_eq_ok_iff`).

Everything else follows from this: what is stored is read back, storing again changes nothing, and the
order of the entries does not matter (`Snapshot.ofRevision_isCanonical`).
-/

namespace Renumber

/-! ## Canonical forms -/

/-- The entry without a parser if it is outgoing or its parser has no name. -/
def SnapshotEntry.canonical (e : SnapshotEntry) : SnapshotEntry :=
  { e with
    parser := if e.direction = Direction.outgoing.number then none else e.parser.filter (· ≠ "") }

/-- The order in which messages are stored: outgoing before incoming, then by id. -/
def SnapshotEntry.Before (e f : SnapshotEntry) : Prop :=
  e.direction = Direction.outgoing.number ∧ f.direction = Direction.incoming.number ∨
    e.direction = f.direction ∧ e.id < f.id

def Message.withoutEmptyParser (m : Message) : Message :=
  { m with parser := m.parser.filter (· ≠ "") }

def Catalog.withoutEmptyParsers (c : Catalog) : Catalog where
  direction := c.direction
  messages := c.messages.map Message.withoutEmptyParser
  ascending := List.pairwise_map.2 c.ascending
  direction_eq := by
    intro m hm
    obtain ⟨m', hm', rfl⟩ := List.mem_map.1 hm
    exact c.direction_eq m' hm'
  parser_eq_none := by
    intro hd m hm
    obtain ⟨m', hm', rfl⟩ := List.mem_map.1 hm
    simp [Message.withoutEmptyParser, c.parser_eq_none hd m' hm']

/-- The revision whose incoming messages have no parser instead of one without a name. -/
def Revision.withoutEmptyParsers (r : Revision) : Revision where
  label := r.label
  outgoing := r.outgoing
  incoming := r.incoming.withoutEmptyParsers
  outgoing_direction := r.outgoing_direction
  incoming_direction := r.incoming_direction

/-! ## Entries and messages -/

theorem Direction.number_inj {d d' : Direction} (h : d.number = d'.number) : d = d' := by
  cases d <;> cases d' <;> first | rfl | exact absurd h (by decide)

/-- The message as the catalog of its direction keeps it. -/
def Message.normalized (m : Message) : Message := Catalog.normalize m.direction m

@[simp] theorem Message.normalized_direction (m : Message) : m.normalized.direction = m.direction :=
  Catalog.normalize_direction _ _

theorem Message.withoutEmptyParser_of_none (m : Message) (h : m.parser = none) :
    m.withoutEmptyParser = m := by
  obtain ⟨id, fingerprint, direction, references, signature, name, parser⟩ := m
  subst h
  rfl

namespace SnapshotEntry

variable {e : SnapshotEntry} {m : Message}

theorem ofMessage_injective : Function.Injective ofMessage := by
  intro m m' h
  obtain ⟨id, fingerprint, direction, references, signature, name, parser⟩ := m
  obtain ⟨id', fingerprint', direction', references', signature', name', parser'⟩ := m'
  simp only [ofMessage, mk.injEq] at h
  obtain ⟨rfl, rfl, hd, rfl, rfl, rfl, rfl⟩ := h
  rw [Direction.number_inj hd]

theorem direction?_eq_ok_iff {d : Direction} : e.direction? = .ok d ↔ e.direction = d.number := by
  unfold direction?
  cases d <;> grind [Direction.number]

/-- A message that was read from an entry is stored as the canonical form of the entry. -/
theorem ofMessage_normalized (h : e.message? = .ok m) : ofMessage m.normalized = e.canonical := by
  obtain ⟨d, hd, rfl⟩ := map_eq_ok h
  rw [direction?_eq_ok_iff] at hd
  unfold canonical
  rw [hd]
  cases d with
  | outgoing => rw [if_pos rfl]; simp [Message.normalized, Catalog.normalize, ofMessage]
  | incoming => rw [if_neg (by decide)]; rfl

theorem exists_message?_eq_ok {d : Direction} (h : e.direction = d.number) :
    ∃ m, e.message? = .ok m := by
  unfold message?
  rw [direction?_eq_ok_iff.2 h]
  exact ⟨_, rfl⟩

theorem canonical_direction (e : SnapshotEntry) : e.canonical.direction = e.direction := rfl

theorem map_canonical {entries : List SnapshotEntry} {messages : List Message}
    (h : entries.mapM message? = .ok messages) :
    entries.map canonical = (messages.map Message.normalized).map ofMessage := by
  have hall := mapM_eq_ok_iff.1 h
  clear h
  induction hall with
  | nil => rfl
  | cons hm _ ih => rw [List.map_cons, List.map_cons, List.map_cons, ih, ofMessage_normalized hm]

end SnapshotEntry

/-! ## Snapshots and revisions -/

namespace Revision

/-- All messages, in the order in which they are stored. -/
def messages (r : Revision) : List Message := r.outgoing.messages ++ r.incoming.messages

theorem entries_ofRevision (r : Revision) :
    (Snapshot.ofRevision r).entries = r.messages.map SnapshotEntry.ofMessage := by
  simp [Snapshot.ofRevision, Direction.all, messages, catalog]

theorem filter_messages (r : Revision) (d : Direction) :
    r.messages.filter (·.direction = d) = (r.catalog d).messages := by
  have hsame : ∀ d, (r.catalog d).messages.filter (·.direction = d) = (r.catalog d).messages := by
    intro d
    refine List.filter_eq_self.2 fun m hm => ?_
    simpa [r.catalog_direction d] using (r.catalog d).direction_eq m hm
  have hother : ∀ d d', d ≠ d' → (r.catalog d).messages.filter (·.direction = d') = [] := by
    intro d d' hd
    refine List.filter_eq_nil_iff.2 fun m hm => ?_
    simpa [(r.catalog d).direction_eq m hm, r.catalog_direction d] using hd
  have hsplit : r.messages.filter (·.direction = d) =
      (r.catalog .outgoing).messages.filter (·.direction = d) ++
        (r.catalog .incoming).messages.filter (·.direction = d) := List.filter_append ..
  cases d with
  | outgoing => rw [hsplit, hsame, hother _ _ (by decide), List.append_nil]
  | incoming => rw [hsplit, hsame, hother _ _ (by decide), List.nil_append]

theorem filter_map_normalized (messages : List Message) (d : Direction) :
    (messages.map Message.normalized).filter (·.direction = d) =
      (messages.filter (·.direction = d)).map (Catalog.normalize d) := by
  simp only [List.filter_map, Function.comp_def, Message.normalized_direction]
  refine List.map_congr_left fun m hm => ?_
  have hd : m.direction = d := by simpa using (List.mem_filter.1 hm).2
  rw [Message.normalized, hd]

theorem filter_direction_perm (messages : List Message) :
    (messages.filter (·.direction = .outgoing) ++
      messages.filter (·.direction = .incoming)).Perm messages := by
  have hnot : ∀ m : Message,
      (!decide (m.direction = .outgoing)) = decide (m.direction = .incoming) := by
    intro m
    cases m.direction <;> rfl
  have h := List.filter_append_perm (fun m : Message => decide (m.direction = .outgoing)) messages
  simpa only [hnot] using h

/-- A list of messages holds those of a revision if its parts hold those of the catalogs. -/
theorem messages_perm_iff {r : Revision} {messages : List Message} :
    r.messages.Perm (messages.map Message.normalized) ↔ ∀ d, (r.catalog d).messages.Perm
      ((messages.filter (·.direction = d)).map (Catalog.normalize d)) := by
  constructor
  · intro h d
    rw [← filter_messages, ← filter_map_normalized]
    exact h.filter _
  · intro h
    have hsplit := filter_direction_perm (messages.map Message.normalized)
    rw [filter_map_normalized, filter_map_normalized] at hsplit
    exact ((h .outgoing).append (h .incoming)).trans hsplit

theorem ofSnapshot_eq_ok_iff_catalogs {s : Snapshot} {r : Revision} :
    ofSnapshot s = .ok r ↔ r.label = s.label ∧
      ∃ messages, s.entries.mapM SnapshotEntry.message? = .ok messages ∧
        ∀ d, Catalog.ofMessages d (messages.filter (·.direction = d)) = .ok (r.catalog d) := by
  unfold ofSnapshot
  constructor
  · intro h
    split at h
    · cases h
    · rename_i messages hmessages
      obtain ⟨outgoing, hout, h⟩ := bind_eq_ok h
      obtain ⟨incoming, hin, h⟩ := bind_eq_ok h
      unfold ofCatalogs at h
      split at h
      · split at h
        · cases h
          refine ⟨rfl, messages, hmessages, fun d => ?_⟩
          cases d with
          | outgoing => exact hout
          | incoming => exact hin
        · cases h
      · cases h
  · rintro ⟨hlabel, messages, hmessages, h⟩
    have hout : Catalog.ofMessages .outgoing (messages.filter (·.direction = .outgoing)) =
      .ok r.outgoing := h .outgoing
    have hin : Catalog.ofMessages .incoming (messages.filter (·.direction = .incoming)) =
      .ok r.incoming := h .incoming
    have hcatalogs : ofCatalogs s.label r.outgoing r.incoming = .ok r := by
      unfold ofCatalogs
      rw [dif_pos r.outgoing_direction, dif_pos r.incoming_direction, ← hlabel]
    rw [hmessages]
    simp only [hout, hin]
    exact hcatalogs

/-- A snapshot is read as a revision if the canonical forms of its entries are those that the revision
is stored as, in some order. -/
theorem ofSnapshot_eq_ok_iff {s : Snapshot} {r : Revision} :
    ofSnapshot s = .ok r ↔ r.label = s.label ∧
      (Snapshot.ofRevision r).entries.Perm (s.entries.map SnapshotEntry.canonical) := by
  rw [ofSnapshot_eq_ok_iff_catalogs, entries_ofRevision]
  refine and_congr_right fun _ => ?_
  constructor
  · rintro ⟨messages, hmessages, h⟩
    rw [SnapshotEntry.map_canonical hmessages]
    refine (messages_perm_iff.2 fun d => ?_).map _
    exact (Catalog.ofMessages_eq_ok_iff.1 (h d)).2.2
  · intro hperm
    have hread : ∀ e ∈ s.entries, ∃ m, e.message? = .ok m := by
      intro e he
      obtain ⟨m, -, hm⟩ := List.mem_map.1 (hperm.mem_iff.2 (List.mem_map_of_mem he))
      have hd : e.direction = m.direction.number := by
        rw [← e.canonical_direction, ← hm]
        rfl
      exact SnapshotEntry.exists_message?_eq_ok hd
    obtain ⟨messages, hmessages⟩ := exists_mapM_eq_ok hread
    rw [SnapshotEntry.map_canonical hmessages,
      List.map_perm_map_iff SnapshotEntry.ofMessage_injective, messages_perm_iff] at hperm
    refine ⟨messages, hmessages, fun d => ?_⟩
    rw [Catalog.ofMessages_eq_ok_iff]
    exact ⟨r.catalog_direction d, by simp, hperm d⟩

end Revision

/-! ## Storing a revision -/

namespace SnapshotEntry

theorem canonical_canonical (e : SnapshotEntry) : e.canonical.canonical = e.canonical := by
  unfold canonical
  by_cases hd : e.direction = Direction.outgoing.number <;> simp [hd]

theorem canonical_ofMessage {m : Message} (h : m.direction = .outgoing → m.parser = none) :
    (ofMessage m).canonical = ofMessage m.withoutEmptyParser := by
  unfold canonical ofMessage Message.withoutEmptyParser
  cases hd : m.direction with
  | outgoing => simp [h hd]
  | incoming => simp [Direction.number]

end SnapshotEntry

theorem Catalog.pairwise_before (c : Catalog) : c.messages.Pairwise fun a b =>
    (SnapshotEntry.ofMessage a).Before (SnapshotEntry.ofMessage b) := by
  refine c.ascending.imp_of_mem fun ha hb hlt => Or.inr ⟨congrArg Direction.number ?_, hlt⟩
  rw [c.direction_eq _ ha, c.direction_eq _ hb]

namespace Revision

theorem pairwise_before (r : Revision) :
    (Snapshot.ofRevision r).entries.Pairwise SnapshotEntry.Before := by
  rw [entries_ofRevision, List.pairwise_map]
  refine List.pairwise_append.2 ⟨r.outgoing.pairwise_before, r.incoming.pairwise_before, ?_⟩
  intro a ha b hb
  refine Or.inl ⟨congrArg Direction.number ?_, congrArg Direction.number ?_⟩
  · exact (r.outgoing.direction_eq a ha).trans r.outgoing_direction
  · exact (r.incoming.direction_eq b hb).trans r.incoming_direction

theorem parser_eq_none_of_mem {r : Revision} {m : Message} (hm : m ∈ r.messages)
    (hd : m.direction = .outgoing) : m.parser = none := by
  have hmem : m ∈ (r.catalog .outgoing).messages := by
    rw [← filter_messages, List.mem_filter]
    exact ⟨hm, by simpa using hd⟩
  exact r.outgoing.parser_eq_none r.outgoing_direction m hmem

theorem messages_withoutEmptyParsers (r : Revision) :
    r.withoutEmptyParsers.messages = r.messages.map Message.withoutEmptyParser := by
  have hout : r.outgoing.messages.map Message.withoutEmptyParser = r.outgoing.messages := by
    refine (List.map_congr_left fun m hm => ?_).trans (List.map_id _)
    exact m.withoutEmptyParser_of_none (r.outgoing.parser_eq_none r.outgoing_direction m hm)
  unfold messages
  rw [List.map_append, hout]
  rfl

theorem map_canonical_ofRevision (r : Revision) :
    (Snapshot.ofRevision r).entries.map SnapshotEntry.canonical =
      (Snapshot.ofRevision r.withoutEmptyParsers).entries := by
  rw [entries_ofRevision, entries_ofRevision, messages_withoutEmptyParsers, List.map_map, List.map_map]
  exact List.map_congr_left fun m hm =>
    SnapshotEntry.canonical_ofMessage fun hd => parser_eq_none_of_mem hm hd

theorem ofSnapshot_ofRevision (r : Revision) :
    ofSnapshot (Snapshot.ofRevision r) = .ok r.withoutEmptyParsers := by
  rw [ofSnapshot_eq_ok_iff, map_canonical_ofRevision]
  exact ⟨rfl, .rfl⟩

/-- A revision that was read is read again from what it is stored as. -/
theorem ofSnapshot_ofRevision_of_ofSnapshot {s : Snapshot} {r : Revision} (h : ofSnapshot s = .ok r) :
    ofSnapshot (Snapshot.ofRevision r) = .ok r := by
  obtain ⟨-, hperm⟩ := ofSnapshot_eq_ok_iff.1 h
  have htwice := hperm.map SnapshotEntry.canonical
  rw [List.map_map] at htwice
  simp only [Function.comp_def, SnapshotEntry.canonical_canonical] at htwice
  exact ofSnapshot_eq_ok_iff.2 ⟨rfl, hperm.trans htwice.symm⟩

theorem ofSnapshot_congr {s t : Snapshot} (hlabel : s.label = t.label)
    (hperm : s.entries.Perm t.entries) {r : Revision} (h : ofSnapshot s = .ok r) :
    ofSnapshot t = .ok r := by
  rw [ofSnapshot_eq_ok_iff, hlabel] at h
  exact ofSnapshot_eq_ok_iff.2 ⟨h.1, h.2.trans (hperm.map _)⟩

end Revision

/-! ## Main theorem -/

namespace Snapshot

/-- A revision is read back from what it is stored as but for parsers without a name; a snapshot that
is read is stored as the canonical forms of its entries, in order, and remains so; and the order of its
entries does not matter. -/
theorem ofRevision_isCanonical :
    (∀ r : Revision, Revision.ofSnapshot (ofRevision r) = .ok r.withoutEmptyParsers) ∧
    (∀ (s : Snapshot) (r : Revision), Revision.ofSnapshot s = .ok r →
      Revision.ofSnapshot (ofRevision r) = .ok r ∧
      (ofRevision r).label = s.label ∧
      (ofRevision r).entries.Perm (s.entries.map SnapshotEntry.canonical) ∧
      (ofRevision r).entries.Pairwise SnapshotEntry.Before ∧
      (Revision.ofSnapshot (ofRevision r)).map ofRevision = .ok (ofRevision r)) ∧
    ∀ s t : Snapshot, s.label = t.label → s.entries.Perm t.entries →
      ((∃ r, Revision.ofSnapshot s = .ok r) ↔ ∃ r, Revision.ofSnapshot t = .ok r) ∧
      ∀ r r', Revision.ofSnapshot s = .ok r → Revision.ofSnapshot t = .ok r' →
        r = r' ∧ (ofRevision r).bytes = (ofRevision r').bytes ∧ r.report = r'.report := by
  refine ⟨Revision.ofSnapshot_ofRevision, ?_, ?_⟩
  · intro s r h
    obtain ⟨hlabel, hperm⟩ := Revision.ofSnapshot_eq_ok_iff.1 h
    have hagain := Revision.ofSnapshot_ofRevision_of_ofSnapshot h
    exact ⟨hagain, hlabel, hperm, r.pairwise_before, by rw [hagain]; rfl⟩
  · intro s t hlabel hperm
    refine ⟨⟨?_, ?_⟩, ?_⟩
    · rintro ⟨r, h⟩
      exact ⟨r, Revision.ofSnapshot_congr hlabel hperm h⟩
    · rintro ⟨r, h⟩
      exact ⟨r, Revision.ofSnapshot_congr hlabel.symm hperm.symm h⟩
    · intro r r' h h'
      obtain rfl : r = r' := Except.ok.inj
        ((Revision.ofSnapshot_congr hlabel hperm h).symm.trans h')
      exact ⟨rfl, rfl, rfl⟩

/-- A parser without a name and one of an outgoing message, and the same entries the other way
round. -/
theorem ofRevision_isCanonical_twoOrders :
    let e : SnapshotEntry := { id := 3, fingerprint := "b", direction := 2, parser := some "" }
    let f : SnapshotEntry := { id := 7, fingerprint := "a", direction := 1, parser := some "P" }
    let s : Snapshot := { label := "v", entries := [e, f] }
    let t : Snapshot := { label := "v", entries := [f, e] }
    ∃ r, Revision.ofSnapshot s = .ok r ∧ Revision.ofSnapshot (ofRevision r) = .ok r ∧
      (ofRevision r).entries.Perm [{ e with parser := none }, { f with parser := none }] ∧
      (ofRevision r).entries.Pairwise SnapshotEntry.Before ∧
      s.label = t.label ∧ s.entries.Perm t.entries ∧
      ∃ r', Revision.ofSnapshot t = .ok r' ∧ r = r' ∧
        (ofRevision r).bytes = (ofRevision r').bytes := by
  intro e f s t
  obtain ⟨r, hr⟩ : ∃ r, Revision.ofSnapshot s = .ok r := ⟨_, rfl⟩
  obtain ⟨hagain, -, hperm, hbefore, -⟩ := ofRevision_isCanonical.2.1 s r hr
  have hswap : s.entries.Perm t.entries := .swap f e []
  obtain ⟨hboth, hsame⟩ := ofRevision_isCanonical.2.2 s t rfl hswap
  obtain ⟨r', hr'⟩ := hboth.1 ⟨r, hr⟩
  obtain ⟨heq, hbytes, -⟩ := hsame r r' hr hr'
  exact ⟨r, hr, hagain, hperm, hbefore, rfl, hswap, r', hr', heq, hbytes⟩

end Snapshot

end Renumber
