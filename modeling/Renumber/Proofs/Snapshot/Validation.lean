import Renumber.Proofs.Catalog.Refusal
import Renumber.Proofs.Snapshot.Halves

/-!
# Which snapshots are refused, and why

A snapshot is accepted if every entry has a direction and no two entries have the same direction and
id.  What is wrong with any other one is looked for in three rounds over its entries: for the first one
without a direction, then for the first outgoing id that occurred before, then for the first such
incoming id.  `Snapshot.Refusal` lists the errors with these conditions.

    ofSnapshot s = .error e ↔ s.Refusal e                       (Revision.ofSnapshot_validates)

The messages that the catalogs are built from are those of the halves of the snapshot, so that neither a
message of the wrong direction nor a pair of catalogs the wrong way round occurs.
-/

namespace Renumber

/-- An entry that is outgoing or incoming. -/
def SnapshotEntry.IsDirected (e : SnapshotEntry) : Prop := e.direction = 1 ∨ e.direction = 2

/-- The ids of the entries of one direction, in the order of the entries. -/
def Snapshot.ids (d : Direction) (s : Snapshot) : List MessageId := (s.half d).map (·.id)

/-- What is wrong with a snapshot that is no revision. -/
inductive Snapshot.Refusal (s : Snapshot) : Error → Prop
  | noDirection {before after : List SnapshotEntry} {e : SnapshotEntry}
      (h : s.entries = before ++ e :: after) (hbefore : ∀ f ∈ before, f.IsDirected)
      (hzero : e.direction = 0) : Refusal s (.invalidSnapshot (.noDirection e.id))
  | unknownDirection {before after : List SnapshotEntry} {e : SnapshotEntry}
      (h : s.entries = before ++ e :: after) (hbefore : ∀ f ∈ before, f.IsDirected)
      (hzero : e.direction ≠ 0) (he : ¬ e.IsDirected) :
      Refusal s (.invalidSnapshot (.unknownDirection e.id e.direction))
  | repeatedOutgoing {id : MessageId} (hall : ∀ e ∈ s.entries, e.IsDirected)
      (h : IsFirstRepeat (s.ids .outgoing) id) : Refusal s (.duplicateId .outgoing id)
  | repeatedIncoming {id : MessageId} (hall : ∀ e ∈ s.entries, e.IsDirected)
      (hout : (s.ids .outgoing).Nodup) (h : IsFirstRepeat (s.ids .incoming) id) :
      Refusal s (.duplicateId .incoming id)

/-! ## Lemmas -/

namespace SnapshotEntry

variable {e : SnapshotEntry}

theorem isDirected_iff : e.IsDirected ↔ ∃ m, e.message? = .ok m := by
  constructor
  · rintro (h | h)
    · exact exists_message?_eq_ok (d := .outgoing) h
    · exact exists_message?_eq_ok (d := .incoming) h
  · rintro ⟨m, h⟩
    obtain ⟨d, hd, -⟩ := map_eq_ok h
    rw [direction?_eq_ok_iff] at hd
    cases d with
    | outgoing => exact Or.inl hd
    | incoming => exact Or.inr hd

theorem message?_eq_error_iff {fault : SnapshotFault} :
    e.message? = .error fault ↔ e.direction = 0 ∧ fault = .noDirection e.id ∨
      e.direction ≠ 0 ∧ ¬ e.IsDirected ∧ fault = .unknownDirection e.id e.direction := by
  unfold message? direction? IsDirected
  by_cases h0 : e.direction = 0
  · simp [h0, Except.map, eq_comm]
  by_cases h1 : e.direction = 1
  · simp [h1, Except.map]
  by_cases h2 : e.direction = 2
  · simp [h2, Except.map]
  · simp [h0, h1, h2, Except.map, eq_comm]

end SnapshotEntry

namespace Snapshot

variable {s : Snapshot} {messages : List Message} {d : Direction} {err : Error}

/-- Directions are looked at first, up to the first entry without one. -/
theorem mapM_message?_eq_error_iff {fault : SnapshotFault} :
    s.entries.mapM SnapshotEntry.message? = .error fault ↔ ∃ before e after,
      s.entries = before ++ e :: after ∧ (∀ f ∈ before, f.IsDirected) ∧
        e.message? = .error fault := by
  simp only [mapM_eq_error_iff, SnapshotEntry.isDirected_iff]

theorem exists_mapM_message?_eq_ok_iff :
    (∃ messages, s.entries.mapM SnapshotEntry.message? = .ok messages) ↔
      ∀ e ∈ s.entries, e.IsDirected := by
  simp only [SnapshotEntry.isDirected_iff]
  constructor
  · rintro ⟨messages, h⟩ e he
    obtain ⟨i, hi, rfl⟩ := List.getElem_of_mem he
    have hall := mapM_eq_ok_iff.1 h
    exact ⟨_, hall.get hi (hall.length_eq ▸ hi)⟩
  · exact exists_mapM_eq_ok

/-- The messages of a direction have the ids of its entries. -/
theorem map_id_filter (h : s.entries.mapM SnapshotEntry.message? = .ok messages) (d : Direction) :
    (messages.filter (·.direction = d)).map (·.id) = s.ids d := by
  have hall := mapM_eq_ok_iff.1 h
  unfold ids half
  clear h
  generalize s.entries = entries at hall ⊢
  induction hall with
  | nil => rfl
  | @cons e m entries messages hm _ ih =>
    obtain ⟨d', hd', rfl⟩ := map_eq_ok hm
    rw [SnapshotEntry.direction?_eq_ok_iff] at hd'
    have hsame : e.direction = d.number ↔ d' = d := by
      rw [hd']
      exact ⟨Direction.number_inj, congrArg Direction.number⟩
    by_cases hd : d' = d
    · simp [hsame, hd, ih]
    · simp [hsame, hd, ih]

theorem ofMessages_half_eq_error_iff
    (h : s.entries.mapM SnapshotEntry.message? = .ok messages) :
    Catalog.ofMessages d (messages.filter (·.direction = d)) = .error err ↔
      ∃ id, IsFirstRepeat (s.ids d) id ∧ err = .duplicateId d id := by
  rw [Catalog.ofMessages_eq_error_iff_isFirstRepeat (by simp), map_id_filter h]

theorem exists_ofMessages_half_eq_ok_iff
    (h : s.entries.mapM SnapshotEntry.message? = .ok messages) :
    (∃ c, Catalog.ofMessages d (messages.filter (·.direction = d)) = .ok c) ↔
      (s.ids d).Nodup := by
  rw [Catalog.exists_ofMessages_eq_ok_iff, map_id_filter h]
  simp

/-- No two entries share direction and id if no id is repeated in either direction. -/
theorem pairwise_iff_nodup_ids (hall : ∀ e ∈ s.entries, e.IsDirected) :
    (s.entries.Pairwise fun e f => ¬ (e.direction = f.direction ∧ e.id = f.id)) ↔
      (s.ids .outgoing).Nodup ∧ (s.ids .incoming).Nodup := by
  unfold ids half List.Nodup
  rw [List.pairwise_map, List.pairwise_map, List.pairwise_filter, List.pairwise_filter,
    ← List.pairwise_and_iff]
  refine List.Pairwise.iff_of_mem fun {e f} he hf => ?_
  rcases hall e he with hd | hd <;> rcases hall f hf with hd' | hd' <;>
    simp [hd, hd', Direction.number]

end Snapshot

/-! ## Main theorem -/

namespace Revision

open Snapshot

variable {s : Snapshot} {messages : List Message}

theorem exists_ofSnapshot_eq_ok_iff :
    (∃ r, ofSnapshot s = .ok r) ↔
      (∀ e ∈ s.entries, e.IsDirected) ∧ (s.ids .outgoing).Nodup ∧ (s.ids .incoming).Nodup := by
  constructor
  · rintro ⟨r, h⟩
    obtain ⟨-, messages, hmessages, hcatalogs⟩ := ofSnapshot_eq_ok_iff_catalogs.1 h
    exact ⟨exists_mapM_message?_eq_ok_iff.1 ⟨messages, hmessages⟩,
      (exists_ofMessages_half_eq_ok_iff hmessages).1 ⟨_, hcatalogs .outgoing⟩,
      (exists_ofMessages_half_eq_ok_iff hmessages).1 ⟨_, hcatalogs .incoming⟩⟩
  · rintro ⟨hall, hout, hin⟩
    obtain ⟨messages, hmessages⟩ := exists_mapM_message?_eq_ok_iff.2 hall
    obtain ⟨outgoing, hout⟩ := (exists_ofMessages_half_eq_ok_iff hmessages).2 hout
    obtain ⟨incoming, hin⟩ := (exists_ofMessages_half_eq_ok_iff hmessages).2 hin
    refine ⟨⟨s.label, outgoing, incoming, (Catalog.ofMessages_eq_ok_iff.1 hout).1,
      (Catalog.ofMessages_eq_ok_iff.1 hin).1⟩, ?_⟩
    refine ofSnapshot_eq_ok_iff_catalogs.2 ⟨rfl, messages, hmessages, fun d => ?_⟩
    cases d with
    | outgoing => exact hout
    | incoming => exact hin

/-- What is found wrong first is the error. -/
theorem ofSnapshot_of_refusal {e : Error} (h : s.Refusal e) : ofSnapshot s = .error e := by
  unfold ofSnapshot
  cases h with
  | noDirection h hbefore hzero =>
    have hfault := SnapshotEntry.message?_eq_error_iff.2 (Or.inl ⟨hzero, rfl⟩)
    rw [mapM_message?_eq_error_iff.2 ⟨_, _, _, h, hbefore, hfault⟩]
  | unknownDirection h hbefore hzero he =>
    have hfault := SnapshotEntry.message?_eq_error_iff.2 (Or.inr ⟨hzero, he, rfl⟩)
    rw [mapM_message?_eq_error_iff.2 ⟨_, _, _, h, hbefore, hfault⟩]
  | repeatedOutgoing hall h =>
    obtain ⟨messages, hmessages⟩ := exists_mapM_message?_eq_ok_iff.2 hall
    rw [hmessages]
    have hout := (ofMessages_half_eq_error_iff hmessages).2 ⟨_, h, rfl⟩
    simp only [hout]
    rfl
  | repeatedIncoming hall hout h =>
    obtain ⟨messages, hmessages⟩ := exists_mapM_message?_eq_ok_iff.2 hall
    rw [hmessages]
    obtain ⟨outgoing, hout⟩ := (exists_ofMessages_half_eq_ok_iff hmessages).2 hout
    have hin := (ofMessages_half_eq_error_iff hmessages).2 ⟨_, h, rfl⟩
    simp only [hout, hin]
    rfl

theorem refusal_of_ofSnapshot {e : Error} (h : ofSnapshot s = .error e) : s.Refusal e := by
  cases hmessages : s.entries.mapM SnapshotEntry.message? with
  | error fault =>
    have he : e = .invalidSnapshot fault := by
      unfold ofSnapshot at h
      rw [hmessages] at h
      exact (Except.error.inj h).symm
    obtain ⟨before, f, after, hsplit, hbefore, hfault⟩ := mapM_message?_eq_error_iff.1 hmessages
    rcases SnapshotEntry.message?_eq_error_iff.1 hfault with ⟨hzero, rfl⟩ | ⟨hzero, hf, rfl⟩
    · rw [he]
      exact .noDirection hsplit hbefore hzero
    · rw [he]
      exact .unknownDirection hsplit hbefore hzero hf
  | ok messages =>
    have hall := exists_mapM_message?_eq_ok_iff.1 ⟨messages, hmessages⟩
    unfold ofSnapshot at h
    simp only [hmessages] at h
    cases hout : Catalog.ofMessages .outgoing (messages.filter (·.direction = .outgoing)) with
    | error err =>
      obtain ⟨id, hid, rfl⟩ := (ofMessages_half_eq_error_iff hmessages).1 hout
      rw [hout] at h
      cases h
      exact .repeatedOutgoing hall hid
    | ok outgoing =>
      have hnodup := (exists_ofMessages_half_eq_ok_iff hmessages).1 ⟨_, hout⟩
      rw [hout] at h
      cases hin : Catalog.ofMessages .incoming (messages.filter (·.direction = .incoming)) with
      | error err =>
        obtain ⟨id, hid, rfl⟩ := (ofMessages_half_eq_error_iff hmessages).1 hin
        rw [hin] at h
        cases h
        exact .repeatedIncoming hall hnodup hid
      | ok incoming =>
        -- both catalogs are there, so that the snapshot is accepted
        have hnodup' := (exists_ofMessages_half_eq_ok_iff hmessages).1 ⟨_, hin⟩
        obtain ⟨r, hr⟩ := exists_ofSnapshot_eq_ok_iff.2 ⟨hall, hnodup, hnodup'⟩
        unfold ofSnapshot at hr
        simp only [hmessages, hout, hin] at hr h
        exact absurd (hr.symm.trans h) (by simp)

/-- A snapshot is accepted exactly if every entry has a direction and no two entries share direction and
id; it is refused because of the first entry without a direction, or else of the first repeated outgoing
id, or else of the first repeated incoming one, and for no other reason. -/
theorem ofSnapshot_validates (s : Snapshot) :
    ((∃ r, ofSnapshot s = .ok r) ↔
      (∀ e ∈ s.entries, e.direction = 1 ∨ e.direction = 2) ∧
        s.entries.Pairwise fun e f => ¬ (e.direction = f.direction ∧ e.id = f.id)) ∧
    (∀ err, ofSnapshot s = .error err ↔ s.Refusal err) ∧
    (∀ id expected found, ofSnapshot s ≠ .error (.wrongDirection id expected found)) ∧
    ofSnapshot s ≠ .error (.invalidSnapshot .swappedOutgoing) ∧
    ofSnapshot s ≠ .error (.invalidSnapshot .swappedIncoming) := by
  refine ⟨?_, fun err => ⟨refusal_of_ofSnapshot, ofSnapshot_of_refusal⟩, ?_, ?_, ?_⟩
  · rw [exists_ofSnapshot_eq_ok_iff]
    exact and_congr_right fun hall => (pairwise_iff_nodup_ids hall).symm
  · intro id expected found h
    cases refusal_of_ofSnapshot h
  · intro h
    cases refusal_of_ofSnapshot h
  · intro h
    cases refusal_of_ofSnapshot h

/-- Both ids are repeated, the incoming one first, and the entry without a direction is the last. -/
example :
    let out : SnapshotEntry := { id := 5, direction := 1 }
    let inc : SnapshotEntry := { id := 7, direction := 2 }
    let none : SnapshotEntry := { id := 9, direction := -3 }
    (ofSnapshot { entries := [inc, inc, out, out, none] } =
      .error (.invalidSnapshot (.unknownDirection 9 (-3)))) ∧
    (SnapshotFault.unknownDirection 9 (-3)).message = "message 9 has unknown direction -3" ∧
    (ofSnapshot { entries := [inc, inc, out, out] } = .error (.duplicateId .outgoing 5)) ∧
    ofSnapshot { entries := [inc, inc, out] } = .error (.duplicateId .incoming 7) :=
  ⟨rfl, by decide, rfl, rfl⟩

end Revision

end Renumber
