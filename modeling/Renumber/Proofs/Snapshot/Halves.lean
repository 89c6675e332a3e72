import Renumber.Proofs.Snapshot.Canonical

/-!
# The two halves of a snapshot

The entries of one direction determine the catalog of this direction, whatever the others are
(`Revision.catalog_eq_of_half_perm`).  Any outgoing half goes with any incoming one
(`Revision.ofSnapshot_withIncoming`): a snapshot may have an id in both directions.
-/

namespace Renumber

/-- The entries of one direction. -/
def Snapshot.half (d : Direction) (s : Snapshot) : List SnapshotEntry :=
  s.entries.filter (·.direction = d.number)

/-- The outgoing messages of one snapshot and the incoming ones of another. -/
def Snapshot.withIncoming (s t : Snapshot) : Snapshot where
  label := s.label
  entries := s.half .outgoing ++ t.half .incoming

/-- The outgoing messages of one revision and the incoming ones of another. -/
def Revision.withIncoming (r q : Revision) : Revision where
  label := r.label
  outgoing := r.outgoing
  incoming := q.incoming
  outgoing_direction := r.outgoing_direction
  incoming_direction := q.incoming_direction

namespace Revision

variable {s t : Snapshot} {r q : Revision}

/-- A catalog holds what the entries of its direction say. -/
theorem catalog_perm_half (h : ofSnapshot s = .ok r) (d : Direction) :
    ((r.catalog d).messages.map SnapshotEntry.ofMessage).Perm
      ((s.half d).map SnapshotEntry.canonical) := by
  have hperm := (ofSnapshot_eq_ok_iff.1 h).2
  rw [entries_ofRevision] at hperm
  have hnumber : ∀ m : Message, ((SnapshotEntry.ofMessage m).direction = d.number) = (m.direction = d) :=
    fun m => propext ⟨Direction.number_inj, congrArg Direction.number⟩
  have hhalf := hperm.filter (·.direction = d.number)
  rw [List.filter_map, List.filter_map] at hhalf
  simp only [Function.comp_def, SnapshotEntry.canonical_direction, hnumber] at hhalf
  rwa [filter_messages] at hhalf

/-- The other direction has no part in a catalog, nor has the order of the entries. -/
theorem catalog_eq_of_half_perm {d : Direction} (hs : ofSnapshot s = .ok r) (ht : ofSnapshot t = .ok q)
    (hperm : (s.half d).Perm (t.half d)) : r.catalog d = q.catalog d := by
  refine Catalog.eq_of_perm ((r.catalog_direction d).trans (q.catalog_direction d).symm) ?_
  rw [← List.map_perm_map_iff SnapshotEntry.ofMessage_injective]
  exact (catalog_perm_half hs d).trans ((hperm.map _).trans (catalog_perm_half ht d).symm)

/-- The halves of two snapshots that are read make up one that is read. -/
theorem ofSnapshot_withIncoming (hs : ofSnapshot s = .ok r) (ht : ofSnapshot t = .ok q) :
    ofSnapshot (s.withIncoming t) = .ok (r.withIncoming q) := by
  refine ofSnapshot_eq_ok_iff.2 ⟨(ofSnapshot_eq_ok_iff.1 hs).1, ?_⟩
  have hmessages : (r.withIncoming q).messages =
    (r.catalog .outgoing).messages ++ (q.catalog .incoming).messages := rfl
  have hentries : (s.withIncoming t).entries = s.half .outgoing ++ t.half .incoming := rfl
  rw [entries_ofRevision, hmessages, hentries, List.map_append, List.map_append]
  exact (catalog_perm_half hs .outgoing).append (catalog_perm_half ht .incoming)

end Revision

end Renumber
