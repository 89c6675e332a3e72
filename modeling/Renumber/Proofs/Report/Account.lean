import Mathlib.Data.List.Dedup
import Renumber.Proofs.Report.Events
import Renumber.Proofs.Snapshot.Canonical
import Renumber.Report.Stats

/-!
# What a report adds up to

A report shows every message of a revision once (`Revision.messages_events_perm`), so its counters
add up to the number of messages; and as every fingerprint among the live messages of a direction
stands either for one unique message or for one group, the unique messages and the groups together
count these fingerprints (`walkRevision_accounts`).
-/

namespace Renumber

/-- The message that an event shows. -/
def ReportEvent.message? : ReportEvent → Option Message
  | .unique m | .collision m _ | .dead m => some m
  | .revision _ | .direction .. | .collisions _ | .group .. | .deadSection _ => none

/-- The fingerprints of the live messages, each with the direction it occurs in. -/
def Revision.liveFingerprints (r : Revision) : List (Direction × String) :=
  (r.messages.filter fun m => 0 < m.references).map fun m => (m.direction, m.fingerprint)

/-! ## Every message once -/

theorem filterMap_map_message? {f : Message → ReportEvent} (hf : ∀ m, (f m).message? = some m)
    (l : List Message) : (l.map f).filterMap ReportEvent.message? = l := by
  have hsome : ReportEvent.message? ∘ f = some := funext hf
  rw [List.filterMap_map, hsome, List.filterMap_some]

theorem filterMap_collisionEvents (d : Direction) (groups : List (String × List Message)) :
    (collisionEvents d groups).filterMap ReportEvent.message? = groups.flatMap (·.2) := by
  cases groups with
  | nil => rfl
  | cons group rest =>
    have hgroup : ∀ g : String × List Message,
        (groupEvents g).filterMap ReportEvent.message? = g.2 := fun g =>
      filterMap_map_message? (fun _ => rfl) g.2
    unfold collisionEvents
    rw [List.filterMap_cons_none rfl, List.filterMap_flatMap]
    simp only [hgroup]

theorem Catalog.messages_events_perm (c : Catalog) :
    (c.events.filterMap ReportEvent.message?).Perm c.messages := by
  have hevents : c.events.filterMap ReportEvent.message? =
      c.uniqueMessages ++ c.groups.flatMap (·.2) ++ c.deadMessages := by
    unfold events
    simp only [List.filterMap_append, filterMap_collisionEvents]
    rw [filterMap_map_message? (fun _ => rfl), filterMap_map_message? (fun _ => rfl)]
    rw [List.filterMap_cons_none rfl, List.filterMap_cons_none rfl]
    simp
  rw [hevents]
  exact c.sections_perm

theorem Catalog.length_sections (c : Catalog) :
    c.uniqueMessages.length + (c.groups.flatMap (·.2)).length + c.deadMessages.length = c.size := by
  rw [size, ← c.sections_perm.length_eq, List.length_append, List.length_append]

theorem Revision.messages_events_perm (r : Revision) :
    (r.events.filterMap ReportEvent.message?).Perm r.messages := by
  unfold events messages
  rw [List.filterMap_append, List.filterMap_append]
  exact (r.outgoing.messages_events_perm).append r.incoming.messages_events_perm

/-! ## Counters -/

namespace Stats

/-- What the events of some messages add to a counter that each of them raises by one. -/
theorem foldl_count_map {f : Message → ReportEvent} (raise : Nat → Stats → Stats)
    (hzero : ∀ s, raise 0 s = s) (hone : ∀ n s m, raise n (s.count (f m)) = raise (n + 1) s)
    (l : List Message) (s : Stats) : (l.map f).foldl count s = raise l.length s := by
  induction l generalizing s with
  | nil => exact (hzero s).symm
  | cons m rest ih => rw [List.map_cons, List.foldl_cons, ih, hone, List.length_cons]

theorem foldl_count_groups (groups : List (String × List Message)) (s : Stats) :
    (groups.flatMap groupEvents).foldl count s =
      { s with groups := s.groups + groups.length
               collision := s.collision + (groups.flatMap (·.2)).length } := by
  induction groups generalizing s with
  | nil => rfl
  | cons group rest ih =>
    unfold groupEvents at ih ⊢
    rw [List.flatMap_cons, List.foldl_append, List.foldl_cons, ih,
      foldl_count_map (fun n s => { s with collision := s.collision + n })
        (fun _ => rfl) (fun n s m => by simp only [count, Nat.add_assoc, Nat.add_comm 1])]
    simp only [count, List.length_cons, List.flatMap_cons, List.length_append]
    congr 1 <;> omega

theorem foldl_count_collisionEvents (d : Direction) (groups : List (String × List Message))
    (s : Stats) : (collisionEvents d groups).foldl count s =
      { s with groups := s.groups + groups.length
               collision := s.collision + (groups.flatMap (·.2)).length } := by
  cases groups with
  | nil => rfl
  | cons group rest =>
    unfold collisionEvents
    rw [List.foldl_cons, foldl_count_groups]
    rfl

theorem foldl_count_events (c : Catalog) (s : Stats) :
    c.events.foldl count s =
      { total := s.total + c.size
        unique := s.unique + c.uniqueMessages.length
        groups := s.groups + c.groups.length
        collision := s.collision + (c.groups.flatMap (·.2)).length
        dead := s.dead + c.deadMessages.length } := by
  unfold Catalog.events
  simp only [List.foldl_append, List.foldl_cons, List.foldl_nil]
  rw [foldl_count_map (fun n s => { s with dead := s.dead + n })
      (fun _ => rfl) (fun n s m => by simp only [count, Nat.add_assoc, Nat.add_comm 1]),
    foldl_count_collisionEvents,
    foldl_count_map (fun n s => { s with unique := s.unique + n })
      (fun _ => rfl) (fun n s m => by simp only [count, Nat.add_assoc, Nat.add_comm 1])]
  rfl

end Stats

theorem forM_countEvent (events : List ReportEvent) (s : Stats) :
    ((forM events countEvent : StateM Stats Unit).run s).2 = events.foldl Stats.count s := by
  induction events generalizing s with
  | nil => rfl
  | cons event rest ih =>
    rw [List.forM_cons, List.foldl_cons]
    exact ih (s.count event)

theorem Revision.stats_eq (r : Revision) : r.stats = r.events.foldl Stats.count {} := by
  unfold stats
  rw [walkRevision_eq_forM, forM_countEvent]

/-! ## Fingerprints -/

namespace Catalog

theorem two_mul_length_groups_le (c : Catalog) :
    2 * c.groups.length ≤ (c.groups.flatMap (·.2)).length := by
  have hlen : ∀ g ∈ c.groups, 2 ≤ g.2.length := fun g hg => (mem_groups.1 hg).2
  generalize c.groups = groups at hlen
  induction groups with
  | nil => exact Nat.le_refl _
  | cons g rest ih =>
    have hg := hlen g List.mem_cons_self
    have hrest := ih fun g hg => hlen g (List.mem_cons_of_mem _ hg)
    rw [List.flatMap_cons, List.length_append, List.length_cons]
    omega

/-- The fingerprints that an index has buckets for are those of the live messages. -/
theorem mem_keys_index {c : Catalog} {fingerprint : String} :
    fingerprint ∈ c.index.buckets.map (·.1) ↔
      ∃ m ∈ c.messages, 0 < m.references ∧ m.fingerprint = fingerprint := by
  simp only [List.mem_map, Prod.exists, mem_buckets_index, candidates_index, ← mem_liveWith]
  constructor
  · rintro ⟨_, _, ⟨rfl, hne⟩, rfl⟩
    exact List.exists_mem_of_ne_nil _ hne
  · rintro ⟨m, hm⟩
    exact ⟨fingerprint, _, ⟨rfl, List.ne_nil_of_mem hm⟩, rfl⟩

end Catalog

namespace Revision

theorem mem_messages {r : Revision} {m : Message} :
    m ∈ r.messages ↔ m ∈ (r.catalog m.direction).messages := by
  rw [← filter_messages]
  simp

theorem mem_liveFingerprints {r : Revision} {d : Direction} {fingerprint : String} :
    (d, fingerprint) ∈ r.liveFingerprints ↔
      fingerprint ∈ (r.catalog d).index.buckets.map (·.1) := by
  rw [Catalog.mem_keys_index]
  unfold liveFingerprints
  simp only [List.mem_map, List.mem_filter, decide_eq_true_eq, Prod.mk.injEq]
  constructor
  · rintro ⟨m, ⟨hm, hlive⟩, rfl, rfl⟩
    exact ⟨m, mem_messages.1 hm, hlive, rfl⟩
  · rintro ⟨m, hm, hlive, rfl⟩
    obtain rfl : m.direction = d := ((r.catalog d).direction_eq m hm).trans (r.catalog_direction d)
    exact ⟨m, ⟨mem_messages.2 hm, hlive⟩, rfl, rfl⟩

/-- The fingerprints of the live messages without repetition, as the buckets of the two indexes list
them. -/
theorem dedup_liveFingerprints_perm (r : Revision) :
    r.liveFingerprints.dedup.Perm (Direction.all.flatMap fun d =>
      ((r.catalog d).index.buckets.map (·.1)).map fun fingerprint => (d, fingerprint)) := by
  have hnodup : (Direction.all.flatMap fun d => ((r.catalog d).index.buckets.map (·.1)).map
      fun fingerprint => (d, fingerprint)).Nodup := by
    refine List.nodup_flatMap.2 ⟨fun d _ => ?_, ?_⟩
    · exact (r.catalog d).covers_index.filed.nodup.map fun a b h => (Prod.mk.inj h).2
    · simp only [Direction.all, List.pairwise_cons, List.mem_singleton, forall_eq,
        List.not_mem_nil, false_imp_iff, implies_true, List.Pairwise.nil, and_true]
      intro pair hout hin
      obtain ⟨_, -, rfl⟩ := List.mem_map.1 hout
      obtain ⟨_, -, h⟩ := List.mem_map.1 hin
      cases h
  refine (List.perm_ext_iff_of_nodup (List.nodup_dedup _) hnodup).2 fun pair => ?_
  obtain ⟨d, fingerprint⟩ := pair
  rw [List.mem_dedup, mem_liveFingerprints]
  cases d <;> simp [Direction.all]

/-- Every fingerprint of a live message stands for a unique message or for a group. -/
theorem length_dedup_liveFingerprints (r : Revision) :
    r.liveFingerprints.dedup.length =
      r.outgoing.uniqueMessages.length + r.outgoing.groups.length +
        (r.incoming.uniqueMessages.length + r.incoming.groups.length) := by
  have hbuckets : ∀ c : Catalog,
      c.index.buckets.length = c.uniqueMessages.length + c.groups.length := by
    intro c
    rw [← c.unique_index_eq, ← c.collisions_index_eq]
    exact Catalog.bucketCount_index
  rw [r.dedup_liveFingerprints_perm.length_eq]
  simp only [Direction.all, List.flatMap_cons, List.flatMap_nil, List.append_nil,
    List.length_append, List.length_map, hbuckets, catalog]

end Revision

/-! ## Main theorem -/

/-- Walking a revision writes its events one after the other, whatever becomes of them; they show every
message once; and the counters say so. -/
theorem walkRevision_accounts (r : Revision) :
    (∀ (σ : Type) (write : ReportEvent → StateM σ Unit),
      walkRevision write r = forM r.events write) ∧
    (r.events.filterMap ReportEvent.message?).Perm r.messages ∧
    r.stats.total = r.messages.length ∧
    r.stats.unique + r.stats.collision + r.stats.dead = r.messages.length ∧
    2 * r.stats.groups ≤ r.stats.collision ∧
    r.stats.unique + r.stats.groups = r.liveFingerprints.dedup.length := by
  have houtgoing := r.outgoing.length_sections
  have hincoming := r.incoming.length_sections
  have hmessages : r.messages.length = r.outgoing.size + r.incoming.size := List.length_append
  have hstats := r.stats_eq
  unfold Revision.events at hstats
  simp only [List.foldl_append, List.foldl_cons, List.foldl_nil, Stats.foldl_count_events] at hstats
  have hoversized := r.outgoing.two_mul_length_groups_le
  have hoversized' := r.incoming.two_mul_length_groups_le
  refine ⟨fun σ write => walkRevision_eq_forM write r, r.messages_events_perm, ?_, ?_, ?_, ?_⟩
  · rw [hstats, hmessages]
    exact congrArg (· + _) (Nat.zero_add _)
  · rw [hstats, hmessages]
    simp only [Stats.count]
    omega
  · rw [hstats]
    simp only [Stats.count]
    omega
  · rw [hstats, r.length_dedup_liveFingerprints]
    simp only [Stats.count]
    omega

end Renumber
