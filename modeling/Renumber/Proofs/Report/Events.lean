import Renumber.Proofs.Catalog.Build
import Renumber.Proofs.Catalog.Partition
import Renumber.Report.Walk

/-!
# The events of a report

What a report tells about a catalog can be said without its index (`Catalog.events`): which messages
are unique, which groups of messages share a fingerprint, and which are dead, each in the order of the
ids, a group standing where its first message would.

Walking a revision is going through its events one by one, for writers of every lawful monad
(`walkRevision_eq_forM`), so also for those that can fail.
-/

namespace Renumber

/-! ## Sections -/

namespace Catalog

/-- The live messages whose fingerprint no other live message has. -/
def uniqueMessages (c : Catalog) : List Message :=
  c.messages.filter fun m => !m.isDead && (liveWith m.fingerprint c.messages).length == 1

/-- Whether a message is the first of several live messages with its fingerprint. -/
def leads (c : Catalog) (m : Message) : Bool :=
  let group := liveWith m.fingerprint c.messages
  group.head? == some m && 2 ≤ group.length

/-- The fingerprints that several live messages share, with these messages. -/
def groups (c : Catalog) : List (String × List Message) :=
  (c.messages.filter c.leads).map fun m => (m.fingerprint, liveWith m.fingerprint c.messages)

def deadMessages (c : Catalog) : List Message := c.messages.filter fun m => m.isDead

end Catalog

/-! ## Events -/

def groupEvents (group : String × List Message) : List ReportEvent :=
  .group group.1 group.2.length :: group.2.map (.collision · group.2.length)

/-- The part of a report on the collision groups, which is left out if there are none. -/
def collisionEvents (d : Direction) : List (String × List Message) → List ReportEvent
  | [] => []
  | groups@(_ :: _) => .collisions d :: groups.flatMap groupEvents

def Catalog.events (c : Catalog) : List ReportEvent :=
  [.direction c.direction c.size] ++ c.uniqueMessages.map .unique ++
    collisionEvents c.direction c.groups ++
    [.deadSection c.direction] ++ c.deadMessages.map .dead

def Revision.events (r : Revision) : List ReportEvent :=
  [.revision r.label] ++ r.outgoing.events ++ r.incoming.events

/-! ## Lemmas -/

namespace Catalog

variable {c : Catalog}

theorem unique_index_eq (c : Catalog) : c.index.unique = c.uniqueMessages := by
  unfold Index.unique uniqueMessages
  rw [c.covers_index.live, List.filter_filter]
  refine List.filter_congr fun m hm => ?_
  cases hd : m.isDead with
  | true => simp
  | false =>
    have hpos := length_candidates_index_pos hm (Message.isDead_eq_false_iff.1 hd)
    rw [candidates_index] at hpos
    unfold Index.isShared
    rw [candidates_index, Bool.eq_iff_iff]
    simp only [Bool.and_true, Bool.not_false, Bool.true_and, Bool.not_eq_true',
      decide_eq_false_iff_not, beq_iff_eq]
    omega

theorem dead_index_eq (c : Catalog) : c.index.dead = c.deadMessages := c.covers_index.dead

/-! ### Groups -/

theorem leads_iff {m : Message} : c.leads m = true ↔
    (liveWith m.fingerprint c.messages).head? = some m ∧
      2 ≤ (liveWith m.fingerprint c.messages).length := by
  simp [leads]

theorem mem_groups {fingerprint : String} {group : List Message} :
    (fingerprint, group) ∈ c.groups ↔
      group = liveWith fingerprint c.messages ∧ 2 ≤ group.length := by
  unfold groups
  simp only [List.mem_map, List.mem_filter, leads_iff, Prod.mk.injEq]
  constructor
  · rintro ⟨m, ⟨-, -, hlen⟩, rfl, rfl⟩
    exact ⟨rfl, hlen⟩
  · rintro ⟨rfl, hlen⟩
    -- the first message of the group leads it
    cases hgroup : liveWith fingerprint c.messages with
    | nil => simp [hgroup] at hlen
    | cons m rest =>
      have hm : m ∈ liveWith fingerprint c.messages := by
        rw [hgroup]
        exact List.mem_cons_self
      obtain ⟨hmem, -, rfl⟩ := mem_liveWith.1 hm
      exact ⟨m, ⟨hmem, by rw [hgroup]; rfl, hlen⟩, rfl, hgroup⟩

/-- Of two groups the first has the lower first message. -/
def FirstBefore (a b : String × List Message) : Prop :=
  ∃ m ∈ a.2.head?, ∃ n ∈ b.2.head?, m.id < n.id

instance : Std.Asymm FirstBefore where
  asymm := by
    rintro a b ⟨m, hm, n, hn, hlt⟩ ⟨n', hn', m', hm', hlt'⟩
    obtain rfl := Option.mem_unique hm hm'
    obtain rfl := Option.mem_unique hn hn'
    exact UInt32.lt_irrefl _ (UInt32.lt_trans hlt hlt')

theorem groups_ascending (c : Catalog) : c.groups.Pairwise FirstBefore := by
  unfold groups
  refine List.pairwise_map.2 ((c.ascending.filter _).imp_of_mem fun {a b} ha hb hlt => ?_)
  exact ⟨a, (leads_iff.1 (List.mem_filter.1 ha).2).1, b, (leads_iff.1 (List.mem_filter.1 hb).2).1, hlt⟩

theorem isLowestId_head {group : List Message} (hasc : group.Pairwise (·.id < ·.id)) {id : MessageId}
    (h : IsLowestId group id) : ∃ m ∈ group.head?, m.id = id := by
  obtain ⟨⟨m, hm, rfl⟩, hlow⟩ := h
  cases group with
  | nil => cases hm
  | cons first rest =>
    refine ⟨first, rfl, UInt32.le_antisymm ?_ (hlow first List.mem_cons_self)⟩
    rcases List.mem_cons.1 hm with rfl | hm
    · exact UInt32.le_refl _
    · exact UInt32.le_of_lt ((List.pairwise_cons.1 hasc).1 m hm)

theorem collisions_index_firstBefore (c : Catalog) : c.index.collisions.Pairwise FirstBefore := by
  refine collisions_index_ascending.imp_of_mem fun {a b} ha hb hlt => ?_
  have hasc : ∀ g ∈ c.index.collisions, g.2.Pairwise (·.id < ·.id) := by
    rintro ⟨fingerprint, group⟩ hg
    rw [(mem_collisions_index.1 hg).1]
    exact candidates_index_ascending fingerprint
  obtain ⟨i, j, hi, hj, hlt⟩ := hlt
  obtain ⟨m, hm, rfl⟩ := isLowestId_head (hasc a ha) hi
  obtain ⟨n, hn, rfl⟩ := isLowestId_head (hasc b hb) hj
  exact ⟨m, hm, n, hn, hlt⟩

theorem collisions_index_eq (c : Catalog) : c.index.collisions = c.groups := by
  refine c.collisions_index_firstBefore.eq_of_mem_iff c.groups_ascending fun g => ?_
  obtain ⟨fingerprint, group⟩ := g
  rw [mem_collisions_index, mem_groups, candidates_index]

/-- Every message is in one section. -/
theorem sections_perm (c : Catalog) :
    (c.uniqueMessages ++ c.groups.flatMap (·.2) ++ c.deadMessages).Perm c.messages := by
  have hindex := c.index_perm
  rw [c.dead_index_eq, c.unique_index_eq, c.collisions_index_eq, List.append_assoc] at hindex
  exact List.perm_append_comm.trans hindex

end Catalog

/-! ## Walks -/

section

variable {m : Type → Type} [Monad m] [LawfulMonad m] (write : ReportEvent → m Unit)

theorem walkGroup_eq_forM (fingerprint : String) (group : List Message) :
    walkGroup write fingerprint group = forM (groupEvents (fingerprint, group)) write := by
  unfold walkGroup groupEvents
  rw [List.forM_cons, List.forM_map, List.forM_eq_forM]

theorem forM_flatMap {α β : Type} (l : List α) (f : α → List β) (act : β → m Unit) :
    forM (l.flatMap f) act = forM l fun a => forM (f a) act := by
  induction l with
  | nil => rw [List.flatMap_nil, List.forM_nil, List.forM_nil]
  | cons a rest ih => rw [List.flatMap_cons, List.forM_append, List.forM_cons, ih]

theorem walkCollisions_eq_forM (d : Direction) (groups : List (String × List Message)) :
    walkCollisions write d groups = forM (collisionEvents d groups) write := by
  cases groups with
  | nil => rfl
  | cons group rest =>
    unfold walkCollisions collisionEvents
    rw [List.forM_cons, forM_flatMap, List.forM_eq_forM]
    simp only [walkGroup_eq_forM]

theorem walkCatalog_eq_forM (c : Catalog) :
    walkCatalog write c c.index = forM c.events write := by
  unfold walkCatalog Catalog.events
  rw [c.unique_index_eq, c.collisions_index_eq, c.dead_index_eq, walkCollisions_eq_forM]
  simp only [List.forM_eq_forM, List.forM_append, List.forM_cons, List.forM_nil, List.forM_map,
    bind_assoc, bind_pure_unit]

/-- Walking a revision is writing its events one after the other. -/
theorem walkRevision_eq_forM (r : Revision) : walkRevision write r = forM r.events write := by
  unfold walkRevision Revision.events
  simp only [walkCatalog_eq_forM, Direction.all, List.forM_eq_forM, List.forM_append,
    List.forM_cons, List.forM_nil, Revision.catalog, bind_assoc, bind_pure_unit]

end

end Renumber
