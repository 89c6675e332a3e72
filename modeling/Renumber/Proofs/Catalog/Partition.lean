import Renumber.Proofs.Catalog.Index

/-!
# The index takes a catalog apart

Every message of a catalog is dead, or unique, or in one collision group.  The index lists the three
kinds in order and leaves no message out (`Catalog.index_partitions`).

The pass over the catalog files the live messages under their fingerprints.  What it keeps up is
`Index.Filed`: no fingerprint has two buckets, no bucket is empty, together they hold the live messages
so far, and of two buckets the earlier one has the lower lowest id.  The last holds because messages
come in ascending order: the one that is filed has the highest id so far, so it opens no bucket too
late and lowers none (`Index.Filed.fileUnder`).
-/

namespace Renumber

/-- The lowest id in a group of messages. -/
def IsLowestId (group : List Message) (id : MessageId) : Prop :=
  (∃ m ∈ group, m.id = id) ∧ ∀ m ∈ group, id ≤ m.id

/-- How an index presents a catalog. -/
structure Index.Partitions (index : Index) (c : Catalog) : Prop where
  /-- Dead, unique and colliding messages are the messages of the catalog, each of them once. -/
  perm : (index.dead ++ index.unique ++ index.collisions.flatMap (·.2)).Perm c.messages
  dead : index.dead = c.messages.filter (·.references = 0)
  candidates : ∀ fingerprint, index.candidates fingerprint =
    c.messages.filter fun m => 0 < m.references ∧ m.fingerprint = fingerprint
  candidates_ascending : ∀ fingerprint, (index.candidates fingerprint).Pairwise (·.id < ·.id)
  mem_unique : ∀ m ∈ c.messages, 0 < m.references →
    (m ∈ index.unique ↔ (index.candidates m.fingerprint).length = 1)
  mem_collisions : ∀ fingerprint group, (fingerprint, group) ∈ index.collisions ↔
    group = index.candidates fingerprint ∧ 2 ≤ group.length
  collisions_nodup : (index.collisions.map (·.1)).Nodup
  collisions_ascending : index.collisions.Pairwise fun a b =>
    ∃ i j, IsLowestId a.2 i ∧ IsLowestId b.2 j ∧ i < j
  dead_ascending : index.dead.Pairwise (·.id < ·.id)
  unique_ascending : index.unique.Pairwise (·.id < ·.id)
  bucketCount : index.bucketCount = index.unique.length + index.collisions.length

namespace Index

/-! ## Filing a message -/

/-- Some message of the first bucket has a lower id than all messages of the second. -/
def LowerFirst (a b : String × List Message) : Prop := ∃ m ∈ a.2, ∀ n ∈ b.2, m.id < n.id

/-- A bucket was there before, or it is the one that got the message and may have been opened for
it. -/
theorem mem_fileUnder {m : Message} {buckets : List (String × List Message)}
    {b : String × List Message} (h : b ∈ fileUnder m buckets) :
    b ∈ buckets ∨ ∃ group, b = (m.fingerprint, group ++ [m]) ∧
      (group = [] ∨ (m.fingerprint, group) ∈ buckets) := by
  induction buckets with
  | nil => exact Or.inr ⟨[], List.mem_singleton.1 h, Or.inl rfl⟩
  | cons bucket rest ih =>
    obtain ⟨key, group⟩ := bucket
    rw [fileUnder] at h
    split at h
    · rename_i hkey
      rcases List.mem_cons.1 h with rfl | h
      · exact Or.inr ⟨group, by rw [hkey], Or.inr (by simp [hkey])⟩
      · exact Or.inl (List.mem_cons_of_mem _ h)
    · rcases List.mem_cons.1 h with rfl | h
      · exact Or.inl List.mem_cons_self
      · rcases ih h with hb | ⟨group', hb, hgroup⟩
        · exact Or.inl (List.mem_cons_of_mem _ hb)
        · exact Or.inr ⟨group', hb, hgroup.imp_right (List.mem_cons_of_mem _)⟩

theorem flatMap_fileUnder_perm (m : Message) (buckets : List (String × List Message)) :
    ((fileUnder m buckets).flatMap (·.2)).Perm (buckets.flatMap (·.2) ++ [m]) := by
  induction buckets with
  | nil => exact .rfl
  | cons bucket rest ih =>
    obtain ⟨key, group⟩ := bucket
    rw [fileUnder]
    split
    · simp only [List.flatMap_cons, List.append_assoc]
      exact List.perm_append_comm.append_left group
    · simp only [List.flatMap_cons, List.append_assoc]
      exact ih.append_left group

theorem nodup_fileUnder (m : Message) {buckets : List (String × List Message)}
    (h : (buckets.map (·.1)).Nodup) : ((fileUnder m buckets).map (·.1)).Nodup := by
  induction buckets with
  | nil => simp [fileUnder]
  | cons bucket rest ih =>
    obtain ⟨key, group⟩ := bucket
    rw [List.map_cons, List.nodup_cons] at h
    rw [fileUnder]
    split
    · rw [List.map_cons, List.nodup_cons]
      exact h
    · rename_i hkey
      rw [List.map_cons, List.nodup_cons]
      refine ⟨fun hmem => ?_, ih h.2⟩
      obtain ⟨b, hb, hbkey⟩ := List.mem_map.1 hmem
      rcases mem_fileUnder hb with hb | ⟨_, rfl, _⟩
      · exact h.1 (List.mem_map.2 ⟨b, hb, hbkey⟩)
      · exact hkey hbkey.symm

theorem ordered_fileUnder {m : Message} {buckets : List (String × List Message)}
    (h : buckets.Pairwise LowerFirst) (hne : ∀ b ∈ buckets, b.2 ≠ [])
    (hlow : ∀ b ∈ buckets, ∀ n ∈ b.2, n.id < m.id) :
    (fileUnder m buckets).Pairwise LowerFirst := by
  induction buckets with
  | nil => simp [fileUnder]
  | cons bucket rest ih =>
    obtain ⟨key, group⟩ := bucket
    rw [List.pairwise_cons] at h
    rw [fileUnder]
    split
    · refine List.pairwise_cons.2 ⟨fun b hb => ?_, h.2⟩
      obtain ⟨x, hx, hlt⟩ := h.1 b hb
      exact ⟨x, List.mem_append_left _ hx, hlt⟩
    · refine List.pairwise_cons.2 ⟨fun b hb => ?_, ih h.2
        (fun b hb => hne b (List.mem_cons_of_mem _ hb))
        (fun b hb => hlow b (List.mem_cons_of_mem _ hb))⟩
      rcases mem_fileUnder hb with hb | ⟨group', rfl, hgroup⟩
      · exact h.1 b hb
      · have hfirst : ∃ x ∈ group, ∀ n ∈ group', x.id < n.id := by
          rcases hgroup with rfl | hgroup
          · obtain ⟨x, hx⟩ := List.exists_mem_of_ne_nil group (hne _ List.mem_cons_self)
            exact ⟨x, hx, by simp⟩
          · exact h.1 _ hgroup
        obtain ⟨x, hx, hlt⟩ := hfirst
        refine ⟨x, hx, fun n hn => ?_⟩
        rcases List.mem_append.1 hn with hn | hn
        · exact hlt n hn
        · rw [List.mem_singleton.1 hn]
          exact hlow _ List.mem_cons_self x hx

/-- Live messages that have been filed in ascending order of their ids. -/
structure Filed (buckets : List (String × List Message)) (live : List Message) : Prop where
  nodup : (buckets.map (·.1)).Nodup
  ne_nil : ∀ b ∈ buckets, b.2 ≠ []
  perm : (buckets.flatMap (·.2)).Perm live
  ordered : buckets.Pairwise LowerFirst

theorem Filed.fileUnder {buckets : List (String × List Message)} {live : List Message}
    (h : Filed buckets live) {m : Message} (hm : ∀ n ∈ live, n.id < m.id) :
    Filed (fileUnder m buckets) (live ++ [m]) where
  nodup := nodup_fileUnder m h.nodup
  ne_nil := by
    intro b hb
    rcases mem_fileUnder hb with hb | ⟨group, rfl, _⟩
    · exact h.ne_nil b hb
    · simp
  perm := (flatMap_fileUnder_perm m buckets).trans (h.perm.append_right [m])
  ordered := ordered_fileUnder h.ordered h.ne_nil fun b hb n hn =>
    hm n (h.perm.mem_iff.1 (List.mem_flatMap.2 ⟨b, hb, hn⟩))

/-! ## The pass over a catalog -/

/-- An index of some messages. -/
structure Covers (index : Index) (messages : List Message) : Prop where
  live : index.live = messages.filter fun m => !m.isDead
  dead : index.dead = messages.filter fun m => m.isDead
  filed : Filed index.buckets index.live

theorem Covers.add {index : Index} {messages : List Message} (h : index.Covers messages)
    {m : Message} (hm : ∀ n ∈ messages, n.id < m.id) :
    (index.add m).Covers (messages ++ [m]) := by
  have hlive : ∀ n ∈ index.live, n.id < m.id := by
    intro n hn
    rw [h.live] at hn
    exact hm n (List.mem_filter.1 hn).1
  unfold Index.add
  by_cases hd : m.isDead
  · rw [if_pos hd]
    exact ⟨by simp [h.live, hd], by simp [h.dead, hd], h.filed⟩
  · rw [if_neg hd]
    exact ⟨by simp [h.live, hd], by simp [h.dead, hd], h.filed.fileUnder hlive⟩

theorem Covers.foldl {index : Index} {before after : List Message} (h : index.Covers before)
    (hasc : (before ++ after).Pairwise (·.id < ·.id)) :
    (after.foldl Index.add index).Covers (before ++ after) := by
  induction after generalizing index before with
  | nil => simpa using h
  | cons m rest ih =>
    have hm : ∀ n ∈ before, n.id < m.id := fun n hn =>
      (List.pairwise_append.1 hasc).2.2 n hn m List.mem_cons_self
    rw [List.append_cons] at hasc ⊢
    rw [List.foldl_cons]
    exact ih (h.add hm) hasc

end Index

theorem Catalog.covers_index (c : Catalog) : c.index.Covers c.messages := by
  have h : Index.Covers { direction := c.direction } [] :=
    ⟨rfl, rfl, List.nodup_nil, by simp, .nil, .nil⟩
  exact h.foldl c.ascending

/-! ## Reading an index back -/

section

variable {α β : Type}

theorem lookup_eq_some_iff_mem [DecidableEq α] {l : List (α × β)} {key : α} {value : β}
    (h : (l.map (·.1)).Nodup) : l.lookup key = some value ↔ (key, value) ∈ l := by
  rw [List.lookup_eq_some_iff]
  constructor
  · rintro ⟨before, after, rfl, -⟩
    simp
  · intro hmem
    obtain ⟨before, after, rfl⟩ := List.append_of_mem hmem
    refine ⟨before, after, rfl, fun entry hentry => ?_⟩
    rw [List.map_append, List.map_cons, List.nodup_append] at h
    have hne := h.2.2 entry.1 (List.mem_map_of_mem hentry) key List.mem_cons_self
    simpa using Ne.symm hne

/-- A condition on members that is one on whole groups selects whole groups. -/
theorem filter_flatMap_snd {p : β → Bool} {q : α × List β → Bool} {groups : List (α × List β)}
    (h : ∀ g ∈ groups, ∀ b ∈ g.2, p b = q g) :
    (groups.flatMap (·.2)).filter p = (groups.filter q).flatMap (·.2) := by
  induction groups with
  | nil => rfl
  | cons g rest ih =>
    have hrest := ih fun g hg => h g (List.mem_cons_of_mem _ hg)
    have hg := h g List.mem_cons_self
    rw [List.flatMap_cons, List.filter_append, hrest]
    cases hq : q g with
    | true =>
      rw [List.filter_cons_of_pos hq, List.flatMap_cons,
        List.filter_eq_self.2 fun b hb => (hg b hb).trans hq]
    | false =>
      rw [List.filter_cons_of_neg (by simp [hq]),
        List.filter_eq_nil_iff.2 fun b hb => by simp [hg b hb, hq], List.nil_append]

theorem length_flatMap_snd {groups : List (α × List β)} (h : ∀ g ∈ groups, g.2.length = 1) :
    (groups.flatMap (·.2)).length = groups.length := by
  induction groups with
  | nil => rfl
  | cons g rest ih =>
    rw [List.flatMap_cons, List.length_append, h g List.mem_cons_self,
      ih fun g hg => h g (List.mem_cons_of_mem _ hg), List.length_cons, Nat.add_comm]

end

namespace Catalog

variable {c : Catalog}

theorem mem_buckets_index {fingerprint : String} {group : List Message} :
    (fingerprint, group) ∈ c.index.buckets ↔
      group = c.index.candidates fingerprint ∧ group ≠ [] := by
  have hfiled := c.covers_index.filed
  rw [← lookup_eq_some_iff_mem hfiled.nodup]
  unfold Index.candidates
  constructor
  · intro h
    refine ⟨by rw [h]; rfl, hfiled.ne_nil _ ((lookup_eq_some_iff_mem hfiled.nodup).1 h)⟩
  · rintro ⟨h, hne⟩
    cases hl : c.index.buckets.lookup fingerprint with
    | none => exact absurd (by rw [h, hl]; rfl) hne
    | some group' => rw [h, hl]; rfl

theorem collisions_eq_filter (index : Index) :
    index.collisions = index.buckets.filter fun b => decide (1 < b.2.length) := rfl

theorem mem_collisions_index {fingerprint : String} {group : List Message} :
    (fingerprint, group) ∈ c.index.collisions ↔
      group = c.index.candidates fingerprint ∧ 2 ≤ group.length := by
  rw [collisions_eq_filter, List.mem_filter, mem_buckets_index, decide_eq_true_eq, and_assoc]
  refine and_congr_right fun _ => ⟨fun h => h.2, fun h => ⟨?_, h⟩⟩
  rintro rfl
  exact Nat.not_succ_le_zero 1 h

/-- All messages of a bucket have the fingerprint they are filed under. -/
theorem isShared_of_mem_bucket {b : String × List Message} (hb : b ∈ c.index.buckets)
    {m : Message} (hm : m ∈ b.2) :
    c.index.isShared m.fingerprint = decide (1 < b.2.length) := by
  obtain ⟨fingerprint, group⟩ := b
  obtain ⟨hgroup, -⟩ := mem_buckets_index.1 hb
  have hmem : m ∈ liveWith fingerprint c.messages := by
    rw [← candidates_index, ← hgroup]
    exact hm
  rw [Index.isShared, (mem_liveWith.1 hmem).2.2, ← hgroup]

theorem collisions_index_perm :
    (c.index.collisions.flatMap (·.2)).Perm
      (c.index.live.filter fun m => c.index.isShared m.fingerprint) := by
  have h := (c.covers_index.filed.perm.filter fun m => c.index.isShared m.fingerprint)
  rwa [filter_flatMap_snd fun b hb m hm => isShared_of_mem_bucket hb hm] at h

theorem unique_index_perm :
    c.index.unique.Perm
      ((c.index.buckets.filter fun b => !decide (1 < b.2.length)).flatMap (·.2)) := by
  have h := (c.covers_index.filed.perm.filter fun m => !c.index.isShared m.fingerprint)
  rw [filter_flatMap_snd (q := fun b => !decide (1 < b.2.length))
    fun b hb m hm => by rw [isShared_of_mem_bucket hb hm]] at h
  exact h.symm

theorem index_perm :
    (c.index.dead ++ c.index.unique ++ c.index.collisions.flatMap (·.2)).Perm c.messages := by
  have hlive : (c.index.unique ++ c.index.collisions.flatMap (·.2)).Perm c.index.live :=
    (List.perm_append_comm.trans (collisions_index_perm.append_right _)).trans
      (List.filter_append_perm _ _)
  rw [List.append_assoc]
  refine (hlive.append_left _).trans ?_
  rw [c.covers_index.dead, c.covers_index.live]
  exact List.filter_append_perm _ _

theorem length_candidates_index_pos {m : Message} (hm : m ∈ c.messages) (hlive : 0 < m.references) :
    0 < (c.index.candidates m.fingerprint).length := by
  rw [candidates_index]
  exact List.length_pos_of_mem (mem_liveWith.2 ⟨hm, hlive, rfl⟩)

theorem mem_unique_index {m : Message} (hm : m ∈ c.messages) (hlive : 0 < m.references) :
    m ∈ c.index.unique ↔ (c.index.candidates m.fingerprint).length = 1 := by
  have hpos := length_candidates_index_pos hm hlive
  have hmem : m ∈ c.index.live := by
    rw [c.covers_index.live, List.mem_filter]
    exact ⟨hm, by simp [Message.isDead_eq_false_iff.2 hlive]⟩
  unfold Index.unique Index.isShared
  simp only [List.mem_filter, hmem, true_and, Bool.not_eq_true', decide_eq_false_iff_not]
  omega

theorem bucketCount_index :
    c.index.bucketCount = c.index.unique.length + c.index.collisions.length := by
  have hone : ∀ b ∈ c.index.buckets.filter fun b => !decide (1 < b.2.length), b.2.length = 1 := by
    intro b hb
    obtain ⟨hb, hle⟩ := List.mem_filter.1 hb
    have hne := List.length_pos_iff.2 (c.covers_index.filed.ne_nil b hb)
    simp only [Bool.not_eq_true', decide_eq_false_iff_not] at hle
    omega
  have hsplit := (List.filter_append_perm (fun b : String × List Message => decide (1 < b.2.length))
    c.index.buckets).length_eq
  rw [List.length_append, ← collisions_eq_filter] at hsplit
  rw [unique_index_perm.length_eq, length_flatMap_snd hone]
  unfold Index.bucketCount
  omega

theorem exists_isLowestId {group : List Message} (h : group.Pairwise (·.id < ·.id))
    (hne : group ≠ []) : ∃ id, IsLowestId group id := by
  cases group with
  | nil => exact absurd rfl hne
  | cons m rest =>
    refine ⟨m.id, ⟨m, List.mem_cons_self, rfl⟩, fun n hn => ?_⟩
    rcases List.mem_cons.1 hn with rfl | hn
    · exact UInt32.le_refl _
    · exact UInt32.le_of_lt ((List.pairwise_cons.1 h).1 n hn)

theorem candidates_index_ascending (fingerprint : String) :
    (c.index.candidates fingerprint).Pairwise (·.id < ·.id) := by
  rw [candidates_index]
  exact liveWith_ascending c fingerprint

/-- The order of the buckets, seen at the lowest ids. -/
theorem lowestId_lt_of_lowerFirst {a b : String × List Message} (ha : a ∈ c.index.collisions)
    (hb : b ∈ c.index.collisions) (h : Index.LowerFirst a b) :
    ∃ i j, IsLowestId a.2 i ∧ IsLowestId b.2 j ∧ i < j := by
  have hlowest : ∀ g ∈ c.index.collisions, ∃ id, IsLowestId g.2 id := by
    rintro ⟨fingerprint, group⟩ hg
    obtain ⟨rfl, hlen⟩ := mem_collisions_index.1 hg
    have hpos := Nat.lt_of_lt_of_le Nat.zero_lt_two hlen
    exact exists_isLowestId (candidates_index_ascending _) (List.length_pos_iff.1 hpos)
  obtain ⟨i, hi⟩ := hlowest a ha
  obtain ⟨j, hj⟩ := hlowest b hb
  obtain ⟨x, hx, hlt⟩ := h
  obtain ⟨n, hn, rfl⟩ := hj.1
  exact ⟨i, n.id, hi, hj, UInt32.lt_of_le_of_lt (hi.2 x hx) (hlt n hn)⟩

theorem collisions_index_ascending :
    c.index.collisions.Pairwise fun a b =>
      ∃ i j, IsLowestId a.2 i ∧ IsLowestId b.2 j ∧ i < j := by
  have h : c.index.collisions.Pairwise Index.LowerFirst := by
    rw [collisions_eq_filter]
    exact c.covers_index.filed.ordered.filter _
  exact h.imp_of_mem fun ha hb hlt => lowestId_lt_of_lowerFirst ha hb hlt

theorem collisions_index_nodup : (c.index.collisions.map (·.1)).Nodup := by
  rw [collisions_eq_filter]
  exact c.covers_index.filed.nodup.sublist (List.filter_sublist.map _)

theorem dead_index : c.index.dead = c.messages.filter (·.references = 0) := by
  rw [c.covers_index.dead]
  refine List.filter_congr fun m _ => ?_
  rw [Bool.eq_iff_iff]
  simp [Message.isDead]

/-! ## Main theorem -/

theorem index_partitions (c : Catalog) : c.index.Partitions c where
  perm := index_perm
  dead := dead_index
  candidates fingerprint := by rw [candidates_index, liveWith_eq_filter]
  candidates_ascending := candidates_index_ascending
  mem_unique m hm hlive := mem_unique_index hm hlive
  mem_collisions fingerprint group := mem_collisions_index
  collisions_nodup := collisions_index_nodup
  collisions_ascending := collisions_index_ascending
  dead_ascending := by
    rw [dead_index]
    exact c.ascending.filter _
  unique_ascending := by
    unfold Index.unique
    rw [c.covers_index.live]
    exact (c.ascending.filter _).filter _
  bucketCount := bucketCount_index

end Catalog

end Renumber
