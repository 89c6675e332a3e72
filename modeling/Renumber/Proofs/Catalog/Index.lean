import Renumber.Catalog.Index

/-!
# The candidates for a fingerprint

The index of a catalog files every live message under its fingerprint, and no other message
(`candidates_index`): the candidates for a fingerprint are the live messages of the catalog that have
it, in the catalog's order.
-/

namespace Renumber

/-- The live messages with a fingerprint, in the order of the list. -/
def liveWith (fingerprint : String) (messages : List Message) : List Message :=
  messages.filter fun m => !m.isDead && m.fingerprint == fingerprint

/-! ## Lemmas -/

theorem Message.isDead_eq_false_iff {m : Message} : m.isDead = false ↔ 0 < m.references := by
  unfold Message.isDead
  rw [beq_eq_false_iff_ne, UInt32.pos_iff_ne_zero]

theorem mem_liveWith {fingerprint : String} {messages : List Message} {m : Message} :
    m ∈ liveWith fingerprint messages ↔
      m ∈ messages ∧ 0 < m.references ∧ m.fingerprint = fingerprint := by
  unfold liveWith
  rw [List.mem_filter, ← Message.isDead_eq_false_iff]
  simp

theorem liveWith_eq_filter (fingerprint : String) (messages : List Message) :
    liveWith fingerprint messages =
      messages.filter fun m => 0 < m.references ∧ m.fingerprint = fingerprint := by
  unfold liveWith
  refine List.filter_congr fun m _ => ?_
  rw [Bool.eq_iff_iff]
  simp [← Message.isDead_eq_false_iff]

theorem liveWith_ascending (c : Catalog) (fingerprint : String) :
    (liveWith fingerprint c.messages).Pairwise (·.id < ·.id) :=
  c.ascending.filter _

namespace Index

theorem lookup_fileUnder (m : Message) (fingerprint : String)
    (buckets : List (String × List Message)) :
    ((fileUnder m buckets).lookup fingerprint).getD [] =
      (buckets.lookup fingerprint).getD [] ++ if m.fingerprint = fingerprint then [m] else [] := by
  induction buckets with
  | nil =>
    unfold fileUnder
    by_cases h : m.fingerprint = fingerprint
    · simp [h]
    · have hne : (fingerprint == m.fingerprint) = false := by simpa using Ne.symm h
      simp [List.lookup_cons, h, hne]
  | cons bucket rest ih =>
    obtain ⟨key, group⟩ := bucket
    unfold fileUnder
    by_cases hk : key = m.fingerprint
    · rw [if_pos hk]
      by_cases h : m.fingerprint = fingerprint
      · simp [hk, h]
      · have hne : (fingerprint == key) = false := by
          rw [hk]
          simpa using Ne.symm h
        simp [List.lookup_cons, h, hne]
    · rw [if_neg hk]
      by_cases hf : fingerprint = key
      · simp [hf, Ne.symm hk]
      · have hne : (fingerprint == key) = false := by simpa using hf
        simpa [List.lookup_cons, hne] using ih

theorem candidates_add (index : Index) (m : Message) (fingerprint : String) :
    (index.add m).candidates fingerprint =
      index.candidates fingerprint ++ liveWith fingerprint [m] := by
  unfold add candidates liveWith
  by_cases hd : m.isDead
  · simp [hd]
  · rw [if_neg hd]
    simp only [lookup_fileUnder]
    by_cases hf : m.fingerprint = fingerprint <;> simp [hd, hf]

/-- What one message adds, summed over the pass. -/
theorem candidates_foldl (messages : List Message) (index : Index) (fingerprint : String) :
    (messages.foldl add index).candidates fingerprint =
      index.candidates fingerprint ++ liveWith fingerprint messages := by
  induction messages generalizing index with
  | nil => simp [liveWith]
  | cons m rest ih =>
    rw [List.foldl_cons, ih, candidates_add, List.append_assoc]
    unfold liveWith
    rw [← List.filter_append, List.singleton_append]

end Index

theorem Catalog.candidates_index (c : Catalog) (fingerprint : String) :
    c.index.candidates fingerprint = liveWith fingerprint c.messages := by
  unfold Catalog.index Index.ofCatalog
  rw [Index.candidates_foldl]
  rfl

end Renumber
