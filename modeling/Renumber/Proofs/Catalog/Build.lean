import Mathlib.Data.List.Sort
import Renumber.Catalog.Basic
import Renumber.Proofs.Fallible

/-!
# Which catalog is built from which messages

A list of messages makes a catalog if all of them have its direction and no two have the same id, and
then the catalog holds them, as it keeps them, in the order of their ids.  One condition says both: the
messages of the catalog are those of the list in another order (`Catalog.ofMessages_eq_ok_iff`), as no
catalog has an id twice.  So the order of the list does not matter.
-/

namespace Renumber

namespace Catalog

variable {c c' : Catalog} {m : Message} {messages : List Message}

instance : Std.Asymm fun a b : Message => a.id < b.id where
  asymm _ _ h h' := UInt32.lt_irrefl _ (UInt32.lt_trans h h')

/-- A catalog is determined by its direction and its messages in any order. -/
theorem eq_of_perm (hd : c.direction = c'.direction) (h : c.messages.Perm c'.messages) : c = c' := by
  have hm : c.messages = c'.messages := h.eq_of_pairwise' c.ascending c'.ascending
  obtain ⟨direction, messages, _, _, _⟩ := c
  obtain ⟨direction', messages', _, _, _⟩ := c'
  subst hd hm
  rfl

theorem nodup_ids (c : Catalog) : (c.messages.map (·.id)).Nodup := by
  refine List.pairwise_map.2 (c.ascending.imp fun h he => ?_)
  exact absurd (he ▸ h) (UInt32.lt_irrefl _)

theorem place_perm (m : Message) (l : List Message) : (place m l).Perm (m :: l) := by
  induction l with
  | nil => exact .rfl
  | cons s rest ih =>
    rw [place]
    split
    · exact .rfl
    · exact (ih.cons s).trans (.swap m s rest)

/-! ## Inserting one message -/

theorem of_insert?_eq_ok (h : c.insert? m = .ok c') :
    c'.direction = c.direction ∧ m.direction = c.direction ∧
      c'.messages.Perm (normalize c.direction m :: c.messages) := by
  unfold insert? at h
  split at h
  · rename_i hd
    split at h
    · cases h
      exact ⟨rfl, hd, place_perm _ _⟩
    · cases h
  · cases h

theorem exists_insert?_eq_ok (hd : m.direction = c.direction)
    (hf : ∀ s ∈ c.messages, s.id ≠ m.id) : ∃ c', c.insert? m = .ok c' := by
  unfold insert?
  rw [dif_pos hd, dif_pos (get?_eq_none_iff.2 hf)]
  exact ⟨_, rfl⟩

/-! ## Inserting all messages of a list -/

theorem foldlM_insert?_eq_ok_iff :
    messages.foldlM insert? c = .ok c' ↔ c'.direction = c.direction ∧
      (∀ m ∈ messages, m.direction = c.direction) ∧
      c'.messages.Perm (messages.map (normalize c.direction) ++ c.messages) := by
  induction messages generalizing c with
  | nil =>
    constructor
    · intro h
      cases h
      exact ⟨rfl, by simp, .rfl⟩
    · rintro ⟨hc', -, hperm⟩
      exact congrArg Except.ok (eq_of_perm hc'.symm hperm.symm)
  | cons m rest ih =>
    rw [List.foldlM_cons, List.forall_mem_cons]
    constructor
    · intro h
      obtain ⟨c₁, hinsert, h⟩ := bind_eq_ok h
      obtain ⟨hc₁, hm, hperm₁⟩ := of_insert?_eq_ok hinsert
      obtain ⟨hc', hrest, hperm⟩ := ih.1 h
      rw [hc₁] at hc' hrest hperm
      exact ⟨hc', ⟨hm, hrest⟩, hperm.trans ((hperm₁.append_left _).trans List.perm_middle)⟩
    · rintro ⟨hc', ⟨hm, hrest⟩, hperm⟩
      -- the result has no id twice, so that of the first message is not among the others
      have hnodup := (hperm.map (·.id)).nodup c'.nodup_ids
      rw [List.map_cons, List.cons_append, List.map_cons, List.nodup_cons, normalize_id] at hnodup
      have hfresh : ∀ s ∈ c.messages, s.id ≠ m.id := fun s hs he =>
        hnodup.1 (he ▸ List.mem_map_of_mem (List.mem_append_right _ hs))
      obtain ⟨c₁, hinsert⟩ := exists_insert?_eq_ok hm hfresh
      obtain ⟨hc₁, -, hperm₁⟩ := of_insert?_eq_ok hinsert
      have hrun : rest.foldlM insert? c₁ = .ok c' := by
        rw [ih, hc₁]
        exact ⟨hc', hrest, hperm.trans (List.perm_middle.symm.trans (hperm₁.symm.append_left _))⟩
      rw [hinsert]
      exact hrun

theorem ofMessages_eq_ok_iff {direction : Direction} :
    ofMessages direction messages = .ok c ↔ c.direction = direction ∧
      (∀ m ∈ messages, m.direction = direction) ∧
      c.messages.Perm (messages.map (normalize direction)) := by
  unfold ofMessages
  rw [foldlM_insert?_eq_ok_iff]
  simp [empty]

end Catalog

end Renumber
