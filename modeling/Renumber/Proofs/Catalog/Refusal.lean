import Renumber.Proofs.Catalog.Build

/-!
# Which messages make no catalog

A message is refused if it has the other direction or, failing that, if its id is taken
(`Catalog.insert?_eq_error_iff`).  So a list of messages makes a catalog exactly if all of them have its
direction and no two have the same id (`Catalog.exists_ofMessages_eq_ok_iff`), and otherwise the first
one that is refused tells why (`Catalog.ofMessages_eq_error_iff_isFirstRefusal`).  Among messages of one
direction this is the first with an id that occurred before
(`Catalog.ofMessages_eq_error_iff_isFirstRepeat`).
-/

namespace Renumber

/-- The first member of a list that occurred before. -/
def IsFirstRepeat (ids : List MessageId) (id : MessageId) : Prop :=
  ∃ before after, ids = before ++ id :: after ∧ id ∈ before ∧ before.Nodup

/-- The error is about the first message that has the other direction or an id that occurred before;
the direction comes first if it has both. -/
def IsFirstRefusal (direction : Direction) (messages : List Message) (e : Error) : Prop :=
  ∃ before m after, messages = before ++ m :: after ∧
    (∀ s ∈ before, s.direction = direction) ∧ (before.map (·.id)).Nodup ∧
    (m.direction ≠ direction ∧ e = .wrongDirection m.id direction m.direction ∨
      m.direction = direction ∧ m.id ∈ before.map (·.id) ∧ e = .duplicateId direction m.id)

namespace Catalog

variable {c : Catalog} {m : Message} {messages : List Message} {direction : Direction} {e : Error}

theorem insert?_eq_error_iff :
    c.insert? m = .error e ↔
      m.direction ≠ c.direction ∧ e = .wrongDirection m.id c.direction m.direction ∨
      m.direction = c.direction ∧ (∃ s ∈ c.messages, s.id = m.id) ∧
        e = .duplicateId c.direction m.id := by
  unfold insert?
  split
  · rename_i hd
    split
    · rename_i hf
      have hfresh : ¬ ∃ s ∈ c.messages, s.id = m.id := by simpa using get?_eq_none_iff.1 hf
      simp [hd, hfresh]
    · rename_i hf
      have htaken : ∃ s ∈ c.messages, s.id = m.id := by simpa using mt get?_eq_none_iff.2 hf
      simp only [hd, ne_eq, not_true_eq_false, false_and, htaken, true_and, false_or,
        Except.error.injEq]
      exact eq_comm
  · rename_i hd
    simp only [ne_eq, hd, not_false_eq_true, true_and, false_and, or_false, Except.error.injEq]
    exact eq_comm

/-- The first message that is refused tells why there is no catalog. -/
theorem ofMessages_eq_error_iff :
    ofMessages direction messages = .error e ↔ ∃ before m after c,
      messages = before ++ m :: after ∧ ofMessages direction before = .ok c ∧
        c.insert? m = .error e :=
  foldlM_eq_error_iff

/-- The ids that a catalog has are those of its messages. -/
theorem exists_id_iff (h : ofMessages direction messages = .ok c) (id : MessageId) :
    (∃ s ∈ c.messages, s.id = id) ↔ id ∈ messages.map (·.id) := by
  have hperm := (ofMessages_eq_ok_iff.1 h).2.2
  simp [hperm.mem_iff]

theorem nodup_of_ofMessages_eq_ok (h : ofMessages direction messages = .ok c) :
    (messages.map (·.id)).Nodup := by
  have hids := ((ofMessages_eq_ok_iff.1 h).2.2.map (·.id)).nodup c.nodup_ids
  simpa [Function.comp_def] using hids

theorem exists_ofMessages_eq_ok_iff :
    (∃ c, ofMessages direction messages = .ok c) ↔
      (∀ m ∈ messages, m.direction = direction) ∧ (messages.map (·.id)).Nodup := by
  constructor
  · rintro ⟨c, h⟩
    exact ⟨(ofMessages_eq_ok_iff.1 h).2.1, nodup_of_ofMessages_eq_ok h⟩
  · rintro ⟨hdirection, hnodup⟩
    cases h : ofMessages direction messages with
    | ok c => exact ⟨c, rfl⟩
    | error e =>
      obtain ⟨before, m, after, c, rfl, hbefore, hm⟩ := ofMessages_eq_error_iff.1 h
      rcases insert?_eq_error_iff.1 hm with ⟨hd, -⟩ | ⟨-, htaken, -⟩
      · rw [(ofMessages_eq_ok_iff.1 hbefore).1] at hd
        exact absurd (hdirection m (by simp)) hd
      · rw [exists_id_iff hbefore] at htaken
        rw [List.map_append, List.map_cons] at hnodup
        exact absurd rfl ((List.nodup_append.1 hnodup).2.2 m.id htaken m.id List.mem_cons_self)

theorem ofMessages_eq_error_iff_isFirstRefusal :
    ofMessages direction messages = .error e ↔ IsFirstRefusal direction messages e := by
  rw [ofMessages_eq_error_iff]
  constructor
  · rintro ⟨before, m, after, c, rfl, hbefore, hm⟩
    obtain ⟨hall, hnodup⟩ := exists_ofMessages_eq_ok_iff.1 ⟨c, hbefore⟩
    obtain rfl := (ofMessages_eq_ok_iff.1 hbefore).1
    rw [insert?_eq_error_iff, exists_id_iff hbefore] at hm
    exact ⟨before, m, after, rfl, hall, hnodup, hm⟩
  · rintro ⟨before, m, after, rfl, hall, hnodup, hm⟩
    obtain ⟨c, hbefore⟩ := exists_ofMessages_eq_ok_iff.2 ⟨hall, hnodup⟩
    obtain rfl := (ofMessages_eq_ok_iff.1 hbefore).1
    refine ⟨before, m, after, c, rfl, hbefore, ?_⟩
    rwa [insert?_eq_error_iff, exists_id_iff hbefore]

/-- Messages of one direction make no catalog because of the first id that occurred before. -/
theorem ofMessages_eq_error_iff_isFirstRepeat (hall : ∀ m ∈ messages, m.direction = direction) :
    ofMessages direction messages = .error e ↔
      ∃ id, IsFirstRepeat (messages.map (·.id)) id ∧ e = .duplicateId direction id := by
  rw [ofMessages_eq_error_iff_isFirstRefusal]
  constructor
  · rintro ⟨before, m, after, rfl, -, hnodup, ⟨hd, -⟩ | ⟨-, hmem, rfl⟩⟩
    · exact absurd (hall m (by simp)) hd
    · exact ⟨m.id, ⟨_, _, by rw [List.map_append, List.map_cons], hmem, hnodup⟩, rfl⟩
  · rintro ⟨id, ⟨ids, ids', he, hmem, hnodup⟩, rfl⟩
    obtain ⟨before, rest, rfl, rfl, hrest⟩ := List.map_eq_append_iff.1 he
    obtain ⟨m, after, rfl, rfl, rfl⟩ := List.map_eq_cons_iff.1 hrest
    exact ⟨before, m, after, rfl, fun s hs => hall s (List.mem_append_left _ hs), hnodup,
      .inr ⟨hall m (by simp), hmem, rfl⟩⟩

end Catalog

end Renumber
