import Renumber.Error

/-!
# Catalogs

The messages of one direction of one build, in strictly ascending order of their ids.  The order,
the common direction and the absence of parsers among outgoing messages are part of the type.

`Catalog.ofMessages` builds a catalog from messages in any order; it refuses a message of the other
direction or with an id that occurred before, whichever comes first in the list.
-/

namespace Renumber

/-! ## Algorithm -/

structure Catalog where
  direction : Direction
  messages : List Message
  ascending : messages.Pairwise (·.id < ·.id)
  direction_eq : ∀ m ∈ messages, m.direction = direction
  parser_eq_none : direction = .outgoing → ∀ m ∈ messages, m.parser = none

namespace Catalog

def empty (direction : Direction) : Catalog where
  direction := direction
  messages := []
  ascending := .nil
  direction_eq := by simp
  parser_eq_none := by simp

def size (c : Catalog) : Nat := c.messages.length

def isEmpty (c : Catalog) : Bool := c.messages.isEmpty

def get? (c : Catalog) (id : MessageId) : Option Message := c.messages.find? (·.id == id)

/-- Puts a message in front of the first one with a larger id. -/
def place (m : Message) : List Message → List Message
  | [] => [m]
  | s :: rest => if m.id < s.id then m :: s :: rest else s :: place m rest

/-- The message as a catalog of this direction keeps it: parsers are for incoming messages. -/
def normalize (direction : Direction) (m : Message) : Message :=
  match direction with
  | .outgoing => { m with parser := none }
  | .incoming => m

/-! ## Lemmas -/

@[simp] theorem normalize_id (d : Direction) (m : Message) : (normalize d m).id = m.id := by
  cases d <;> rfl

@[simp] theorem normalize_direction (d : Direction) (m : Message) :
    (normalize d m).direction = m.direction := by
  cases d <;> rfl

theorem parser_normalize (d : Direction) (m : Message) (h : d = .outgoing) :
    (normalize d m).parser = none := by
  subst h
  rfl

@[simp] theorem mem_place {m s : Message} {l : List Message} :
    s ∈ place m l ↔ s = m ∨ s ∈ l := by
  induction l with
  | nil => simp [place]
  | cons t rest ih =>
    rw [place]
    split
    · simp
    · simp only [List.mem_cons, ih]
      exact or_left_comm

theorem place_ascending {m : Message} {l : List Message}
    (h : l.Pairwise (·.id < ·.id)) (fresh : ∀ s ∈ l, s.id ≠ m.id) :
    (place m l).Pairwise (·.id < ·.id) := by
  induction l with
  | nil => simp [place]
  | cons s rest ih =>
    rw [List.pairwise_cons] at h
    have hs : s.id ≠ m.id := fresh s (by simp)
    rw [place]
    split
    · rename_i hlt
      refine List.pairwise_cons.2 ⟨fun t ht => ?_, List.pairwise_cons.2 h⟩
      rcases List.mem_cons.1 ht with rfl | ht
      · exact hlt
      · exact UInt32.lt_trans hlt (h.1 t ht)
    · rename_i hge
      have hlt : s.id < m.id :=
        UInt32.lt_of_le_of_ne (UInt32.not_lt.1 hge) hs
      refine List.pairwise_cons.2 ⟨fun t ht => ?_, ih h.2 fun t ht => fresh t (by simp [ht])⟩
      rcases mem_place.1 ht with rfl | ht
      · exact hlt
      · exact h.1 t ht

theorem get?_eq_none_iff {c : Catalog} {id : MessageId} :
    c.get? id = none ↔ ∀ s ∈ c.messages, s.id ≠ id := by
  simp [get?]

/-- An id stands for one message. -/
theorem eq_of_id_eq {m s : Message} {l : List Message} (h : l.Pairwise (·.id < ·.id))
    (hm : m ∈ l) (hs : s ∈ l) (he : m.id = s.id) : m = s := by
  induction l with
  | nil => cases hm
  | cons t rest ih =>
    rw [List.pairwise_cons] at h
    rcases List.mem_cons.1 hm with rfl | hm'
    · rcases List.mem_cons.1 hs with rfl | hs'
      · rfl
      · exact absurd (he ▸ h.1 s hs') (UInt32.lt_irrefl _)
    · rcases List.mem_cons.1 hs with rfl | hs'
      · exact absurd (he ▸ h.1 m hm') (UInt32.lt_irrefl _)
      · exact ih h.2 hm' hs'

theorem get?_eq_some_iff {c : Catalog} {id : MessageId} {m : Message} :
    c.get? id = some m ↔ m ∈ c.messages ∧ m.id = id := by
  constructor
  · intro h
    exact ⟨List.mem_of_find?_eq_some h, by simpa using List.find?_some h⟩
  · rintro ⟨hm, rfl⟩
    cases hg : c.get? m.id with
    | none => exact absurd rfl (get?_eq_none_iff.1 hg m hm)
    | some s =>
      have hs : s.id = m.id := by simpa using List.find?_some hg
      rw [eq_of_id_eq c.ascending (List.mem_of_find?_eq_some hg) hm hs]

/-! ## Building -/

/-- Adds a message, which must have the catalog's direction and an id that is not taken. -/
def insert? (c : Catalog) (m : Message) : Except Error Catalog :=
  if hd : m.direction = c.direction then
    if hf : c.get? m.id = none then
      .ok {
        direction := c.direction
        messages := place (normalize c.direction m) c.messages
        ascending := place_ascending c.ascending (by simpa using get?_eq_none_iff.1 hf)
        direction_eq := by
          intro s hs
          rcases mem_place.1 hs with rfl | hs
          · simpa using hd
          · exact c.direction_eq s hs
        parser_eq_none := by
          intro ho s hs
          rcases mem_place.1 hs with rfl | hs
          · exact parser_normalize _ _ ho
          · exact c.parser_eq_none ho s hs }
    else .error (.duplicateId c.direction m.id)
  else .error (.wrongDirection m.id c.direction m.direction)

def ofMessages (direction : Direction) (messages : List Message) : Except Error Catalog :=
  messages.foldlM insert? (empty direction)

end Catalog

end Renumber
