import Renumber.Proofs.Catalog.Index
import Renumber.Resolution.Basic

/-!
# What an id resolves to

A tie-break that picks a member of every list that is not empty (`TieBreak.PicksMember`) cannot lead
out of the candidates; the two tie-breaks of the library are of this kind.  With any such tie-break

    resolve … id = .unknownId      ↔  the previous catalog has no message of this id
    resolve … id = .noCandidate    ↔  its message has no counterpart in the current catalog
    resolve … id = .resolved m     →  m is a counterpart of its message

where a counterpart is a live message of the current catalog with the same fingerprint
(`Catalog.IsCounterpart`).  Which of several counterparts is taken is the tie-break's affair.
-/

namespace Renumber

/-- A tie-break that answers with one of the candidates whenever there are any. -/
def TieBreak.PicksMember (tieBreak : TieBreak) : Prop :=
  ∀ previous candidates, candidates ≠ [] → ∃ m ∈ candidates, tieBreak previous candidates = some m

/-- A live message of the current catalog with the fingerprint of the previous message. -/
def Catalog.IsCounterpart (current : Catalog) (previous m : Message) : Prop :=
  m ∈ current.messages ∧ 0 < m.references ∧ m.fingerprint = previous.fingerprint

/-! ## Lemmas -/

namespace TieBreak

/-- Going through a list and keeping one of two every time ends with a member. -/
theorem foldl_keep_mem {α : Type} {keep : α → α → α} (h : ∀ a b, keep a b = a ∨ keep a b = b)
    (l : List α) (a : α) : l.foldl keep a ∈ a :: l := by
  induction l generalizing a with
  | nil => simp
  | cons b rest ih =>
    rw [List.foldl_cons]
    have hm := ih (keep a b)
    rw [List.mem_cons] at hm ⊢
    rcases hm with hm | hm
    · rcases h a b with hk | hk
      · exact Or.inl (hm.trans hk)
      · right
        rw [hm, hk]
        exact List.mem_cons_self
    · exact Or.inr (List.mem_cons_of_mem b hm)

theorem lastGreatest?_mem {α : Type} (compare : α → α → Ordering) {l : List α} (hl : l ≠ []) :
    ∃ a ∈ l, lastGreatest? compare l = some a := by
  cases l with
  | nil => exact absurd rfl hl
  | cons a rest =>
    refine ⟨_, foldl_keep_mem (fun best b => ?_) rest a, rfl⟩
    by_cases h : compare best b = .gt <;> simp [h]

theorem firstLeast?_mem {α : Type} (compare : α → α → Ordering) {l : List α} (hl : l ≠ []) :
    ∃ a ∈ l, firstLeast? compare l = some a := by
  cases l with
  | nil => exact absurd rfl hl
  | cons a rest =>
    refine ⟨_, foldl_keep_mem (fun best b => ?_) rest a, rfl⟩
    by_cases h : compare best b = .gt <;> simp [h]

theorem closest_picksMember : closest.PicksMember :=
  fun _ _ h => lastGreatest?_mem _ h

theorem lowest_picksMember : lowest.PicksMember :=
  fun _ _ h => firstLeast?_mem _ h

theorem PicksMember.chooseCandidate_mem {tieBreak : TieBreak} (h : tieBreak.PicksMember)
    (previous : Message) {candidates : List Message} (hne : candidates ≠ []) :
    ∃ m ∈ candidates, chooseCandidate tieBreak previous candidates = some m := by
  unfold chooseCandidate
  split
  · exact absurd rfl hne
  · exact ⟨_, List.mem_cons_self, rfl⟩
  · exact h previous candidates hne

end TieBreak

section

variable {tieBreak : TieBreak} {previous current : Catalog} {id : MessageId}

theorem resolve_eq_unknownId_iff :
    resolve tieBreak previous current.index id = .unknownId ↔
      ∀ r ∈ previous.messages, r.id ≠ id := by
  rw [← Catalog.get?_eq_none_iff]
  unfold resolve
  cases previous.get? id with
  | none => simp
  | some r =>
    simp only [reduceCtorEq, iff_false]
    split <;> simp

theorem exists_mem_of_resolve {m : Message}
    (h : resolve tieBreak previous current.index id = .resolved m) :
    ∃ r ∈ previous.messages, r.id = id := by
  unfold resolve at h
  split at h
  · cases h
  · rename_i r hget
    exact ⟨r, Catalog.get?_eq_some_iff.1 hget⟩

variable {r : Message} (hr : r ∈ previous.messages) (hid : r.id = id)

include hr hid

/-- An id of the previous catalog is resolved by the counterparts of its message. -/
theorem resolve_of_mem :
    resolve tieBreak previous current.index id =
      match chooseCandidate tieBreak r (liveWith r.fingerprint current.messages) with
      | none => .noCandidate
      | some m => .resolved m := by
  have hget := Catalog.get?_eq_some_iff.2 ⟨hr, hid⟩
  cases h : chooseCandidate tieBreak r (liveWith r.fingerprint current.messages) <;>
    simp [resolve, hget, Catalog.candidates_index, h]

theorem resolve_eq_resolved_iff {m : Message} :
    resolve tieBreak previous current.index id = .resolved m ↔
      chooseCandidate tieBreak r (liveWith r.fingerprint current.messages) = some m := by
  rw [resolve_of_mem hr hid]
  cases chooseCandidate tieBreak r (liveWith r.fingerprint current.messages) <;> simp

theorem resolve_eq_noCandidate_iff (h : tieBreak.PicksMember) :
    resolve tieBreak previous current.index id = .noCandidate ↔
      ∀ m, ¬ current.IsCounterpart r m := by
  rw [resolve_of_mem hr hid]
  by_cases hl : liveWith r.fingerprint current.messages = []
  · have hnone : ∀ m, ¬ current.IsCounterpart r m := by
      intro m hm
      have := mem_liveWith.2 hm
      rw [hl] at this
      cases this
    simp [hl, chooseCandidate, hnone]
  · obtain ⟨m, hm, hc⟩ := h.chooseCandidate_mem r hl
    simp only [hc, reduceCtorEq, false_iff]
    intro hnone
    exact hnone m (mem_liveWith.1 hm)

theorem isCounterpart_of_resolve (h : tieBreak.PicksMember) {m : Message}
    (hm : resolve tieBreak previous current.index id = .resolved m) :
    current.IsCounterpart r m := by
  rw [resolve_of_mem hr hid] at hm
  by_cases hl : liveWith r.fingerprint current.messages = []
  · simp [hl, chooseCandidate] at hm
  · obtain ⟨m', hm', hc⟩ := h.chooseCandidate_mem r hl
    rw [hc] at hm
    cases hm
    exact mem_liveWith.1 hm'

end

end Renumber
