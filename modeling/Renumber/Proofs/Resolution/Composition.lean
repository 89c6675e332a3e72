import Renumber.Proofs.Resolution.Counterpart

/-!
# Resolving through a build in between

What an id is resolved to has the fingerprint of the message of this id.  So whether it is resolved
further depends on the same fingerprint as the direct way, and both ways end among the same candidates
(`resolve_composes`).  If there is only one candidate they end at it; in particular the way there and
back ends at the message it began with.
-/

namespace Renumber

section

variable {tieBreak : TieBreak} {previous current : Catalog} {id : MessageId} {r : Message}
  (hr : r ∈ previous.messages) (hid : r.id = id) (htie : tieBreak.PicksMember)

include hr hid htie

theorem mem_liveWith_of_resolve {m : Message}
    (h : resolve tieBreak previous current.index id = .resolved m) :
    m ∈ liveWith r.fingerprint current.messages :=
  mem_liveWith.2 (isCounterpart_of_resolve hr hid htie h)

/-- An id is resolved if its message has a candidate. -/
theorem exists_resolve_iff : (∃ m, resolve tieBreak previous current.index id = .resolved m) ↔
    liveWith r.fingerprint current.messages ≠ [] := by
  constructor
  · rintro ⟨m, hm⟩
    exact List.ne_nil_of_mem (mem_liveWith_of_resolve hr hid htie hm)
  · intro hne
    obtain ⟨m, -, hm⟩ := htie.chooseCandidate_mem r hne
    exact ⟨m, (resolve_eq_resolved_iff hr hid).2 hm⟩

end

theorem Catalog.eq_of_isShared_eq_false {c : Catalog} {fingerprint : String}
    (h : c.index.isShared fingerprint = false) {m n : Message}
    (hm : m ∈ liveWith fingerprint c.messages) (hn : n ∈ liveWith fingerprint c.messages) :
    m = n := by
  unfold Index.isShared at h
  rw [candidates_index, decide_eq_false_iff_not, Nat.not_lt] at h
  obtain ⟨only, honly⟩ := List.length_eq_one_iff.1
    (Nat.le_antisymm h (List.length_pos_of_mem hm))
  rw [honly, List.mem_singleton] at hm hn
  rw [hm, hn]

/-! ## Main theorem -/

/-- When an id of the first of three builds is resolved in the second, the further way to the third is
as good as the direct one, and the way back ends at the message of the id unless it is dead or its
fingerprint is shared. -/
theorem resolve_composes {tieBreak : TieBreak} (htie : tieBreak.PicksMember) (a b c : Catalog)
    (id : MessageId) (r : Message) (hr : resolve tieBreak a b.index id = .resolved r) :
    ∃ m, a.get? id = some m ∧
      resolve tieBreak b c.index r.id ≠ .unknownId ∧
      ((∃ t, resolve tieBreak b c.index r.id = .resolved t) ↔
        ∃ d, resolve tieBreak a c.index id = .resolved d) ∧
      (∀ t d, resolve tieBreak b c.index r.id = .resolved t →
        resolve tieBreak a c.index id = .resolved d →
        t.fingerprint = m.fingerprint ∧ d.fingerprint = m.fingerprint ∧
          (c.index.isShared m.fingerprint = false → t = d)) ∧
      (0 < m.references → a.index.isShared m.fingerprint = false →
        resolve tieBreak b a.index r.id = .resolved m) := by
  obtain ⟨m, hm, hid⟩ := exists_mem_of_resolve hr
  obtain ⟨hrb, -, hf⟩ := isCounterpart_of_resolve hm hid htie hr
  refine ⟨m, Catalog.get?_eq_some_iff.2 ⟨hm, hid⟩, ?_, ?_, ?_, ?_⟩
  · intro hunknown
    exact resolve_eq_unknownId_iff.1 hunknown r hrb rfl
  · rw [exists_resolve_iff hrb rfl htie, exists_resolve_iff hm hid htie, hf]
  · intro t d ht hd
    have htlive := mem_liveWith_of_resolve hrb rfl htie ht
    have hdlive := mem_liveWith_of_resolve hm hid htie hd
    rw [hf] at htlive
    exact ⟨(mem_liveWith.1 htlive).2.2, (mem_liveWith.1 hdlive).2.2,
      fun hunique => Catalog.eq_of_isShared_eq_false hunique htlive hdlive⟩
  · intro hlive hunique
    have hmlive : m ∈ liveWith m.fingerprint a.messages := mem_liveWith.2 ⟨hm, hlive, rfl⟩
    have hne : liveWith r.fingerprint a.messages ≠ [] := by
      rw [hf]
      exact List.ne_nil_of_mem hmlive
    obtain ⟨t, ht⟩ := (exists_resolve_iff hrb rfl htie).2 hne
    have htlive := mem_liveWith_of_resolve hrb rfl htie ht
    rw [hf] at htlive
    rwa [Catalog.eq_of_isShared_eq_false hunique htlive hmlive] at ht

/-- Two messages of the second build share the fingerprint, and in the third a dead one has it. -/
theorem resolve_composes_sharedBetween :
    let message (id : MessageId) (references : UInt32) : Message :=
      { id, fingerprint := "f", direction := .outgoing, references }
    let a : Catalog := ⟨.outgoing, [message 1 1], by decide, by decide, by decide⟩
    let b : Catalog := ⟨.outgoing, [message 5 9, message 6 1], by decide, by decide, by decide⟩
    let c : Catalog := ⟨.outgoing, [message 7 0, message 8 1], by decide, by decide, by decide⟩
    (TieBreak.closest.PicksMember ∧
      resolve TieBreak.closest a b.index 1 = .resolved (message 6 1) ∧
      resolve TieBreak.closest b c.index 6 = .resolved (message 8 1) ∧
      resolve TieBreak.closest b a.index 6 = .resolved (message 1 1)) ∧
    (TieBreak.lowest.PicksMember ∧
      resolve TieBreak.lowest a b.index 1 = .resolved (message 5 9) ∧
      resolve TieBreak.lowest b c.index 5 = .resolved (message 8 1) ∧
      resolve TieBreak.lowest b a.index 5 = .resolved (message 1 1)) := by
  intro message a b c
  have hget : ∀ m, a.get? 1 = some m → m = message 1 1 := by
    intro m hm
    exact (Option.some.inj hm).symm
  have chain : ∀ (tieBreak : TieBreak) (r : Message), tieBreak.PicksMember →
      resolve tieBreak a b.index 1 = .resolved r →
      resolve tieBreak a c.index 1 = .resolved (message 8 1) →
      resolve tieBreak b c.index r.id = .resolved (message 8 1) ∧
        resolve tieBreak b a.index r.id = .resolved (message 1 1) := by
    intro tieBreak r htie hr hdirect
    obtain ⟨m, hm, -, hboth, hsame, hback⟩ := resolve_composes htie a b c 1 r hr
    obtain rfl := hget m hm
    obtain ⟨t, ht⟩ := hboth.2 ⟨_, hdirect⟩
    obtain ⟨-, -, heq⟩ := hsame t _ ht hdirect
    rw [heq (by decide)] at ht
    exact ⟨ht, hback (by decide) (by decide)⟩
  have hclosest : resolve TieBreak.closest a b.index 1 = .resolved (message 6 1) := by decide
  have hlowest : resolve TieBreak.lowest a b.index 1 = .resolved (message 5 9) := by decide
  exact ⟨⟨TieBreak.closest_picksMember, hclosest,
      chain _ _ TieBreak.closest_picksMember hclosest (by decide)⟩,
    TieBreak.lowest_picksMember, hlowest,
    chain _ _ TieBreak.lowest_picksMember hlowest (by decide)⟩

end Renumber
