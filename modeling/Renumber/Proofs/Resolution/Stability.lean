import Renumber.Proofs.Resolution.Closest

/-!
# Resolving within a build

A message that an id was resolved to is a message of the current build.  When its id is resolved again,
now within that build, the answer is the message itself (`resolve_stable`): under `TieBreak.lowest`
because the candidates are the same and the message asked for does not matter, under
`TieBreak.closest` because whoever wins against it would have won in the first place.

Other live messages of a build need not be resolved to themselves, but they are resolved to a message
with all that they are recognized by.
-/

namespace Renumber

namespace TieBreak

theorem chooseCandidate_lowest (r m : Message) (candidates : List Message) :
    chooseCandidate lowest r candidates = chooseCandidate lowest m candidates := by
  unfold chooseCandidate
  split <;> rfl

/-- A single candidate is the closest one. -/
theorem chooseCandidate_closest (r : Message) (candidates : List Message) :
    chooseCandidate closest r candidates = closest r candidates := by
  unfold chooseCandidate
  split <;> rfl

/-- Among messages of one fingerprint and different ids, the closest one to any message is the closest
one to itself. -/
theorem closest_self {r m : Message} {candidates : List Message}
    (hf : ∀ b ∈ candidates, b.fingerprint = m.fingerprint)
    (hasc : candidates.Pairwise (·.id < ·.id)) (h : closest r candidates = some m) :
    closest m candidates = some m := by
  obtain ⟨hm, hgreatest⟩ := closest_eq_some h
  obtain ⟨b, hb, hclosest⟩ := closest_picksMember m candidates (List.ne_nil_of_mem hm)
  obtain ⟨hresembles, hle⟩ := resembles_of_closest (hf b hb) hm hclosest
  -- `b` wins against `m`, so it was at least as close to `r` and can only have lost by its id
  obtain ⟨-, hge⟩ := eq_and_id_le_of_isLE (hgreatest b hb)
    (Similarity.between_atMost_of_resembles hresembles r)
  have hid := UInt32.le_antisymm hle hge
  rw [hclosest, Catalog.eq_of_id_eq hasc hb hm hid]

end TieBreak

/-! ## Main theorem -/

/-- Both tie-breaks leave alone what they have chosen before; and the closest message to a live message
of the same build has all that it is recognized by, and is the first such message. -/
theorem resolve_stable :
    (∀ tieBreak, tieBreak = TieBreak.closest ∨ tieBreak = TieBreak.lowest →
      ∀ (previous current : Catalog) (id : MessageId) (r : Message),
        resolve tieBreak previous current.index id = .resolved r →
        resolve tieBreak current current.index r.id = .resolved r) ∧
    ∀ (current : Catalog) (x : Message), x ∈ current.messages → 0 < x.references →
      ∃ y, resolve TieBreak.closest current current.index x.id = .resolved y ∧
        y.Resembles x ∧ y.id ≤ x.id ∧
        ((∀ z ∈ current.messages, 0 < z.references → z.id < x.id → ¬ z.Resembles x) → y = x) := by
  constructor
  · intro tieBreak htie previous current id m hm
    obtain ⟨r, hr, hid⟩ := exists_mem_of_resolve hm
    have hpicks : tieBreak.PicksMember := by
      rcases htie with rfl | rfl
      · exact TieBreak.closest_picksMember
      · exact TieBreak.lowest_picksMember
    obtain ⟨hmem, -, hf⟩ := isCounterpart_of_resolve hr hid hpicks hm
    rw [resolve_eq_resolved_iff hr hid] at hm
    rw [resolve_eq_resolved_iff hmem rfl, hf]
    rcases htie with rfl | rfl
    · rw [TieBreak.chooseCandidate_closest] at hm ⊢
      refine TieBreak.closest_self (fun b hb => ?_) (liveWith_ascending _ _) hm
      rw [(mem_liveWith.1 hb).2.2, hf]
    · rw [TieBreak.chooseCandidate_lowest m r]
      exact hm
  · intro current x hx hlive
    have hcandidate : x ∈ liveWith x.fingerprint current.messages :=
      mem_liveWith.2 ⟨hx, hlive, rfl⟩
    obtain ⟨y, hy, hclosest⟩ :=
      TieBreak.closest_picksMember x _ (List.ne_nil_of_mem hcandidate)
    obtain ⟨hycurrent, hylive, hf⟩ := mem_liveWith.1 hy
    obtain ⟨hresembles, hid⟩ := TieBreak.resembles_of_closest hf hcandidate hclosest
    refine ⟨y, ?_, hresembles, hid, fun hfirst => ?_⟩
    · rw [resolve_eq_resolved_iff hx rfl, TieBreak.chooseCandidate_closest]
      exact hclosest
    · have heq : y.id = x.id := by
        refine Classical.byContradiction fun hne => ?_
        exact hfirst y hycurrent hylive (UInt32.lt_of_le_of_ne hid hne) hresembles
      exact Catalog.eq_of_id_eq current.ascending hycurrent hx heq

/-- Four messages of one fingerprint, two of them with the same parameter types. -/
theorem resolve_stable_fourMessages :
    let message (id : MessageId) (signature : String) : Message :=
      { id, fingerprint := "f", direction := .outgoing, signature }
    let first := message 2 "(a:String)"
    let second := message 3 "(k:int)"
    let third := message 4 "(n:int)"
    let fourth := message 5 "(b:Boolean)"
    let previous : Catalog := ⟨.outgoing, [message 9 "(k:int)"], by decide, by decide, by decide⟩
    let current : Catalog :=
      ⟨.outgoing, [first, second, third, fourth], by decide, by decide, by decide⟩
    (resolve TieBreak.closest previous current.index 9 = .resolved second ∧
      resolve TieBreak.closest current current.index 3 = .resolved second) ∧
    (resolve TieBreak.lowest previous current.index 9 = .resolved first ∧
      resolve TieBreak.lowest current current.index 2 = .resolved first) ∧
    (∃ y, resolve TieBreak.closest current current.index 4 = .resolved y ∧ y.Resembles third ∧
      y.id ≤ 4) ∧
    resolve TieBreak.closest current current.index 5 = .resolved fourth := by
  intro message first second third fourth previous current
  have hclosest : resolve TieBreak.closest previous current.index 9 = .resolved second := by decide
  have hlowest : resolve TieBreak.lowest previous current.index 9 = .resolved first := by decide
  obtain ⟨y, hy, hresembles, hid, -⟩ := resolve_stable.2 current third (by decide) (by decide)
  obtain ⟨z, hz, -, -, hself⟩ := resolve_stable.2 current fourth (by decide) (by decide)
  have hshape : ∀ m ∈ current.messages, m.id < 5 →
      Shape.ofSignature? m.signature ≠ some ⟨["Boolean"]⟩ := by decide
  rw [hself fun m hm _ hlt h => hshape m hm hlt (h.shape _ (by decide))] at hz
  exact ⟨⟨hclosest, resolve_stable.1 _ (Or.inl rfl) previous current 9 second hclosest⟩,
    ⟨hlowest, resolve_stable.1 _ (Or.inr rfl) previous current 9 first hlowest⟩,
    ⟨y, hy, hresembles, hid⟩, hz⟩

end Renumber
