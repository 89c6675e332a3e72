import Renumber.Proofs.Catalog.Build
import Renumber.Proofs.Resolution.Counterpart

/-!
# What an id is resolved by

Resolving an id looks at one message of the previous catalog, the one of this id, and at its
counterparts in the current catalog.  Nothing else in the two catalogs plays a part
(`resolve_isLocal`): no other message of the previous build, no dead message and no message of another
fingerprint of the current one, whichever tie-break decides.  Nor does the order in which the messages
were supplied: the counterparts reach the tie-break in the order of their ids.
-/

namespace Renumber

/-- The counterparts of a message as a list are determined by which messages they are. -/
theorem liveWith_congr {c c' : Catalog} {r : Message}
    (h : ∀ m, c.IsCounterpart r m ↔ c'.IsCounterpart r m) :
    liveWith r.fingerprint c.messages = liveWith r.fingerprint c'.messages := by
  refine (liveWith_ascending c _).eq_of_mem_iff (liveWith_ascending c' _) fun m => ?_
  rw [mem_liveWith, mem_liveWith]
  exact h m

/-! ## Main theorem -/

/-- An id is resolved in the same way from any two previous catalogs that hold the same message for it,
or none, to any two current catalogs in which this message has the same counterparts. -/
theorem resolve_isLocal (tieBreak : TieBreak) (previous previous' current current' : Catalog)
    (id : MessageId) (hprevious : previous.get? id = previous'.get? id)
    (hcurrent : ∀ r, previous.get? id = some r →
      ∀ m, current.IsCounterpart r m ↔ current'.IsCounterpart r m) :
    resolve tieBreak previous current.index id = resolve tieBreak previous' current'.index id := by
  cases hget : previous.get? id with
  | none =>
    have hget' : previous'.get? id = none := hprevious.symm.trans hget
    rw [resolve_eq_unknownId_iff.2 (Catalog.get?_eq_none_iff.1 hget),
      resolve_eq_unknownId_iff.2 (Catalog.get?_eq_none_iff.1 hget')]
  | some r =>
    obtain ⟨hr, hid⟩ := Catalog.get?_eq_some_iff.1 hget
    obtain ⟨hr', -⟩ := Catalog.get?_eq_some_iff.1 (hprevious.symm.trans hget)
    rw [resolve_of_mem hr hid, resolve_of_mem hr' hid, liveWith_congr (hcurrent r hget)]

/-- Two counterparts that are supplied in both orders, once among a dead message of the same
fingerprint and a message of another one; the previous builds agree on the id 3 alone. -/
theorem resolve_isLocal_otherMessages :
    let message (id : MessageId) (fingerprint : String) (references : UInt32) : Message :=
      { id, fingerprint, direction := .incoming, references }
    let previous : Catalog :=
      ⟨.incoming, [message 1 "g" 1, message 3 "f" 4], by decide, by decide, by decide⟩
    let previous' : Catalog :=
      ⟨.incoming, [message 3 "f" 4, message 4 "f" 1], by decide, by decide, by decide⟩
    let current : Catalog :=
      ⟨.incoming, [message 6 "f" 9, message 8 "f" 5], by decide, by decide, by decide⟩
    let current' : Catalog :=
      ⟨.incoming, [message 2 "f" 0, message 6 "f" 9, message 7 "g" 4, message 8 "f" 5],
        by decide, by decide, by decide⟩
    Catalog.ofMessages .incoming [message 6 "f" 9, message 8 "f" 5] = .ok current ∧
    Catalog.ofMessages .incoming
        [message 8 "f" 5, message 7 "g" 4, message 6 "f" 9, message 2 "f" 0] = .ok current' ∧
    resolve TieBreak.closest previous current.index 3 = .resolved (message 8 "f" 5) ∧
    resolve TieBreak.closest previous' current'.index 3 = .resolved (message 8 "f" 5) ∧
    resolve TieBreak.lowest previous current.index 3 = .resolved (message 6 "f" 9) ∧
    resolve TieBreak.lowest previous' current'.index 3 = .resolved (message 6 "f" 9) := by
  intro message previous previous' current current'
  have hprevious : previous.get? 3 = previous'.get? 3 := by decide
  have hcurrent : ∀ r, previous.get? 3 = some r →
      ∀ m, current.IsCounterpart r m ↔ current'.IsCounterpart r m := by
    intro r hr m
    obtain rfl : message 3 "f" 4 = r := Option.some.inj hr
    simp only [Catalog.IsCounterpart, current, current', List.mem_cons, List.not_mem_nil, or_false]
    grind
  have hclosest : resolve TieBreak.closest previous current.index 3 = .resolved (message 8 "f" 5) := by
    decide
  have hlowest : resolve TieBreak.lowest previous current.index 3 = .resolved (message 6 "f" 9) := by
    decide
  refine ⟨rfl, rfl, hclosest, ?_, hlowest, ?_⟩
  · rw [← resolve_isLocal TieBreak.closest _ _ _ _ 3 hprevious hcurrent, hclosest]
  · rw [← resolve_isLocal TieBreak.lowest _ _ _ _ 3 hprevious hcurrent, hlowest]

end Renumber
