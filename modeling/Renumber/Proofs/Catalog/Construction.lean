import Renumber.Proofs.Catalog.Refusal

/-!
# What making a catalog of messages comes to

A list of messages makes a catalog if all of them have its direction and no two have the same id.  Then
the catalog holds every message of the list once and nothing else, in the order of the ids and, if they
are outgoing, without their parsers (`IsCatalogOf`); the order of the list leaves no trace
(`Catalog.ofMessages_perm`).  Otherwise the list has a first message that is refused, and this refusal is the
error (`IsFirstRefusal`).
-/

namespace Renumber

/-- The catalog holds the messages of the list. -/
structure IsCatalogOf (direction : Direction) (messages : List Message) (c : Catalog) : Prop where
  direction_eq : c.direction = direction
  ascending : c.messages.Pairwise (·.id < ·.id)
  perm : c.messages.Perm
    (messages.map fun m => if direction = .outgoing then { m with parser := none } else m)
  size_eq : c.size = messages.length
  get?_of_mem : ∀ m ∈ messages,
    c.get? m.id = some (if direction = .outgoing then { m with parser := none } else m)
  get?_of_fresh : ∀ id, (∀ m ∈ messages, m.id ≠ id) → c.get? id = none

namespace Catalog

variable {c : Catalog} {messages messages' : List Message} {direction : Direction}

/-! ## Lemmas -/

theorem normalize_eq (direction : Direction) (m : Message) :
    normalize direction m = if direction = .outgoing then { m with parser := none } else m := by
  cases direction <;> rfl

theorem isCatalogOf_of_ofMessages (h : ofMessages direction messages = .ok c) :
    IsCatalogOf direction messages c := by
  obtain ⟨hdirection, -, hperm⟩ := ofMessages_eq_ok_iff.1 h
  refine ⟨hdirection, c.ascending, ?_, ?_, fun m hm => ?_, fun id hfresh => ?_⟩
  · simpa only [← normalize_eq] using hperm
  · rw [size, hperm.length_eq, List.length_map]
  · rw [← normalize_eq, get?_eq_some_iff, hperm.mem_iff, normalize_id]
    exact ⟨List.mem_map_of_mem hm, rfl⟩
  · refine get?_eq_none_iff.2 fun s hs => ?_
    obtain ⟨m, hm, rfl⟩ := List.mem_map.1 (hperm.mem_iff.1 hs)
    rw [normalize_id]
    exact hfresh m hm

/-- The order of the list does not matter. -/
theorem ofMessages_perm (hperm : messages'.Perm messages) (h : ofMessages direction messages = .ok c) :
    ofMessages direction messages' = .ok c := by
  rw [ofMessages_eq_ok_iff] at h ⊢
  obtain ⟨hdirection, hall, hc⟩ := h
  exact ⟨hdirection, fun m hm => hall m (hperm.mem_iff.1 hm), hc.trans (hperm.symm.map _)⟩

/-! ## Main theorem -/

/-- Messages of one direction without repeated ids make a catalog of them, the same in any order; all
other lists end in their first refusal. -/
theorem ofMessages_isExact (direction : Direction) (messages : List Message) :
    ((∃ c, ofMessages direction messages = .ok c) ↔
      (∀ m ∈ messages, m.direction = direction) ∧ (messages.map (·.id)).Nodup) ∧
    (∀ c, ofMessages direction messages = .ok c → IsCatalogOf direction messages c ∧
      ∀ messages' : List Message, messages'.Perm messages →
        ofMessages direction messages' = .ok c) ∧
    ∀ e, ofMessages direction messages = .error e ↔ IsFirstRefusal direction messages e :=
  ⟨exists_ofMessages_eq_ok_iff,
    fun _ h => ⟨isCatalogOf_of_ofMessages h, fun _ hperm => ofMessages_perm hperm h⟩,
    fun _ => ofMessages_eq_error_iff_isFirstRefusal⟩

/-- Two outgoing messages out of order, one with a parser; with a third one the list is refused, for
the direction of this message although its id occurred before. -/
theorem ofMessages_isExact_twoMessages :
    let late : Message := { id := 9, fingerprint := "f", direction := .outgoing, parser := "P" }
    let early : Message := { id := 4, fingerprint := "g", direction := .outgoing }
    let other : Message := { id := 9, fingerprint := "h", direction := .incoming }
    (∃ c, ofMessages .outgoing [late, early] = .ok c ∧
      c.messages = [early, { late with parser := none }] ∧ c.get? 9 = some { late with parser := none } ∧
      c.get? 5 = none ∧ ofMessages .outgoing [early, late] = .ok c) ∧
    ofMessages .outgoing [late, early, other, late] = .error (.wrongDirection 9 .outgoing .incoming) := by
  intro late early other
  obtain ⟨hiff, hok, -⟩ := ofMessages_isExact .outgoing [late, early]
  obtain ⟨c, hc⟩ := hiff.2 (by decide)
  obtain ⟨hcatalog, hperm⟩ := hok c hc
  refine ⟨⟨c, hc, ?_, hcatalog.get?_of_mem late (by simp), hcatalog.get?_of_fresh 5 (by decide), ?_⟩, ?_⟩
  · refine hcatalog.perm.trans ?_ |>.eq_of_pairwise' hcatalog.ascending (by decide)
    exact .swap ..
  · exact hperm _ (.swap ..)
  · refine ((ofMessages_isExact .outgoing [late, early, other, late]).2.2 _).2 ?_
    exact ⟨[late, early], other, [late], rfl, by decide, by decide, .inl ⟨by decide, rfl⟩⟩

end Catalog

end Renumber
