import Mathlib
import Renumber.Proofs.Snapshot.RoundTrip
import Renumber.Proofs.Wire.Truncated

/-!
# A snapshot that was cut off

The bytes of a snapshot are its top-level fields one after the other: the label, unless it is empty,
and the entries (`Snapshot.flatten_fields`).  Bytes from the front of a written snapshot either end
where one of these fields does, and are read as the snapshot with fewer entries, or end inside of one
and are refused (`Snapshot.ofBytes?_isOk_iff_endsField`).  Where the cut is inside of an entry does
not matter, even if the bytes up to there would be an entry of their own.
-/

namespace Renumber

open Wire

namespace Snapshot

/-- The top-level fields that are written for a snapshot. -/
def fields (s : Snapshot) : List (List UInt8) :=
  (if s.label = "" then [] else [delimited 1 (Text.bytesOf s.label)]) ++
    s.entries.map fun e => delimited 2 e.bytes

/-- The snapshot with its first entries only. -/
def take (s : Snapshot) (k : Nat) : Snapshot := { s with entries := s.entries.take k }

/-! ## Fields -/

theorem flatten_fields (s : Snapshot) : s.fields.flatten = s.bytes := by
  unfold fields bytes textField
  split <;> simp [List.flatMap_def]

theorem fields_take (s : Snapshot) (k : Nat) :
    (s.take k).fields = s.fields.take ((if s.label = "" then 0 else 1) + k) := by
  unfold fields take
  by_cases hlabel : s.label = ""
  · simp [hlabel]
  · simp [hlabel, Nat.add_comm 1 k]

/-- Up to the end of a top-level field the bytes are a snapshot with fewer entries, or nothing. -/
theorem flatten_take_fields (s : Snapshot) (n : Nat) :
    (s.fields.take n).flatten = [] ∨ ∃ k, (s.fields.take n).flatten = (s.take k).bytes := by
  by_cases hn : n < if s.label = "" then 0 else 1
  · have hzero : n = 0 := by
      split at hn <;> omega
    left
    rw [hzero]
    rfl
  · obtain ⟨k, rfl⟩ := Nat.exists_eq_add_of_le (Nat.le_of_not_lt hn)
    right
    exact ⟨k, by rw [← fields_take, flatten_fields]⟩

theorem take_min (s : Snapshot) (k : Nat) : s.take (min k s.entries.length) = s.take k := by
  unfold take
  rw [List.take_eq_take_iff.2]
  omega

/-! ## Reading the fields that are there -/

theorem breaks_label {label : String} (hlen : (Text.bytesOf label).length < 2 ^ 64) (s : Snapshot)
    (depth : Nat) : Breaks (readField depth) s (delimited 1 (Text.bytesOf label)) := by
  refine Breaks.delimited (by decide) (by decide) fun part hcut => ?_
  obtain ⟨fault, hshort, hread⟩ := readText_of_cutOff hlen hcut
  refine ⟨_, hshort.within "RevisionSnapshot.revision", ?_⟩
  simp [readField, hread, located, Except.mapError, Except.map]

theorem breaks_entry {e : SnapshotEntry} (hlen : e.bytes.length < 2 ^ 64) (s : Snapshot)
    (depth : Nat) : Breaks (readField (depth + 1)) s (delimited 2 e.bytes) := by
  refine Breaks.delimited (by decide) (by decide) fun part hcut => ?_
  obtain ⟨fault, hshort, hread⟩ :=
    readMessage_of_cutOff SnapshotEntry.readField {} depth hlen hcut
  refine ⟨_, hshort.within "RevisionSnapshot.messages", ?_⟩
  simp [readField, hread, located, Except.mapError, Except.map]

theorem readFields_nil {α : Type} (readField : FieldReader α) (m : α) {fuel : Nat}
    (hfuel : 0 < fuel) : readFields readField 0 fuel m [] = .ok (m, []) := by
  cases fuel with
  | zero => exact absurd hfuel (Nat.lt_irrefl 0)
  | succ fuel => rfl

/-- What is there of some entries ends behind one of them and is read, or runs short. -/
theorem readFields_entries {entries : List SnapshotEntry}
    (h : ∀ e ∈ entries, e.bytes.length < 2 ^ 64) (s : Snapshot) (depth : Nat) {part : List UInt8}
    (hpart : part <+: entries.flatMap fun e => delimited 2 e.bytes) {fuel : Nat}
    (hfuel : part.length < fuel) :
    (∃ k, part = (entries.take k).flatMap (fun e => delimited 2 e.bytes) ∧
      readFields (readField (depth + 1)) 0 fuel s part =
        .ok ({ s with entries := s.entries ++ entries.take k }, [])) ∨
    ((∀ k, part ≠ (entries.take k).flatMap fun e => delimited 2 e.bytes) ∧
      ∃ fault : Fault, fault.IsShortage ∧
        readFields (readField (depth + 1)) 0 fuel s part = .error fault) := by
  induction entries generalizing s part fuel with
  | nil =>
    obtain rfl := List.prefix_nil.1 hpart
    exact .inl ⟨0, rfl, by simp [readFields_nil _ s hfuel]⟩
  | cons e rest ih =>
    have hlen := h e List.mem_cons_self
    by_cases hnil : part = []
    · subst hnil
      exact .inl ⟨0, rfl, by simp [readFields_nil _ s hfuel]⟩
    rw [List.flatMap_cons] at hpart
    obtain hcut | ⟨tail, rfl, htail⟩ := prefix_append_cases hpart
    · refine .inr ⟨fun k heq => ?_, breaks_entry hlen s depth part fuel hnil hcut hfuel⟩
      cases k with
      | zero => exact hnil heq
      | succ k =>
        have hlt := hcut.length_lt
        rw [heq, List.take_succ_cons, List.flatMap_cons, List.length_append] at hlt
        omega
    · have hentry := reads_entries (fun e' he' => List.mem_singleton.1 he' ▸ hlen) s depth
      rw [List.flatMap_singleton] at hentry
      obtain ⟨fuel', hfuel', hread⟩ := hentry 0 fuel tail (Nat.zero_le _) hfuel
      rw [hread]
      obtain ⟨k, rfl, hrest⟩ | ⟨hne, hrest⟩ := ih (fun e' he' => h e' (List.mem_cons_of_mem _ he'))
        { s with entries := s.entries ++ [e] } htail hfuel'
      · refine .inl ⟨k + 1, by rw [List.take_succ_cons, List.flatMap_cons], ?_⟩
        rw [hrest, List.take_succ_cons, List.append_assoc, List.singleton_append]
      · refine .inr ⟨fun k heq => ?_, hrest⟩
        cases k with
        | zero => exact hnil heq
        | succ k =>
          rw [List.take_succ_cons, List.flatMap_cons] at heq
          exact hne k (List.append_cancel_left heq)

/-- Bytes from the front of a written snapshot are none at all, or a snapshot with fewer entries, or
run short. -/
theorem ofBytes?_cases {s : Snapshot} (hs : s.LengthsFit) {part : List UInt8}
    (hpart : part <+: s.bytes) :
    (part = [] ∧ ofBytes? part = .ok {}) ∨
    (∃ k, part = (s.take k).bytes ∧ ofBytes? part = .ok (s.take k)) ∨
    (part ≠ [] ∧ (∀ k, part ≠ (s.take k).bytes) ∧
      ∃ fault : Fault, fault.IsShortage ∧ ofBytes? part = .error (.malformedSnapshot fault)) := by
  have hfuel : part.length < part.length + 1 := Nat.lt_succ_self _
  unfold ofBytes?
  by_cases hnil : part = []
  · subst hnil
    exact .inl ⟨rfl, rfl⟩
  right
  obtain hcut | ⟨tail, rfl, htail⟩ := prefix_append_cases hpart
  · -- the label is not there as a whole, so nothing is, whatever the number of entries
    right
    refine ⟨hnil, fun k heq => ?_, ?_⟩
    · have hlt := hcut.length_lt
      rw [heq, bytes, List.length_append] at hlt
      exact absurd (Nat.le_add_right _ _) (Nat.not_le_of_lt hlt)
    · unfold textField at hcut
      split at hcut
      · exact absurd (List.prefix_nil.1 hcut.isPrefix) hnil
      · obtain ⟨fault, hshort, hread⟩ := breaks_label hs.label {} nestingLimit part _ hnil hcut hfuel
        exact ⟨fault, hshort, by rw [hread]⟩
  · obtain ⟨fuel, hfuel', hread⟩ :=
      reads_label hs.label nestingLimit 0 _ tail (Nat.zero_le _) hfuel
    rw [hread]
    obtain ⟨k, rfl, hrest⟩ | ⟨hne, fault, hshort, hrest⟩ :=
      readFields_entries hs.entries { label := s.label } 99 htail hfuel'
    · refine .inl ⟨k, rfl, ?_⟩
      rw [show nestingLimit = 99 + 1 from rfl, hrest]
      rfl
    · refine .inr ⟨hnil, fun k heq => hne k (List.append_cancel_left heq), fault, hshort, ?_⟩
      rw [show nestingLimit = 99 + 1 from rfl, hrest]

/-! ## Main theorem -/

/-- Bytes from the front of a written snapshot are read exactly if they end where a top-level field
does: as nothing if there are none, and otherwise as the snapshot with the entries that are there.  In
all other places they are found to be malformed. -/
theorem ofBytes?_isOk_iff_endsField (s : Snapshot) (hs : s.LengthsFit) (part : List UInt8)
    (hpart : part <+: s.bytes) :
    ((∃ t, ofBytes? part = .ok t) ↔ ∃ n, part = (s.fields.take n).flatten) ∧
    (part = [] → ofBytes? part = .ok {}) ∧
    (∀ t, part ≠ [] → ofBytes? part = .ok t →
      ∃ k ≤ s.entries.length, part = (s.take k).bytes ∧ t = s.take k) ∧
    ((∀ n, part ≠ (s.fields.take n).flatten) →
      ∃ fault : Fault, fault.IsShortage ∧ ofBytes? part = .error (.malformedSnapshot fault)) := by
  obtain ⟨rfl, hok⟩ | ⟨k, rfl, hok⟩ | ⟨hnil, hne, fault, hshort, herror⟩ := ofBytes?_cases hs hpart
  · refine ⟨⟨fun _ => ⟨0, rfl⟩, fun _ => ⟨{}, hok⟩⟩, fun _ => hok, fun _ h => absurd rfl h, fun h => ?_⟩
    exact absurd rfl (h 0)
  · have hend : (s.take k).bytes = (s.fields.take ((if s.label = "" then 0 else 1) + k)).flatten := by
      rw [← fields_take, flatten_fields]
    refine ⟨⟨fun _ => ⟨_, hend⟩, fun _ => ⟨_, hok⟩⟩, fun h => ?_, fun t _ ht => ?_, fun h => ?_⟩
    · rw [h]
      rfl
    · refine ⟨min k s.entries.length, Nat.min_le_right _ _, ?_⟩
      rw [take_min]
      exact ⟨rfl, (Except.ok.inj (hok.symm.trans ht)).symm⟩
    · exact absurd hend (h _)
  · refine ⟨⟨?_, ?_⟩, fun h => absurd h hnil, fun t _ ht => ?_, fun _ => ⟨fault, hshort, herror⟩⟩
    · rintro ⟨t, ht⟩
      rw [herror] at ht
      cases ht
    · rintro ⟨n, rfl⟩
      obtain hempty | ⟨k, hk⟩ := flatten_take_fields s n
      · exact absurd hempty hnil
      · exact absurd hk (hne k)
    · rw [herror] at ht
      cases ht

/-- A cut behind the first entry, and one inside of the second where the bytes of an entry end. -/
theorem ofBytes?_isOk_iff_endsField_insideEntry :
    let s : Snapshot :=
      { label := "v1", entries := [{ id := 7 }, { id := 8, fingerprint := "f" }] }
    s.LengthsFit ∧
    ([0x0A, 2, 0x76, 0x31, 0x12, 2, 8, 7] <+: s.bytes ∧
      ofBytes? [0x0A, 2, 0x76, 0x31, 0x12, 2, 8, 7] = .ok (s.take 1)) ∧
    ([0x0A, 2, 0x76, 0x31, 0x12, 2, 8, 7, 0x12, 5, 8, 8] <+: s.bytes ∧
      ∃ fault : Fault, fault.IsShortage ∧
        ofBytes? [0x0A, 2, 0x76, 0x31, 0x12, 2, 8, 7, 0x12, 5, 8, 8] =
          .error (.malformedSnapshot fault)) := by
  intro s
  have hfits : s.LengthsFit := by
    refine ⟨by decide, fun e he => ?_⟩
    have hsize : e.textSize < 2 := by
      rcases List.mem_cons.1 he with rfl | he
      · decide
      · obtain rfl := List.mem_singleton.1 he
        decide
    have hbytes := e.length_bytes_le (by omega)
    omega
  have hbytes : s.bytes = [0x0A, 2, 0x76, 0x31, 0x12, 2, 8, 7, 0x12, 5, 8, 8, 0x12, 1, 0x66] := by
    cbv
  have hends : ∀ k ≤ 2, [0x0A, 2, 0x76, 0x31, 0x12, 2, 8, 7] = (s.take k).bytes → k = 1 := by
    decide +kernel
  have hwhole : [0x0A, 2, 0x76, 0x31, 0x12, 2, 8, 7] <+: s.bytes := by
    rw [hbytes]
    decide
  have hpart : [0x0A, 2, 0x76, 0x31, 0x12, 2, 8, 7, 0x12, 5, 8, 8] <+: s.bytes := by
    rw [hbytes]
    decide
  obtain ⟨hiff, -, hread, -⟩ := ofBytes?_isOk_iff_endsField s hfits _ hwhole
  obtain ⟨t, ht⟩ := hiff.2 ⟨2, by cbv⟩
  obtain ⟨k, hk, hcut, rfl⟩ := hread t (List.cons_ne_nil _ _) ht
  rw [hends k hk hcut] at ht
  refine ⟨hfits, ⟨hwhole, ht⟩, hpart, (ofBytes?_isOk_iff_endsField s hfits _ hpart).2.2.2 fun n heq => ?_⟩
  have hlengths : ∀ n ≤ 3, ((s.fields.take n).flatten).length ≠ 12 := by decide +kernel
  have hmin : s.fields.take n = s.fields.take (min n 3) := List.take_eq_take_iff.2 (by simp [fields, s])
  rw [hmin] at heq
  exact hlengths (min n 3) (Nat.min_le_right _ _) (congrArg List.length heq).symm

end Snapshot

end Renumber
