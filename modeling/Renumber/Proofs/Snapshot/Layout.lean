import Mathlib.Data.List.Forall2
import Renumber.Proofs.Wire.Layout
import Renumber.Snapshot.Basic

/-!
# The ways to store a snapshot

A snapshot need not be stored as it is written here.  The fields of an entry may stand in any order;
zeros and empty texts may be written or left out; a field may stand there several times, and then the
last one counts; and fields of other tags may stand between them.  The same goes for the snapshot
itself: its entries stand in their order, and its label anywhere among them (`Snapshot.IsStoredAs`).

All these ways are read alike (`Snapshot.ofBytes?_of_isStoredAs`).  An entry takes from each field what
it holds (`SnapshotEntry.absorb`), and what it has at the end is what the last fields say.
-/

namespace Renumber

open Wire

namespace SnapshotEntry

/-- A field may stand in an entry if it holds what its tag is for; other tags are free. -/
structure Admits (f : StoredField) : Prop where
  number : f.tag ∈ [1, 3, 4] → ∃ n, f.value = .number n
  text : f.tag ∈ [2, 5, 6, 7] → ∃ text, f.value = .delimited (Text.bytesOf text)

/-- The entry that some fields are those of: the last field of a tag counts. -/
structure HasFields (e : SnapshotEntry) (fields : List StoredField) : Prop where
  admits : ∀ f ∈ fields, Admits f
  id : e.id = ((numbersOf 1 fields).map UInt32.ofNat).getLastD 0
  fingerprint : e.fingerprint = (textsOf 2 fields).getLastD ""
  direction : e.direction = ((numbersOf 3 fields).map Int32.ofNat).getLastD 0
  references : e.references = ((numbersOf 4 fields).map UInt32.ofNat).getLastD 0
  signature : e.signature = (textsOf 5 fields).getLastD ""
  name : e.name = (textsOf 6 fields).getLastD ""
  parser : e.parser = (textsOf 7 fields).getLast?

/-- Bytes that an entry may be stored as. -/
def IsStoredAs (e : SnapshotEntry) (content : List UInt8) : Prop :=
  ∃ fields, HoldsFields fields content ∧ e.HasFields fields

/-- The entry after one more field. -/
def absorb (e : SnapshotEntry) (f : StoredField) : SnapshotEntry where
  id := ((f.numberAt? 1).map UInt32.ofNat).getD e.id
  fingerprint := (f.textAt? 2).getD e.fingerprint
  direction := ((f.numberAt? 3).map Int32.ofNat).getD e.direction
  references := ((f.numberAt? 4).map UInt32.ofNat).getD e.references
  signature := (f.textAt? 5).getD e.signature
  name := (f.textAt? 6).getD e.name
  parser := ((f.textAt? 7).map some).getD e.parser

end SnapshotEntry

namespace Snapshot

/-- A field may stand in a snapshot if it holds what its tag is for; other tags are free. -/
structure Admits (f : StoredField) : Prop where
  label : f.tag = 1 → ∃ text, f.value = .delimited (Text.bytesOf text)
  entry : f.tag = 2 → ∃ content, f.value = .delimited content

/-- Bytes that a snapshot may be stored as. -/
def IsStoredAs (s : Snapshot) (bytes : List UInt8) : Prop :=
  ∃ fields, HoldsFields fields bytes ∧ (∀ f ∈ fields, Admits f) ∧
    s.label = (textsOf 1 fields).getLastD "" ∧
    List.Forall₂ SnapshotEntry.IsStoredAs s.entries (contentsOf 2 fields)

end Snapshot

/-! ## Entries -/

namespace SnapshotEntry

/-- An entry takes from a field what the field holds, and nothing from a field of another tag. -/
theorem readField_absorb {f : StoredField} (hf : Admits f) (depth : Nat) (e : SnapshotEntry)
    {value : List UInt8} (h : f.value.IsForm value) (rest : List UInt8) :
    readField (depth + 1) e f.key (value ++ rest) = .ok (e.absorb f, rest) := by
  have htag : f.key.tag = f.tag := rfl
  by_cases hnumber : f.tag ∈ [1, 3, 4]
  · obtain ⟨n, hn⟩ := hf.number hnumber
    have htype : f.key.type = .varint := by rw [StoredField.key, hn]; rfl
    rw [hn, FieldValue.isForm_number_iff] at h
    have hread := readNumber_of_isVarint h rest
    simp only [List.mem_cons, List.not_mem_nil, or_false] at hnumber
    rcases hnumber with hf | hf | hf <;>
      simp [readField, htag, htype, hf, hread, located, Except.mapError, Except.map, absorb,
        StoredField.numberAt?_of_number hn, StoredField.textAt?, StoredField.contentAt?_of_number hn]
  by_cases htext : f.tag ∈ [2, 5, 6, 7]
  · obtain ⟨text, ht⟩ := hf.text htext
    have htype : f.key.type = .lengthDelimited := by rw [StoredField.key, ht]; rfl
    rw [ht, FieldValue.isForm_delimited_iff] at h
    obtain ⟨length, h, rfl⟩ := h
    have hread := readText_of_isVarint h rest
    simp only [List.mem_cons, List.not_mem_nil, or_false] at htext
    rcases htext with hf | hf | hf | hf <;>
      simp [readField, htag, htype, hf, hread, located, Except.mapError, Except.map, absorb,
        StoredField.numberAt?_of_delimited ht, StoredField.textAt?_of_delimited ht,
        -List.append_assoc]
  · have hskip := skipField_of_isForm h depth rest
    simp only [List.mem_cons, List.not_mem_nil, or_false, not_or] at hnumber htext
    obtain ⟨h1, h3, h4⟩ := hnumber
    obtain ⟨h2, h5, h6, h7⟩ := htext
    have habsorb : e.absorb f = e := by
      unfold absorb
      simp only [StoredField.numberAt?_of_ne h1, StoredField.textAt?_of_ne h2,
        StoredField.numberAt?_of_ne h3, StoredField.numberAt?_of_ne h4, StoredField.textAt?_of_ne h5,
        StoredField.textAt?_of_ne h6, StoredField.textAt?_of_ne h7, Option.map_none, Option.getD_none]
    rw [habsorb]
    unfold readField
    rw [hskip, htag]
    split <;> first | contradiction | rfl

/-- An entry that takes in all its fields is the entry that they are those of. -/
theorem foldl_absorb {e : SnapshotEntry} {fields : List StoredField} (h : e.HasFields fields) :
    fields.foldl absorb {} = e := by
  have hid : (fields.foldl absorb {}).id = e.id := by
    rw [h.id, numbersOf, List.map_filterMap]
    exact foldl_eq_getLastD absorb SnapshotEntry.id (fun _ _ => rfl) fields {}
  have hfingerprint : (fields.foldl absorb {}).fingerprint = e.fingerprint := by
    rw [h.fingerprint]
    exact foldl_eq_getLastD absorb SnapshotEntry.fingerprint (fun _ _ => rfl) fields {}
  have hdirection : (fields.foldl absorb {}).direction = e.direction := by
    rw [h.direction, numbersOf, List.map_filterMap]
    exact foldl_eq_getLastD absorb SnapshotEntry.direction (fun _ _ => rfl) fields {}
  have hreferences : (fields.foldl absorb {}).references = e.references := by
    rw [h.references, numbersOf, List.map_filterMap]
    exact foldl_eq_getLastD absorb SnapshotEntry.references (fun _ _ => rfl) fields {}
  have hsignature : (fields.foldl absorb {}).signature = e.signature := by
    rw [h.signature]
    exact foldl_eq_getLastD absorb SnapshotEntry.signature (fun _ _ => rfl) fields {}
  have hname : (fields.foldl absorb {}).name = e.name := by
    rw [h.name]
    exact foldl_eq_getLastD absorb SnapshotEntry.name (fun _ _ => rfl) fields {}
  have hparser : (fields.foldl absorb {}).parser = e.parser := by
    have hlast : e.parser = ((textsOf 7 fields).map some).getLastD none := by
      rw [h.parser, List.getLastD_eq_getLast?, List.getLast?_map]
      cases (textsOf 7 fields).getLast? <;> rfl
    rw [hlast, textsOf, List.map_filterMap]
    exact foldl_eq_getLastD absorb SnapshotEntry.parser (fun _ _ => rfl) fields {}
  calc fields.foldl absorb {}
      = ⟨(fields.foldl absorb {}).id, (fields.foldl absorb {}).fingerprint,
          (fields.foldl absorb {}).direction, (fields.foldl absorb {}).references,
          (fields.foldl absorb {}).signature, (fields.foldl absorb {}).name,
          (fields.foldl absorb {}).parser⟩ := rfl
    _ = e := by
      rw [hid, hfingerprint, hdirection, hreferences, hsignature, hname, hparser]

theorem IsStoredAs.reads {e : SnapshotEntry} {content : List UInt8} (h : e.IsStoredAs content)
    (depth : Nat) : Reads (readField (depth + 1)) ({} : SnapshotEntry) content e := by
  obtain ⟨fields, hholds, hfields⟩ := h
  rw [← foldl_absorb hfields]
  exact Reads.holdsFields hholds
    (fun f hf m _ hvalue rest => readField_absorb (hfields.admits f hf) depth m hvalue rest) {}

end SnapshotEntry

/-! ## Snapshots -/

namespace Snapshot

theorem reads_holdsFields {fields : List StoredField} {bytes : List UInt8}
    (h : HoldsFields fields bytes) (hadmits : ∀ f ∈ fields, Admits f) {entries : List SnapshotEntry}
    (hentries : List.Forall₂ SnapshotEntry.IsStoredAs entries (contentsOf 2 fields)) (depth : Nat)
    (s : Snapshot) :
    Reads (readField (depth + 2)) s bytes
      { label := (textsOf 1 fields).getLastD s.label, entries := s.entries ++ entries } := by
  induction h generalizing s entries with
  | nil =>
    obtain rfl := List.forall₂_nil_right_iff.1 hentries
    rw [List.append_nil]
    exact Reads.nil _ s
  | @cons f fields key value rest hkey hvalue hrest ih =>
    have hrestAdmits : ∀ g ∈ fields, Admits g := fun g hg => hadmits g (List.mem_cons_of_mem _ hg)
    have hf := hadmits f List.mem_cons_self
    have htag : f.key.tag = f.tag := rfl
    unfold contentsOf at hentries
    unfold textsOf
    rw [List.filterMap_cons] at hentries ⊢
    by_cases hlabel : f.tag = 1
    · obtain ⟨text, ht⟩ := hf.label hlabel
      have htype : f.key.type = .lengthDelimited := by rw [StoredField.key, ht]; rfl
      rw [StoredField.contentAt?_of_ne (by omega)] at hentries
      rw [StoredField.textAt?_of_delimited ht, if_pos hlabel, List.getLastD_cons]
      have hfield : Reads (readField (depth + 2)) s (key ++ value) { s with label := text } := by
        refine Reads.storedField hkey fun rest => ?_
        rw [ht, FieldValue.isForm_delimited_iff] at hvalue
        obtain ⟨length, hlength, rfl⟩ := hvalue
        have hread := readText_of_isVarint hlength rest
        simp [readField, htag, htype, hlabel, hread, located, Except.mapError, Except.map,
          -List.append_assoc]
      exact hfield.append (ih hrestAdmits hentries { s with label := text })
    rw [StoredField.textAt?_of_ne hlabel]
    by_cases hentry : f.tag = 2
    · obtain ⟨content, hc⟩ := hf.entry hentry
      have htype : f.key.type = .lengthDelimited := by rw [StoredField.key, hc]; rfl
      rw [StoredField.contentAt?_of_delimited hc, if_pos hentry] at hentries
      obtain ⟨e, others, he, hothers, rfl⟩ := List.forall₂_cons_right_iff.1 hentries
      have hfield : Reads (readField (depth + 2)) s (key ++ value)
          { s with entries := s.entries ++ [e] } := by
        refine Reads.storedField hkey fun rest => ?_
        rw [hc, FieldValue.isForm_delimited_iff] at hvalue
        obtain ⟨length, hlength, rfl⟩ := hvalue
        have hread := readMessage_of_isVarint hlength (he.reads depth) rest
        simp [readField, htag, htype, hentry, hread, located, Except.mapError, Except.map,
          -List.append_assoc]
      have := ih hrestAdmits hothers { s with entries := s.entries ++ [e] }
      rw [List.append_assoc] at this
      exact hfield.append this
    · rw [StoredField.contentAt?_of_ne hentry] at hentries
      have hfield : Reads (readField (depth + 2)) s (key ++ value) s := by
        refine Reads.storedField hkey fun rest => ?_
        have hskip := skipField_of_isForm hvalue (depth + 1) rest
        unfold readField
        rw [hskip, htag]
        split <;> first | contradiction | rfl
      exact hfield.append (ih hrestAdmits hentries s)

/-! ## Main theorem -/

/-- A snapshot is read from all bytes that it may be stored as. -/
theorem ofBytes?_of_isStoredAs (s : Snapshot) (bytes : List UInt8) (h : s.IsStoredAs bytes) :
    ofBytes? bytes = .ok s := by
  obtain ⟨fields, hholds, hadmits, hlabel, hentries⟩ := h
  have hread := reads_holdsFields hholds hadmits hentries 98 {}
  have hfuel : (bytes ++ []).length < bytes.length + 1 := by
    rw [List.append_nil]
    exact Nat.lt_succ_self _
  have hend := hread.readFields_eq [] hfuel
  rw [List.append_nil, ← hlabel] at hend
  unfold ofBytes?
  rw [show (0 : Nat) = ([] : List UInt8).length from rfl, show nestingLimit = 98 + 2 from rfl, hend]
  rfl

/-- Entries before and between the labels; in the entry, fields from the last to the first, some of
them twice or longer than they need, a zero that is written, and fields of other tags. -/
theorem ofBytes?_of_isStoredAs_backwards :
    let s : Snapshot := { label := "r2", entries := [{ id := 7, fingerprint := "f" }, {}] }
    let entry : List UInt8 :=
      [0x42, 0x01, 0xFF, 0x4D, 1, 2, 3, 4, 0x20, 0x00, 0x12, 0x00, 0x12, 0x01, 0x66,
        0x08, 0x09, 0x08, 0x87, 0x00]
    let bytes : List UInt8 :=
      [0x12, 0x94, 0x00] ++ entry ++
        [0x0A, 0x01, 0x72, 0x19, 1, 2, 3, 4, 5, 6, 7, 8, 0x12, 0x00, 0x20, 0x05,
          0x0A, 0x02, 0x72, 0x32]
    s.IsStoredAs bytes ∧ ofBytes? bytes = .ok s := by
  intro s entry bytes
  have hentry : SnapshotEntry.IsStoredAs { id := 7, fingerprint := "f" } entry := by
    refine ⟨[⟨8, .delimited [0xFF], by decide, by decide⟩,
      ⟨9, .fixed32 [1, 2, 3, 4], by decide, by decide⟩, ⟨4, .number 0, by decide, by decide⟩,
      ⟨2, .delimited [], by decide, by decide⟩, ⟨2, .delimited [0x66], by decide, by decide⟩,
      ⟨1, .number 9, by decide, by decide⟩, ⟨1, .number 7, by decide, by decide⟩], ?_, ?_⟩
    · refine .cons (k := [0x42]) (v := [0x01, 0xFF]) (by decide) (by decide) ?_
      refine .cons (k := [0x4D]) (v := [1, 2, 3, 4]) (by decide) (by decide) ?_
      refine .cons (k := [0x20]) (v := [0]) (by decide) (by decide) ?_
      refine .cons (k := [0x12]) (v := [0]) (by decide) (by decide) ?_
      refine .cons (k := [0x12]) (v := [0x01, 0x66]) (by decide) (by decide) ?_
      refine .cons (k := [0x08]) (v := [0x09]) (by decide) (by decide) ?_
      exact .cons (k := [0x08]) (v := [0x87, 0x00]) (by decide) (by decide) .nil
    · refine ⟨?_, rfl, ?_, rfl, rfl, rfl, rfl, rfl⟩
      · simp only [List.forall_mem_cons, List.not_mem_nil, false_implies, implies_true, and_true]
        refine ⟨?_, ?_, ?_, ⟨by simp, fun _ => ⟨"", rfl⟩⟩, ⟨by simp, fun _ => ⟨"f", rfl⟩⟩, ?_, ?_⟩ <;>
          constructor <;> simp
      · rfl
  have hempty : SnapshotEntry.IsStoredAs {} [] := by
    refine ⟨[], .nil, ⟨?_, rfl, rfl, rfl, rfl, rfl, rfl, rfl⟩⟩
    simp
  have hs : s.IsStoredAs bytes := by
    refine ⟨[⟨2, .delimited entry, by decide, by decide⟩, ⟨1, .delimited [0x72], by decide, by decide⟩,
      ⟨3, .fixed64 [1, 2, 3, 4, 5, 6, 7, 8], by decide, by decide⟩,
      ⟨2, .delimited [], by decide, by decide⟩, ⟨4, .number 5, by decide, by decide⟩,
      ⟨1, .delimited [0x72, 0x32], by decide, by decide⟩], ?_, ?_, rfl, ?_⟩
    · refine .cons (k := [0x12]) (v := 0x94 :: 0x00 :: entry) (by decide) (by decide) ?_
      refine .cons (k := [0x0A]) (v := [0x01, 0x72]) (by decide) (by decide) ?_
      refine .cons (k := [0x19]) (v := [1, 2, 3, 4, 5, 6, 7, 8]) (by decide) (by decide) ?_
      refine .cons (k := [0x12]) (v := [0]) (by decide) (by decide) ?_
      refine .cons (k := [0x20]) (v := [0x05]) (by decide) (by decide) ?_
      exact .cons (k := [0x0A]) (v := [0x02, 0x72, 0x32]) (by decide) (by decide) .nil
    · simp only [List.forall_mem_cons, List.not_mem_nil, false_implies, implies_true, and_true]
      refine ⟨?_, ⟨fun _ => ⟨"r", rfl⟩, by simp⟩, ?_, ?_, ?_, ⟨fun _ => ⟨"r2", rfl⟩, by simp⟩⟩ <;>
        constructor <;> simp
    · exact .cons hentry (.cons hempty .nil)
  exact ⟨hs, ofBytes?_of_isStoredAs s bytes hs⟩

end Snapshot

end Renumber
