import Mathlib.Algebra.Order.BigOperators.Group.List
import Mathlib.Algebra.Order.Ring.Nat
import Renumber.Proofs.Wire.Size
import Renumber.Proofs.Wire.Written
import Renumber.Snapshot.Basic

/-!
# A snapshot that was written is read back

An entry is written field by field, and reading the fields fills the empty entry step by step up to
the one that was written (`SnapshotEntry.reads_bytes`); a snapshot is read back label first and then
entry by entry (`Snapshot.ofBytes?_bytes`).

Lengths are written as numbers of 64 bits, so those of the label and of the entries have to be such
(`Snapshot.LengthsFit`).  What is read from bytes that can be addressed is never too long, although
written again it may be longer than the bytes it was read from (`Snapshot.lengthsFit_of_ofBytes?`).
-/

namespace Renumber

open Wire

/-- The lengths that are written for a snapshot are numbers of 64 bits, as the lengths of texts and
buffers in memory are. -/
structure Snapshot.LengthsFit (s : Snapshot) : Prop where
  label : (Text.bytesOf s.label).length < 2 ^ 64
  entries : ∀ e ∈ s.entries, e.bytes.length < 2 ^ 64

/-! ## Entries -/

theorem ofNat_signedNumber (n : Int32) : Int32.ofNat (signedNumber n) = n := by
  unfold signedNumber
  rw [← Int32.toBitVec_inj, Int32.toBitVec_ofNat']
  show BitVec.ofNat 32 (n.toBitVec.signExtend 64).toNat = n.toBitVec
  rw [BitVec.ofNat_toNat]
  ext i hi
  have hi' : i < 64 := Nat.lt_trans hi (by decide)
  rw [BitVec.getElem_setWidth, BitVec.getLsbD_signExtend, if_pos hi]
  simp [hi', BitVec.getLsbD_eq_getElem hi]

theorem signedNumber_lt (n : Int32) : signedNumber n < 2 ^ 64 := UInt64.toNat_lt _

namespace SnapshotEntry

/-- How many bytes the texts of an entry have. -/
def textSize (e : SnapshotEntry) : Nat :=
  (Text.bytesOf e.fingerprint).length + (Text.bytesOf e.signature).length +
    (Text.bytesOf e.name).length + (e.parser.elim 0 fun text => (Text.bytesOf text).length)

theorem textSize_le_length_bytes (e : SnapshotEntry) : e.textSize ≤ e.bytes.length := by
  unfold textSize bytes
  have h2 := le_length_textField 2 e.fingerprint
  have h5 := le_length_textField 5 e.signature
  have h6 := le_length_textField 6 e.name
  have h7 : (e.parser.elim 0 fun text => (Text.bytesOf text).length) ≤
      (optionalTextField 7 e.parser).length := by
    cases e.parser with
    | none => exact Nat.le_refl _
    | some text => exact le_length_delimited 7 (Text.bytesOf text)
  simp only [List.length_append]
  omega

/-- What is written for the fields of an entry is read into them one after the other. -/
theorem reads_bytes {e : SnapshotEntry} (hlen : e.bytes.length < 2 ^ 64) (depth : Nat) :
    Reads (readField depth) {} e.bytes e := by
  obtain ⟨id, fingerprint, direction, references, signature, name, parser⟩ := e
  have htexts := Nat.lt_of_le_of_lt (textSize_le_length_bytes _) hlen
  unfold textSize at htexts
  simp only at htexts
  have hid : Reads (readField depth) {} (numberField 1 id.toNat) { id } := by
    refine Reads.numberField (fun n => { id := UInt32.ofNat n }) (by decide) (by decide)
      (Nat.lt_trans id.toNat_lt (by decide)) (fun _ => rfl) ?_ fun h => ?_
    · rw [UInt32.ofNat_toNat]
    · rw [show id = 0 from UInt32.toNat_inj.1 h]
  have hfingerprint : Reads (readField depth) { id } (textField 2 fingerprint)
      { id, fingerprint } :=
    Reads.textField (fun fingerprint => { id, fingerprint }) (by decide) (by decide)
      (fun _ => rfl) (by omega) rfl fun h => by rw [h]
  have hdirection : Reads (readField depth) { id, fingerprint }
      (numberField 3 (signedNumber direction)) { id, fingerprint, direction } := by
    refine Reads.numberField (fun n => { id, fingerprint, direction := Int32.ofNat n })
      (by decide) (by decide) (signedNumber_lt direction) (fun _ => rfl) ?_ fun h => ?_
    · rw [ofNat_signedNumber]
    · rw [← ofNat_signedNumber direction, h]
      rfl
  have hreferences : Reads (readField depth) { id, fingerprint, direction }
      (numberField 4 references.toNat) { id, fingerprint, direction, references } := by
    refine Reads.numberField (fun n => { id, fingerprint, direction, references := UInt32.ofNat n })
      (by decide) (by decide) (Nat.lt_trans references.toNat_lt (by decide))
      (fun _ => rfl) ?_ fun h => ?_
    · rw [UInt32.ofNat_toNat]
    · rw [show references = 0 from UInt32.toNat_inj.1 h]
  have hsignature : Reads (readField depth) { id, fingerprint, direction, references }
      (textField 5 signature) { id, fingerprint, direction, references, signature } :=
    Reads.textField (fun signature => { id, fingerprint, direction, references, signature })
      (by decide) (by decide) (fun _ => rfl) (by omega) rfl fun h => by rw [h]
  have hname : Reads (readField depth) { id, fingerprint, direction, references, signature }
      (textField 6 name) { id, fingerprint, direction, references, signature, name } :=
    Reads.textField (fun name => { id, fingerprint, direction, references, signature, name })
      (by decide) (by decide) (fun _ => rfl) (by omega) rfl fun h => by rw [h]
  have hparser : Reads (readField depth)
      { id, fingerprint, direction, references, signature, name } (optionalTextField 7 parser)
      { id, fingerprint, direction, references, signature, name, parser } := by
    refine Reads.optionalTextField
      (fun text => { id, fingerprint, direction, references, signature, name, parser := some text })
      (by decide) (by decide) (fun _ => rfl) ?_ ?_ ?_
    · rintro text rfl
      simp only [Option.elim] at htexts
      omega
    · rintro text rfl
      rfl
    · rintro rfl
      rfl
  exact (((((hid.append hfingerprint).append hdirection).append hreferences).append
    hsignature).append hname).append hparser

/-- An entry that is written is longer than its texts by little. -/
theorem length_bytes_le {e : SnapshotEntry} (hlen : e.textSize < 2 ^ 64) :
    e.bytes.length ≤ e.textSize + 140 := by
  unfold textSize at hlen ⊢
  unfold bytes
  have h1 := length_numberField_le (show 1 < 2 ^ 29 by decide)
    (Nat.lt_trans e.id.toNat_lt (show 2 ^ 32 < 2 ^ 64 by decide))
  have h2 := length_textField_le (show 2 < 2 ^ 29 by decide)
    (show (Text.bytesOf e.fingerprint).length < 2 ^ 64 by omega)
  have h3 := length_numberField_le (show 3 < 2 ^ 29 by decide) (signedNumber_lt e.direction)
  have h4 := length_numberField_le (show 4 < 2 ^ 29 by decide)
    (Nat.lt_trans e.references.toNat_lt (show 2 ^ 32 < 2 ^ 64 by decide))
  have h5 := length_textField_le (show 5 < 2 ^ 29 by decide)
    (show (Text.bytesOf e.signature).length < 2 ^ 64 by omega)
  have h6 := length_textField_le (show 6 < 2 ^ 29 by decide)
    (show (Text.bytesOf e.name).length < 2 ^ 64 by omega)
  have h7 : (optionalTextField 7 e.parser).length ≤
      20 + e.parser.elim 0 fun text => (Text.bytesOf text).length := by
    cases hparser : e.parser with
    | none => exact Nat.zero_le _
    | some text =>
      rw [hparser] at hlen
      simp only [Option.elim] at hlen ⊢
      exact length_delimited_le (by decide) (by omega)
  simp only [List.length_append]
  omega

theorem grows_readField (depth : Nat) : Grows textSize (readField depth) := by
  intro e e' key bytes rest h
  unfold readField at h
  simp only at h
  split at h
  · exact size_le_of_readNumber (fun n => { e with id := UInt32.ofNat n })
      (fun _ => Nat.le_refl _) h
  · refine size_le_of_readText (fun text => { e with fingerprint := text }) (fun text => ?_) h
    simp only [textSize]
    omega
  · exact size_le_of_readNumber (fun n => { e with direction := Int32.ofNat n })
      (fun _ => Nat.le_refl _) h
  · exact size_le_of_readNumber (fun n => { e with references := UInt32.ofNat n })
      (fun _ => Nat.le_refl _) h
  · refine size_le_of_readText (fun text => { e with signature := text }) (fun text => ?_) h
    simp only [textSize]
    omega
  · refine size_le_of_readText (fun text => { e with name := text }) (fun text => ?_) h
    simp only [textSize]
    omega
  · refine size_le_of_readText (fun text => { e with parser := some text }) (fun text => ?_) h
    simp only [textSize, Option.elim]
    omega
  · obtain ⟨rest', hskip, hset⟩ := map_eq_ok h
    cases hset
    exact Nat.add_le_add_left (length_le_of_skipField hskip) _

end SnapshotEntry

/-! ## Snapshots -/

namespace Snapshot

/-- How many bytes the texts of a snapshot have. -/
def textSize (s : Snapshot) : Nat :=
  (Text.bytesOf s.label).length + (s.entries.map SnapshotEntry.textSize).sum

theorem reads_label {label : String} (hlen : (Text.bytesOf label).length < 2 ^ 64) (depth : Nat) :
    Reads (readField depth) {} (textField 1 label) { label } :=
  Reads.textField (fun label => { label }) (by decide) (by decide) (fun _ => rfl) hlen rfl
    fun hempty => by rw [hempty]

/-- Entries that are written one after the other are read to the end of the list. -/
theorem reads_entries {entries : List SnapshotEntry} (h : ∀ e ∈ entries, e.bytes.length < 2 ^ 64)
    (s : Snapshot) (depth : Nat) :
    Reads (readField (depth + 1)) s (entries.flatMap fun e => delimited 2 e.bytes)
      { s with entries := s.entries ++ entries } := by
  induction entries generalizing s with
  | nil =>
    rw [List.append_nil]
    exact Reads.nil _ s
  | cons e entries ih =>
    have hlen := h e List.mem_cons_self
    have hentry : Reads (readField (depth + 1)) s (delimited 2 e.bytes)
        { s with entries := s.entries ++ [e] } := by
      apply Reads.delimited (by decide) (by decide)
      intro rest
      have hread := readMessage_written hlen (SnapshotEntry.reads_bytes hlen depth) rest
      simp [readField, hread, located, Except.mapError, Except.map]
    have hrest := ih (fun e' he' => h e' (List.mem_cons_of_mem _ he'))
      { s with entries := s.entries ++ [e] }
    rw [List.append_assoc] at hrest
    rw [List.flatMap_cons]
    exact hentry.append hrest

theorem ofBytes?_bytes {s : Snapshot} (h : s.LengthsFit) : ofBytes? s.bytes = .ok s := by
  have hread : Reads (readField nestingLimit) {} s.bytes s :=
    (reads_label h.label nestingLimit).append (reads_entries h.entries { label := s.label } 99)
  have hfuel : (s.bytes ++ []).length < s.bytes.length + 1 := by
    rw [List.append_nil]
    exact Nat.lt_succ_self _
  have hend := hread.readFields_eq [] hfuel
  rw [List.append_nil] at hend
  unfold ofBytes?
  rw [show (0 : Nat) = ([] : List UInt8).length from rfl, hend]

theorem grows_readField (depth : Nat) : Grows textSize (readField depth) := by
  intro s s' key bytes rest h
  unfold readField at h
  split at h
  · refine size_le_of_readText (fun text => { s with label := text }) (fun text => ?_) h
    simp only [textSize]
    omega
  · obtain ⟨⟨e, rest'⟩, hread, hset⟩ := map_eq_ok h
    cases hset
    have hle := Grows.readMessage SnapshotEntry.grows_readField (located_eq_ok hread)
    have hempty : ({} : SnapshotEntry).textSize = 0 := by decide
    simp only [textSize, List.map_append, List.map_cons, List.map_nil, List.sum_append,
      List.sum_cons, List.sum_nil]
    omega
  · obtain ⟨rest', hskip, hset⟩ := map_eq_ok h
    cases hset
    exact Nat.add_le_add_left (length_le_of_skipField hskip) _

theorem textSize_le_of_ofBytes? {bytes : List UInt8} {s : Snapshot} (h : ofBytes? bytes = .ok s) :
    s.textSize ≤ bytes.length := by
  unfold ofBytes? at h
  split at h
  · rename_i s' rest hread
    cases h
    have hle := Grows.readFields (grows_readField nestingLimit) hread
    have hempty : ({} : Snapshot).textSize = 0 := by decide
    omega
  · cases h

theorem lengthsFit_of_ofBytes? {bytes : List UInt8} {s : Snapshot} (hlen : bytes.length < 2 ^ 63)
    (h : ofBytes? bytes = .ok s) : s.LengthsFit := by
  have hsize := textSize_le_of_ofBytes? h
  unfold textSize at hsize
  refine ⟨by omega, fun e he => ?_⟩
  have hmem : e.textSize ≤ (s.entries.map SnapshotEntry.textSize).sum :=
    List.le_sum_of_mem (List.mem_map_of_mem he)
  have hbytes := e.length_bytes_le (by omega)
  omega

/-! ## Main theorem -/

/-- A snapshot that was written is read back, so that different snapshots are written differently;
and what was read from any bytes is read again from the bytes that are written for it. -/
theorem bytes_readBack :
    (∀ s : Snapshot, s.LengthsFit → ofBytes? s.bytes = .ok s) ∧
    (∀ s t : Snapshot, s.LengthsFit → t.LengthsFit → s.bytes = t.bytes → s = t) ∧
    ∀ (bytes : List UInt8) (s : Snapshot), bytes.length < 2 ^ 63 → ofBytes? bytes = .ok s →
      ofBytes? s.bytes = .ok s := by
  refine ⟨fun s hs => ofBytes?_bytes hs, ?_, ?_⟩
  · intro s t hs ht h
    have hread := ofBytes?_bytes hs
    rw [h, ofBytes?_bytes ht] at hread
    exact (Except.ok.inj hread).symm
  · intro bytes s hlen h
    exact ofBytes?_bytes (lengthsFit_of_ofBytes? hlen h)

/-- A negative direction and a parser without a name; and a label that is given twice. -/
theorem bytes_readBack_negativeDirection :
    let s : Snapshot := { label := "é", entries := [{ id := 7, direction := -1, parser := some "" }] }
    let bytes : List UInt8 := [0x0A, 0x01, 0x61, 0x0A, 0x00]
    s.LengthsFit ∧ ofBytes? s.bytes = .ok s ∧
      ofBytes? bytes = .ok {} ∧ ofBytes? ({} : Snapshot).bytes = .ok {} := by
  intro s bytes
  have hfits : s.LengthsFit := by
    refine ⟨by decide, fun e he => ?_⟩
    obtain rfl := List.mem_singleton.1 he
    have hsize : SnapshotEntry.textSize { id := 7, direction := -1, parser := some "" } = 0 := by
      decide
    have hbytes := SnapshotEntry.length_bytes_le (by rw [hsize]; decide)
    omega
  have htwice : ofBytes? bytes = .ok {} := rfl
  exact ⟨hfits, bytes_readBack.1 s hfits, htwice, bytes_readBack.2.2 bytes {} (by decide) htwice⟩

end Snapshot

end Renumber
