import Renumber.Proofs.Text.Lines

/-!
# Bytes that are characters of their own

In UTF-8 a byte below 128 is one character, and no part of another.  So where such a byte stands, a
character begins and ends (`exists_of_encode_eq`).
-/

namespace Renumber

theorem encode_cons (c : Char) (text : List Char) :
    encode (c :: text) = String.utf8EncodeChar c ++ encode text := by
  rw [encode_eq_flatMap, encode_eq_flatMap, List.flatMap_cons]

theorem utf8EncodeChar_of_ascii {c : Char} (h : c.toNat < 0x80) :
    String.utf8EncodeChar c = [c.val.toUInt8] := by
  have hsize : c.utf8Size = 1 :=
    Char.utf8Size_eq_one_iff.2 (UInt32.le_iff_toNat_le.2 (Nat.le_of_lt_succ h))
  exact String.utf8EncodeChar_eq_singleton hsize

theorem utf8EncodeChar_of_mem {c : Char} {b : UInt8} (hb : b.toNat < 0x80)
    (h : b ∈ String.utf8EncodeChar c) : String.utf8EncodeChar c = [b] ∧ c = Char.ofNat b.toNat := by
  have hc : c.toNat < 0x80 := by
    by_contra hc
    have := le_of_mem_utf8EncodeChar (Nat.lt_of_not_le (mt Nat.lt_succ_of_le hc)) h
    omega
  rw [utf8EncodeChar_of_ascii hc] at h ⊢
  obtain rfl := List.mem_singleton.1 h
  have hvalue : c.val.toUInt8.toNat = c.toNat := by
    rw [UInt32.toNat_toUInt8]
    exact Nat.mod_eq_of_lt (Nat.lt_trans hc (by decide))
  rw [hvalue, Char.ofNat_toNat]
  exact ⟨rfl, rfl⟩

theorem encode_inj {a b : List Char} (h : encode a = encode b) : a = b :=
  String.ofList_inj.1 (Text.bytesOf_inj h)

theorem length_encode_le {a b : List Char} (h : a <+: b) : (encode a).length ≤ (encode b).length := by
  obtain ⟨back, rfl⟩ := h
  rw [encode_append, List.length_append]
  exact Nat.le_add_right _ _

theorem eq_of_length_encode_eq {a b : List Char} (h : a <+: b)
    (hlength : (encode a).length = (encode b).length) : a = b := by
  obtain ⟨back, rfl⟩ := h
  rw [encode_append, List.length_append, Nat.left_eq_add, List.length_eq_zero_iff,
    encode_eq_nil_iff] at hlength
  rw [hlength, List.append_nil]

/-- The bytes around a byte below 128 are those of the texts around its character. -/
theorem exists_of_encode_eq {text : List Char} {front back : List UInt8} {b : UInt8}
    (hb : b.toNat < 0x80) (h : encode text = front ++ b :: back) :
    ∃ front' back', text = front' ++ Char.ofNat b.toNat :: back' ∧ encode front' = front ∧
      encode back' = back := by
  induction text generalizing front with
  | nil =>
    have hnil : encode [] = [] := encode_eq_nil_iff.2 rfl
    rw [hnil] at h
    simp at h
  | cons c rest ih =>
    rw [encode_cons] at h
    rcases List.append_eq_append_iff.1 h with ⟨more, rfl, hrest⟩ | ⟨more, hc, hrest⟩
    · -- the byte stands behind the first character
      obtain ⟨front', back', rfl, rfl, hback⟩ := ih hrest
      exact ⟨c :: front', back', rfl, encode_cons c front', hback⟩
    · cases more with
      | nil =>
        -- the first character ends right in front of the byte
        rw [List.append_nil] at hc
        have hnext : encode rest = [] ++ b :: back := hrest.symm
        obtain ⟨front', back', rfl, hfront, hback⟩ := ih hnext
        refine ⟨c :: front', back', rfl, ?_, hback⟩
        rw [encode_cons, hfront, List.append_nil, hc]
      | cons b' more =>
        obtain ⟨rfl, hback⟩ := List.cons.inj hrest
        have hmem : b ∈ String.utf8EncodeChar c := by
          rw [hc]
          simp
        obtain ⟨hsingle, hvalue⟩ := utf8EncodeChar_of_mem hb hmem
        rw [hsingle] at hc
        obtain ⟨rfl, rfl⟩ : front = [] ∧ more = [] := by
          simpa [List.singleton_eq_append_iff] using hc
        exact ⟨[], rest, by rw [← hvalue]; rfl, encode_eq_nil_iff.2 rfl, hback.symm⟩

end Renumber
