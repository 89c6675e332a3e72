import Renumber.Proofs.Fallible
import Renumber.Wire.Lemmas

/-!
# What is read is not larger than its bytes

Every reader takes bytes away from the front, and what it makes of them is not larger than what it
took: a text has its bytes, a skipped field leaves nothing, and a message grows by no more than the
bytes of the field that was read into it (`Grows`).  So a message is not larger than the bytes it was
read from (`Grows.readFields`, `Grows.readMessage`).

For the other direction, a written number has at most ten bytes (`length_varint_le`), and so a field
is longer than its text by little.
-/

namespace Renumber.Wire

/-- Reading a field makes a message larger by at most the bytes that were taken. -/
def Grows {α : Type} (size : α → Nat) (readField : FieldReader α) : Prop :=
  ∀ {m m' : α} {key : Key} {bytes rest : List UInt8}, readField m key bytes = .ok (m', rest) →
    size m' + rest.length ≤ size m + bytes.length

/-! ## Readers -/

theorem located_eq_ok {α : Type} {place : String} {x : Except Fault α} {a : α}
    (h : located place x = .ok a) : x = .ok a := by
  cases x with
  | error e => cases h
  | ok b => exact h

theorem length_le_of_readKey {bytes rest : List UInt8} {key : Key}
    (h : readKey bytes = .ok (key, rest)) : rest.length ≤ bytes.length := by
  obtain ⟨⟨n, rest'⟩, hn, h⟩ := bind_eq_ok h
  have hlt := length_lt_of_readVarint hn
  simp only at h
  split at h
  · cases h
  · split at h
    · cases h
    · split at h
      · cases h
      · cases h
        exact Nat.le_of_lt hlt

theorem length_of_takeBytes {n : Nat} {bytes content rest : List UInt8}
    (h : takeBytes n bytes = .ok (content, rest)) : content.length + rest.length = bytes.length := by
  unfold takeBytes at h
  split at h
  · cases h
  · cases h
    rw [List.length_take, List.length_drop]
    omega

theorem length_le_of_readNumber {type : WireType} {bytes rest : List UInt8} {n : Nat}
    (h : readNumber type bytes = .ok (n, rest)) : rest.length ≤ bytes.length := by
  obtain ⟨-, -, h⟩ := bind_eq_ok h
  exact Nat.le_of_lt (length_lt_of_readVarint h)

/-- A text has the bytes that were taken for it. -/
theorem length_le_of_readText {type : WireType} {bytes rest : List UInt8} {text : String}
    (h : readText type bytes = .ok (text, rest)) :
    (Text.bytesOf text).length + rest.length ≤ bytes.length := by
  obtain ⟨-, -, h⟩ := bind_eq_ok h
  obtain ⟨⟨length, rest₁⟩, hlength, h⟩ := bind_eq_ok h
  obtain ⟨⟨content, rest₂⟩, hcontent, h⟩ := bind_eq_ok h
  have hlt := length_lt_of_readVarint hlength
  have htake := length_of_takeBytes hcontent
  simp only at h
  split at h
  · rename_i text' htext
    cases h
    rw [Text.bytesOf_of_ofBytes? htext]
    omega
  · cases h

section

variable {α : Type} {size : α → Nat} {m m' : α} {place : String} {type : WireType}
  {bytes rest : List UInt8}

theorem size_le_of_readNumber (set : Nat → α) (hset : ∀ n, size (set n) ≤ size m)
    (h : (located place (readNumber type bytes)).map (fun (n, rest) => (set n, rest)) =
      .ok (m', rest)) : size m' + rest.length ≤ size m + bytes.length := by
  obtain ⟨⟨n, rest'⟩, hread, hset'⟩ := map_eq_ok h
  cases hset'
  have hle := length_le_of_readNumber (located_eq_ok hread)
  have hn := hset n
  omega

theorem size_le_of_readText (set : String → α)
    (hset : ∀ text, size (set text) ≤ size m + (Text.bytesOf text).length)
    (h : (located place (readText type bytes)).map (fun (text, rest) => (set text, rest)) =
      .ok (m', rest)) : size m' + rest.length ≤ size m + bytes.length := by
  obtain ⟨⟨text, rest'⟩, hread, hset'⟩ := map_eq_ok h
  cases hset'
  have hle := length_le_of_readText (located_eq_ok hread)
  have htext := hset text
  omega

end

theorem length_le_of_skipGroup {skip : Key → List UInt8 → Except Fault (List UInt8)}
    (hskip : ∀ {key bytes rest}, skip key bytes = .ok rest → rest.length ≤ bytes.length)
    {tag fuel : Nat} {bytes rest : List UInt8} (h : skipGroup skip tag fuel bytes = .ok rest) :
    rest.length ≤ bytes.length := by
  induction fuel generalizing bytes with
  | zero => cases h
  | succ fuel ih =>
    obtain ⟨⟨key, rest₁⟩, hkey, h⟩ := bind_eq_ok h
    have hle := length_le_of_readKey hkey
    simp only at h
    split at h
    · split at h
      · cases h
        exact hle
      · cases h
    · obtain ⟨rest₂, hfield, h⟩ := bind_eq_ok h
      have h₂ := hskip hfield
      have h₃ := ih h
      omega

theorem length_le_of_skipField {depth : Nat} {key : Key} {bytes rest : List UInt8}
    (h : skipField depth key bytes = .ok rest) : rest.length ≤ bytes.length := by
  induction depth generalizing key bytes rest with
  | zero => cases h
  | succ depth ih =>
    unfold skipField at h
    split at h
    · obtain ⟨⟨n, rest'⟩, hn, rfl⟩ := map_eq_ok h
      exact Nat.le_of_lt (length_lt_of_readVarint hn)
    · obtain ⟨⟨content, rest'⟩, htake, rfl⟩ := map_eq_ok h
      exact Nat.le.intro (Nat.add_comm _ _ |>.trans (length_of_takeBytes htake))
    · obtain ⟨⟨content, rest'⟩, htake, rfl⟩ := map_eq_ok h
      exact Nat.le.intro (Nat.add_comm _ _ |>.trans (length_of_takeBytes htake))
    · obtain ⟨⟨length, rest₁⟩, hlength, h⟩ := bind_eq_ok h
      obtain ⟨⟨content, rest'⟩, htake, rfl⟩ := map_eq_ok h
      have hlt := length_lt_of_readVarint hlength
      have := length_of_takeBytes htake
      show rest'.length ≤ _
      omega
    · exact length_le_of_skipGroup ih h
    · cases h

section

variable {α : Type} {size : α → Nat}

theorem Grows.readFields {readField : FieldReader α} (h : Grows size readField) {limit fuel : Nat}
    {m m' : α} {bytes rest : List UInt8}
    (hread : readFields readField limit fuel m bytes = .ok (m', rest)) :
    size m' + rest.length ≤ size m + bytes.length := by
  induction fuel generalizing m bytes with
  | zero =>
    cases hread
    exact Nat.le_refl _
  | succ fuel ih =>
    unfold Wire.readFields at hread
    split at hread
    · cases hread
      exact Nat.le_refl _
    · obtain ⟨⟨key, rest₁⟩, hkey, hread⟩ := bind_eq_ok hread
      obtain ⟨⟨m₁, rest₂⟩, hfield, hread⟩ := bind_eq_ok hread
      have h₁ := length_le_of_readKey hkey
      have h₂ := h hfield
      have h₃ := ih hread
      omega

theorem Grows.readMessage {readField : Nat → FieldReader α}
    (h : ∀ depth, Grows size (readField depth)) {start m : α} {depth : Nat} {type : WireType}
    {bytes rest : List UInt8} (hread : readMessage readField start depth type bytes = .ok (m, rest)) :
    size m + rest.length ≤ size start + bytes.length := by
  obtain ⟨-, -, hread⟩ := bind_eq_ok hread
  cases depth with
  | zero => cases hread
  | succ depth =>
    obtain ⟨⟨length, rest₁⟩, hlength, hread⟩ := bind_eq_ok hread
    have hlt := length_lt_of_readVarint hlength
    simp only at hread
    split at hread
    · cases hread
    · obtain ⟨⟨m₁, rest₂⟩, hfields, hread⟩ := bind_eq_ok hread
      have hle := Grows.readFields (h depth) hfields
      simp only at hread
      split at hread
      · cases hread
        omega
      · cases hread

end

/-! ## Written fields -/

theorem le_length_delimited (tag : Nat) (content : List UInt8) :
    content.length ≤ (delimited tag content).length := by
  unfold delimited
  rw [List.length_append]
  exact Nat.le_add_left _ _

theorem le_length_textField (tag : Nat) (text : String) :
    (Text.bytesOf text).length ≤ (textField tag text).length := by
  unfold textField
  by_cases h : text = ""
  · rw [h]
    exact Nat.zero_le _
  · rw [if_neg h]
    exact le_length_delimited tag (Text.bytesOf text)

theorem length_varint_le {k n : Nat} (hk : 0 < k) (hn : n < 128 ^ k) : (varint n).length ≤ k := by
  induction k generalizing n with
  | zero => cases hk
  | succ k ih =>
    unfold varint
    by_cases hsmall : n < 128
    · rw [if_pos hsmall]
      exact hk
    · rw [if_neg hsmall, List.length_cons]
      cases k with
      | zero => exact absurd hn hsmall
      | succ k =>
        apply Nat.succ_le_succ
        apply ih (Nat.succ_pos k)
        rw [Nat.pow_succ] at hn
        exact Nat.div_lt_of_lt_mul (by rwa [Nat.mul_comm])

section

variable {tag : Nat}

theorem length_keyBytes_le (htag : tag < 2 ^ 29) (type : WireType) :
    (Key.bytes ⟨tag, type⟩).length ≤ 10 := by
  apply length_varint_le (by decide)
  have htype := type.number_lt
  show 8 * tag + type.number < 128 ^ 10
  omega

theorem length_numberField_le (htag : tag < 2 ^ 29) {n : Nat} (hn : n < 2 ^ 64) :
    (numberField tag n).length ≤ 20 := by
  unfold numberField
  have hkey := length_keyBytes_le htag .varint
  have hvalue : (varint n).length ≤ 10 := length_varint_le (by decide) (by omega)
  split
  · exact Nat.zero_le _
  · rw [List.length_append]
    omega

theorem length_delimited_le (htag : tag < 2 ^ 29) {content : List UInt8}
    (hlen : content.length < 2 ^ 64) : (delimited tag content).length ≤ 20 + content.length := by
  unfold delimited
  have hkey := length_keyBytes_le htag .lengthDelimited
  have hvalue : (varint content.length).length ≤ 10 := length_varint_le (by decide) (by omega)
  rw [List.length_append, List.length_append]
  omega

theorem length_textField_le (htag : tag < 2 ^ 29) {text : String}
    (hlen : (Text.bytesOf text).length < 2 ^ 64) :
    (textField tag text).length ≤ 20 + (Text.bytesOf text).length := by
  unfold textField
  split
  · exact Nat.zero_le _
  · exact length_delimited_le htag hlen

end

end Renumber.Wire
