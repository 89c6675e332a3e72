import Renumber.Wire.Lemmas

/-!
# Reading the fields that were written

A written piece of a message takes a reader from one message so far to another (`Reads`) if reading
it, whatever follows, leads to the second message and the bytes that follow.  Nothing written does
not change the message, and pieces are read one after the other (`Reads.append`), so a message is
read back field by field.

Lengths are written as numbers of 64 bits, hence the bounds on them below.
-/

namespace Renumber.Wire

/-- Reading `piece` turns the message so far from `m` into `m'`, whatever bytes follow. -/
def Reads {α : Type} (readField : FieldReader α) (m : α) (piece : List UInt8) (m' : α) : Prop :=
  ∀ (limit fuel : Nat) (rest : List UInt8), limit ≤ rest.length → (piece ++ rest).length < fuel →
    ∃ fuel', rest.length < fuel' ∧
      readFields readField limit fuel m (piece ++ rest) = readFields readField limit fuel' m' rest

/-! ## Values -/

theorem readNumber_varint {n : Nat} (hn : n < 2 ^ 64) (rest : List UInt8) :
    readNumber .varint (varint n ++ rest) = .ok (n, rest) :=
  readVarint_varint hn rest

theorem takeBytes_append (content rest : List UInt8) :
    takeBytes content.length (content ++ rest) = .ok (content, rest) := by
  unfold takeBytes
  rw [if_neg (by simp), List.take_left, List.drop_left]

theorem readText_bytesOf {text : String} (hlen : (Text.bytesOf text).length < 2 ^ 64)
    (rest : List UInt8) :
    readText .lengthDelimited
      (varint (Text.bytesOf text).length ++ (Text.bytesOf text ++ rest)) = .ok (text, rest) := by
  unfold readText
  simp [expect, bind, Except.bind, readVarint_varint hlen, takeBytes_append,
    Text.ofBytes?_bytesOf]

/-! ## Fields -/

section

variable {α : Type} {readField : FieldReader α} {m m' m'' : α}

theorem Reads.nil (readField : FieldReader α) (m : α) : Reads readField m [] m := by
  intro limit fuel rest hlimit hfuel
  exact ⟨fuel, hfuel, rfl⟩

theorem Reads.append {p q : List UInt8} (hp : Reads readField m p m') (hq : Reads readField m' q m'') :
    Reads readField m (p ++ q) m'' := by
  intro limit fuel rest hlimit hfuel
  rw [List.append_assoc] at hfuel ⊢
  have hlimit' : limit ≤ (q ++ rest).length := by
    rw [List.length_append]
    omega
  obtain ⟨fuel₁, hfuel₁, h₁⟩ := hp limit fuel (q ++ rest) hlimit' hfuel
  obtain ⟨fuel₂, hfuel₂, h₂⟩ := hq limit fuel₁ rest hlimit hfuel₁
  exact ⟨fuel₂, hfuel₂, h₁.trans h₂⟩

/-- A message that is read to its end. -/
theorem Reads.readFields_eq {piece : List UInt8} (h : Reads readField m piece m') {fuel : Nat}
    (rest : List UInt8) (hfuel : (piece ++ rest).length < fuel) :
    readFields readField rest.length fuel m (piece ++ rest) = .ok (m', rest) := by
  obtain ⟨fuel', hfuel', hread⟩ := h rest.length fuel rest (Nat.le_refl _) hfuel
  rw [hread]
  cases fuel' with
  | zero => rfl
  | succ fuel' =>
    unfold readFields
    rw [if_pos (Nat.le_refl _)]

theorem varint_ne_nil (n : Nat) : varint n ≠ [] := by
  unfold varint
  split <;> exact List.cons_ne_nil _ _

/-- A key is read from any form of its number. -/
theorem readKey_eq {k : Key} (h0 : 0 < k.tag) (h : k.tag < 2 ^ 29) {bytes rest : List UInt8}
    (hread : readVarint bytes = .ok (8 * k.tag + k.type.number, rest)) :
    readKey bytes = .ok (k, rest) := by
  have htype := k.type.number_lt
  have hlt : 8 * k.tag + k.type.number < 2 ^ 32 := by omega
  have hmod : (8 * k.tag + k.type.number) % 8 = k.type.number := by omega
  have hdiv : (8 * k.tag + k.type.number) / 8 = k.tag := by omega
  have hsize : ¬ UInt32.size ≤ 8 * k.tag + k.type.number := Nat.not_le_of_lt hlt
  have htag : ¬ k.tag = 0 := Nat.ne_of_gt h0
  unfold readKey
  rw [hread]
  simp only [bind, Except.bind, hmod, hdiv, WireType.ofNumber?_number, if_neg hsize, if_neg htag]

theorem readKey_bytes {k : Key} (h0 : 0 < k.tag) (h : k.tag < 2 ^ 29) (rest : List UInt8) :
    readKey (k.bytes ++ rest) = .ok (k, rest) := by
  have htype := k.type.number_lt
  exact readKey_eq h0 h (readVarint_varint (by omega) rest)

/-- A field is read if its key and its value are. -/
theorem Reads.keyed {k : Key} {key value : List UInt8} (hne : key ≠ [])
    (hkey : ∀ rest, readKey (key ++ rest) = .ok (k, rest))
    (hvalue : ∀ rest, readField m k (value ++ rest) = .ok (m', rest)) :
    Reads readField m (key ++ value) m' := by
  intro limit fuel rest hlimit hfuel
  have hpos : 0 < key.length := List.length_pos_iff.2 hne
  simp only [List.length_append] at hfuel
  cases fuel with
  | zero => omega
  | succ fuel =>
    refine ⟨fuel, by omega, ?_⟩
    have hlt : ¬ (key ++ value ++ rest).length ≤ limit := by
      simp only [List.length_append]
      omega
    rw [readFields, if_neg hlt, List.append_assoc, hkey]
    simp only [bind, Except.bind, hvalue]

/-- A field is read if its value is. -/
theorem Reads.field {k : Key} (h0 : 0 < k.tag) (h : k.tag < 2 ^ 29) {value : List UInt8}
    (hvalue : ∀ rest, readField m k (value ++ rest) = .ok (m', rest)) :
    Reads readField m (k.bytes ++ value) m' :=
  Reads.keyed (varint_ne_nil _) (readKey_bytes h0 h) hvalue

theorem Reads.delimited {tag : Nat} {content : List UInt8} (h0 : 0 < tag) (h : tag < 2 ^ 29)
    (hvalue : ∀ rest, readField m ⟨tag, .lengthDelimited⟩
      (varint content.length ++ (content ++ rest)) = .ok (m', rest)) :
    Reads readField m (delimited tag content) m' := by
  unfold Wire.delimited
  rw [List.append_assoc]
  apply Reads.field (k := ⟨tag, .lengthDelimited⟩) h0 h
  intro rest
  rw [List.append_assoc]
  exact hvalue rest

/-- A number that is left out is zero, and then it changes nothing. -/
theorem Reads.numberField {tag n : Nat} {place : String} (set : Nat → α) (h0 : 0 < tag)
    (h : tag < 2 ^ 29) (hn : n < 2 ^ 64)
    (hread : ∀ bytes, readField m ⟨tag, .varint⟩ bytes =
      (located place (readNumber .varint bytes)).map fun (k, rest) => (set k, rest))
    (hset : set n = m') (hzero : n = 0 → m' = m) : Reads readField m (numberField tag n) m' := by
  unfold Wire.numberField
  by_cases hn0 : n = 0
  · rw [if_pos hn0, hzero hn0]
    exact Reads.nil readField m
  · rw [if_neg hn0]
    apply Reads.field (k := ⟨tag, .varint⟩) h0 h
    intro rest
    rw [hread, readNumber_varint hn, ← hset]
    rfl

section

variable {tag : Nat} {place : String} (set : String → α) (h0 : 0 < tag) (h : tag < 2 ^ 29)
  (hread : ∀ bytes, readField m ⟨tag, .lengthDelimited⟩ bytes =
    (located place (readText .lengthDelimited bytes)).map fun (t, rest) => (set t, rest))

include h0 h hread

theorem Reads.delimited_bytesOf {text : String} (hlen : (Text.bytesOf text).length < 2 ^ 64)
    (hset : set text = m') : Reads readField m (Wire.delimited tag (Text.bytesOf text)) m' := by
  apply Reads.delimited h0 h
  intro rest
  rw [hread, readText_bytesOf hlen, ← hset]
  rfl

/-- A text that is left out is empty, and then it changes nothing. -/
theorem Reads.textField {text : String} (hlen : (Text.bytesOf text).length < 2 ^ 64)
    (hset : set text = m') (hempty : text = "" → m' = m) :
    Reads readField m (textField tag text) m' := by
  unfold Wire.textField
  by_cases htext : text = ""
  · rw [if_pos htext, hempty htext]
    exact Reads.nil readField m
  · rw [if_neg htext]
    exact Reads.delimited_bytesOf set h0 h hread hlen hset

theorem Reads.optionalTextField {text : Option String}
    (hlen : ∀ t, text = some t → (Text.bytesOf t).length < 2 ^ 64)
    (hset : ∀ t, text = some t → set t = m') (hnone : text = none → m' = m) :
    Reads readField m (optionalTextField tag text) m' := by
  cases text with
  | none =>
    rw [hnone rfl]
    exact Reads.nil readField m
  | some t => exact Reads.delimited_bytesOf set h0 h hread (hlen t rfl) (hset t rfl)

end

end

/-- A message inside a message: its length says where it ends. -/
theorem readMessage_written {α : Type} {readField : Nat → FieldReader α} {start m : α} {depth : Nat}
    {content : List UInt8} (hlen : content.length < 2 ^ 64)
    (h : Reads (readField depth) start content m) (rest : List UInt8) :
    readMessage readField start (depth + 1) .lengthDelimited
      (varint content.length ++ (content ++ rest)) = .ok (m, rest) := by
  have hread := h.readFields_eq rest (Nat.lt_succ_self _)
  have hlimit : (content ++ rest).length - content.length = rest.length := by simp
  have henough : ¬ (content ++ rest).length < content.length := by simp
  unfold readMessage
  simp only [expect, if_true, bind, Except.bind, readVarint_varint hlen, if_neg henough, hlimit,
    hread]


end Renumber.Wire
