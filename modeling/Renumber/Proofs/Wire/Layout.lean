import Mathlib.Control.Monad.Basic
import Renumber.Proofs.Wire.Written

/-!
# How fields may be laid out

The same fields can stand in bytes in many ways.  A number may be written with more groups of seven
bits than it needs, as long as all of them fit into its width (`IsVarint`); this goes for values, for
lengths and for keys.  The fields of a message stand one after the other (`HoldsFields`).

Whatever the form of a field, it is read if its value is (`Reads.storedField`), and a field that is
skipped leaves exactly the bytes behind it (`skipField_of_isForm`).  So reading the fields of a message
is folding what each of them does (`Reads.holdsFields`).  A part of the message that each field
either replaces or leaves alone is given by the last field that replaces it (`foldl_eq_getLastD`).
-/

namespace Renumber.Wire

/-- Bytes that a number below `2 ^ bits` may be written as: groups of seven bits, the lowest first. -/
inductive IsVarint : (bits : Nat) → Nat → List UInt8 → Prop
  | last {bits : Nat} {b : UInt8} (hb : b.toNat < 128) (hfits : b.toNat < 2 ^ bits) :
      IsVarint bits b.toNat [b]
  | more {bits n : Nat} {b : UInt8} {rest : List UInt8} (hb : 128 ≤ b.toNat) (hbits : 7 < bits)
      (h : IsVarint (bits - 7) n rest) : IsVarint bits (b.toNat - 128 + 128 * n) (b :: rest)

/-- The value of a field as it stands in the bytes of a message. -/
inductive FieldValue where
  | number (n : Nat)
  | fixed64 (bytes : List UInt8)
  | delimited (content : List UInt8)
  | fixed32 (bytes : List UInt8)

def FieldValue.type : FieldValue → WireType
  | number _ => .varint
  | fixed64 _ => .fixed64
  | delimited _ => .lengthDelimited
  | fixed32 _ => .fixed32

structure StoredField where
  tag : Nat
  value : FieldValue
  tag_pos : 0 < tag := by decide
  tag_lt : tag < 2 ^ 29 := by decide

/-- Bytes that the value of a field may be written as. -/
inductive FieldValue.IsForm : FieldValue → List UInt8 → Prop
  | number {n : Nat} {bytes : List UInt8} (h : IsVarint 64 n bytes) : IsForm (number n) bytes
  | fixed64 {bytes : List UInt8} (h : bytes.length = 8) : IsForm (fixed64 bytes) bytes
  | delimited {content length : List UInt8} (h : IsVarint 64 content.length length) :
      IsForm (delimited content) (length ++ content)
  | fixed32 {bytes : List UInt8} (h : bytes.length = 4) : IsForm (fixed32 bytes) bytes

def StoredField.key (f : StoredField) : Key := ⟨f.tag, f.value.type⟩

/-- The number that is written for a key. -/
def Key.number (k : Key) : Nat := 8 * k.tag + k.type.number

/-- Bytes that hold these fields one after the other, each in one of its forms. -/
inductive HoldsFields : List StoredField → List UInt8 → Prop
  | nil : HoldsFields [] []
  | cons {f : StoredField} {fields : List StoredField} {k v rest : List UInt8}
      (hkey : IsVarint 64 f.key.number k) (hvalue : f.value.IsForm v)
      (hrest : HoldsFields fields rest) : HoldsFields (f :: fields) (k ++ v ++ rest)

/-! ## What fields hold -/

namespace StoredField

def numberAt? (tag : Nat) (f : StoredField) : Option Nat :=
  match f.value with
  | .number n => if f.tag = tag then some n else none
  | _ => none

def contentAt? (tag : Nat) (f : StoredField) : Option (List UInt8) :=
  match f.value with
  | .delimited content => if f.tag = tag then some content else none
  | _ => none

def textAt? (tag : Nat) (f : StoredField) : Option String :=
  (f.contentAt? tag).bind Text.ofBytes?

end StoredField

/-- The numbers that fields of this tag hold, in order. -/
def numbersOf (tag : Nat) (fields : List StoredField) : List Nat :=
  fields.filterMap (·.numberAt? tag)

def contentsOf (tag : Nat) (fields : List StoredField) : List (List UInt8) :=
  fields.filterMap (·.contentAt? tag)

def textsOf (tag : Nat) (fields : List StoredField) : List String :=
  fields.filterMap (·.textAt? tag)

namespace StoredField

variable {f : StoredField} {tag : Nat}

theorem numberAt?_of_number {n : Nat} (h : f.value = .number n) :
    f.numberAt? tag = if f.tag = tag then some n else none := by
  unfold numberAt?
  rw [h]

theorem contentAt?_of_number {n : Nat} (h : f.value = .number n) : f.contentAt? tag = none := by
  unfold contentAt?
  rw [h]

theorem numberAt?_of_delimited {content : List UInt8} (h : f.value = .delimited content) :
    f.numberAt? tag = none := by
  unfold numberAt?
  rw [h]

theorem contentAt?_of_delimited {content : List UInt8} (h : f.value = .delimited content) :
    f.contentAt? tag = if f.tag = tag then some content else none := by
  unfold contentAt?
  rw [h]

theorem textAt?_of_delimited {text : String} (h : f.value = .delimited (Text.bytesOf text)) :
    f.textAt? tag = if f.tag = tag then some text else none := by
  unfold textAt?
  rw [contentAt?_of_delimited h]
  split <;> simp [Text.ofBytes?_bytesOf]

theorem numberAt?_of_ne (h : f.tag ≠ tag) : f.numberAt? tag = none := by
  unfold numberAt?
  split
  · exact if_neg h
  · rfl

theorem contentAt?_of_ne (h : f.tag ≠ tag) : f.contentAt? tag = none := by
  unfold contentAt?
  split
  · exact if_neg h
  · rfl

theorem textAt?_of_ne (h : f.tag ≠ tag) : f.textAt? tag = none := by
  unfold textAt?
  rw [contentAt?_of_ne h]
  rfl

end StoredField

/-! ## Numbers -/

theorem IsVarint.ne_nil {bits n : Nat} {bytes : List UInt8} (h : IsVarint bits n bytes) :
    bytes ≠ [] := by
  cases h <;> exact List.cons_ne_nil _ _

/-- The groups that are still to come fit into the bits that are left for them. -/
theorem IsVarint.readGroups {bits n : Nat} {bytes : List UInt8} (h : IsVarint bits n bytes)
    {index : Nat} (hindex : index ≤ 9) (hbits : bits = 64 - 7 * index) (rest : List UInt8) :
    readGroups index (bytes ++ rest) = .ok (n, rest) := by
  induction h generalizing index with
  | @last bits b hb hfits =>
    have hlast : ¬ (index = 9 ∧ 2 ≤ b.toNat) := by
      rintro ⟨rfl, hlarge⟩
      subst hbits
      exact absurd hfits (Nat.not_lt.2 hlarge)
    rw [List.cons_append, List.nil_append, Wire.readGroups, if_neg hlast, if_pos hb]
  | @more bits n b tail hb hroom _ ih =>
    have hlast : ¬ (index = 9 ∧ 2 ≤ b.toNat) := by omega
    have hnext : Wire.readGroups (index + 1) (tail ++ rest) = .ok (n, rest) :=
      ih (by omega) (by omega)
    rw [List.cons_append, Wire.readGroups, if_neg hlast, if_neg (Nat.not_lt.2 hb), hnext]

/-- What groups are read as a number are a form of it. -/
theorem isVarint_of_readGroups {index n : Nat} {bytes rest : List UInt8} (hindex : index ≤ 9)
    (h : readGroups index bytes = .ok (n, rest)) :
    ∃ front, bytes = front ++ rest ∧ IsVarint (64 - 7 * index) n front := by
  induction bytes generalizing index n with
  | nil => simp [readGroups] at h
  | cons b tail ih =>
    rw [readGroups] at h
    split at h
    · contradiction
    rename_i hlast
    split at h
    · rename_i hb
      obtain ⟨rfl, rfl⟩ : b.toNat = n ∧ tail = rest := by simpa using h
      refine ⟨[b], rfl, .last hb ?_⟩
      rcases Nat.lt_or_ge index 9 with hroom | hfull
      · exact Nat.lt_of_lt_of_le hb (Nat.pow_le_pow_right (i := 7) Nat.two_pos (by omega))
      · obtain rfl : index = 9 := by omega
        exact Nat.lt_of_not_le fun hlarge => hlast ⟨rfl, hlarge⟩
    · rename_i hb
      split at h
      · rename_i next rest' hnext
        obtain ⟨rfl, rfl⟩ : b.toNat - 128 + 128 * next = n ∧ rest' = rest := by simpa using h
        obtain ⟨front, rfl, hfront⟩ := ih (by omega) hnext
        refine ⟨b :: front, rfl, .more (Nat.le_of_not_lt hb) (by omega) ?_⟩
        rwa [show 64 - 7 * index - 7 = 64 - 7 * (index + 1) by omega]
      · contradiction

theorem IsVarint.readVarint {n : Nat} {bytes : List UInt8} (h : IsVarint 64 n bytes)
    (rest : List UInt8) : readVarint (bytes ++ rest) = .ok (n, rest) :=
  h.readGroups (by decide) rfl rest

theorem isVarint_iff {n : Nat} {bytes : List UInt8} :
    IsVarint 64 n bytes ↔ readVarint bytes = .ok (n, []) where
  mp h := by simpa using h.readVarint []
  mpr h := by
    obtain ⟨front, rfl, hfront⟩ := isVarint_of_readGroups (by decide) h
    rwa [List.append_nil]

instance (n : Nat) (bytes : List UInt8) : Decidable (IsVarint 64 n bytes) :=
  decidable_of_iff _ isVarint_iff.symm

/-! ## Values -/

namespace FieldValue

theorem isForm_number_iff {n : Nat} {bytes : List UInt8} :
    (number n).IsForm bytes ↔ IsVarint 64 n bytes where
  mp h := by
    cases h with
    | number h => exact h
  mpr h := .number h

theorem isForm_fixed64_iff {content bytes : List UInt8} :
    (fixed64 content).IsForm bytes ↔ bytes = content ∧ bytes.length = 8 where
  mp h := by
    cases h with
    | fixed64 h => exact ⟨rfl, h⟩
  mpr h := by
    obtain ⟨rfl, h⟩ := h
    exact .fixed64 h

theorem isForm_delimited_iff {content bytes : List UInt8} :
    (delimited content).IsForm bytes ↔
      ∃ length, IsVarint 64 content.length length ∧ bytes = length ++ content where
  mp h := by
    cases h with
    | delimited h => exact ⟨_, h, rfl⟩
  mpr h := by
    obtain ⟨length, h, rfl⟩ := h
    exact .delimited h

theorem isForm_delimited_iff_readVarint {content bytes : List UInt8} :
    (delimited content).IsForm bytes ↔ readVarint bytes = .ok (content.length, content) := by
  rw [isForm_delimited_iff]
  constructor
  · rintro ⟨length, hlength, rfl⟩
    exact hlength.readVarint content
  · intro h
    obtain ⟨length, hbytes, hlength⟩ := isVarint_of_readGroups (by decide) h
    exact ⟨length, hlength, hbytes⟩

theorem isForm_fixed32_iff {content bytes : List UInt8} :
    (fixed32 content).IsForm bytes ↔ bytes = content ∧ bytes.length = 4 where
  mp h := by
    cases h with
    | fixed32 h => exact ⟨rfl, h⟩
  mpr h := by
    obtain ⟨rfl, h⟩ := h
    exact .fixed32 h

instance (bytes : List UInt8) : (value : FieldValue) → Decidable (value.IsForm bytes)
  | number _ => decidable_of_iff _ isForm_number_iff.symm
  | fixed64 _ => decidable_of_iff _ isForm_fixed64_iff.symm
  | delimited _ => decidable_of_iff _ isForm_delimited_iff_readVarint.symm
  | fixed32 _ => decidable_of_iff _ isForm_fixed32_iff.symm

end FieldValue

theorem readNumber_of_isVarint {n : Nat} {bytes : List UInt8} (h : IsVarint 64 n bytes)
    (rest : List UInt8) : readNumber .varint (bytes ++ rest) = .ok (n, rest) :=
  h.readVarint rest

theorem readText_of_isVarint {text : String} {length : List UInt8}
    (h : IsVarint 64 (Text.bytesOf text).length length) (rest : List UInt8) :
    readText .lengthDelimited (length ++ Text.bytesOf text ++ rest) = .ok (text, rest) := by
  unfold readText
  simp [expect, bind, Except.bind, h.readVarint, takeBytes_append, Text.ofBytes?_bytesOf]

theorem takeBytes_of_length {n : Nat} {content : List UInt8} (h : content.length = n)
    (rest : List UInt8) : takeBytes n (content ++ rest) = .ok (content, rest) := by
  rw [← h, takeBytes_append]

/-- A field that is skipped is skipped to its end. -/
theorem skipField_of_isForm {f : StoredField} {value : List UInt8} (h : f.value.IsForm value)
    (depth : Nat) (rest : List UInt8) : skipField (depth + 1) f.key (value ++ rest) = .ok rest := by
  obtain ⟨tag, fieldValue, _, _⟩ := f
  unfold skipField StoredField.key
  cases h with
  | number h => simp [FieldValue.type, h.readVarint, Except.map]
  | fixed64 h => simp [FieldValue.type, takeBytes_of_length h, Except.map]
  | delimited h =>
    simp [FieldValue.type, h.readVarint, bind, Except.bind, takeBytes_append, Except.map]
  | fixed32 h => simp [FieldValue.type, takeBytes_of_length h, Except.map]

/-- A message inside a message is read whatever the form of its length. -/
theorem readMessage_of_isVarint {α : Type} {readField : Nat → FieldReader α} {start m : α}
    {depth : Nat} {content length : List UInt8} (hlength : IsVarint 64 content.length length)
    (h : Reads (readField depth) start content m) (rest : List UInt8) :
    readMessage readField start (depth + 1) .lengthDelimited (length ++ content ++ rest) =
      .ok (m, rest) := by
  have hread := h.readFields_eq rest (Nat.lt_succ_self _)
  have hlimit : (content ++ rest).length - content.length = rest.length := by simp
  have henough : ¬ (content ++ rest).length < content.length := by simp
  unfold readMessage
  rw [List.append_assoc]
  simp only [expect, if_true, bind, Except.bind, hlength.readVarint, if_neg henough, hlimit, hread]

/-! ## Fields -/

section

variable {α : Type} {readField : FieldReader α} {m m' : α}

theorem Reads.storedField {f : StoredField} {key value : List UInt8}
    (hkey : IsVarint 64 f.key.number key)
    (hvalue : ∀ rest, readField m f.key (value ++ rest) = .ok (m', rest)) :
    Reads readField m (key ++ value) m' :=
  Reads.keyed hkey.ne_nil
    (fun rest => readKey_eq f.tag_pos f.tag_lt (hkey.readVarint rest)) hvalue

/-- If every field does to the message what `absorb` says, so do all of them in turn. -/
theorem Reads.holdsFields {absorb : α → StoredField → α} {fields : List StoredField}
    {bytes : List UInt8} (h : HoldsFields fields bytes)
    (hstep : ∀ f ∈ fields, ∀ m value, f.value.IsForm value → ∀ rest,
      readField m f.key (value ++ rest) = .ok (absorb m f, rest)) (m : α) :
    Reads readField m bytes (fields.foldl absorb m) := by
  induction h generalizing m with
  | nil => exact Reads.nil readField m
  | @cons f fields key value rest hkey hvalue hrest ih =>
    have hfield := Reads.storedField hkey (hstep f List.mem_cons_self m value hvalue)
    exact hfield.append (ih (fun g hg => hstep g (List.mem_cons_of_mem _ hg)) (absorb m f))

/-- What a field replaces is what the last such field says. -/
theorem foldl_eq_getLastD {β : Type} (absorb : α → StoredField → α) (part : α → β)
    {value? : StoredField → Option β} (h : ∀ m f, part (absorb m f) = (value? f).getD (part m))
    (fields : List StoredField) (m : α) :
    part (fields.foldl absorb m) = (fields.filterMap value?).getLastD (part m) := by
  induction fields generalizing m with
  | nil => rfl
  | cons f rest ih =>
    rw [List.foldl_cons, ih, h, List.filterMap_cons]
    cases value? f with
    | none => rfl
    | some b => rw [List.getLastD_cons]; rfl

end

end Renumber.Wire
