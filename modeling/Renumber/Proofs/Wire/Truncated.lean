import Renumber.Proofs.Wire.Written

/-!
# Bytes that end too early

Only part of a written piece is there: it ends inside a number, or before as many bytes as were
announced.  Both are noticed (`Fault.IsShortage`).  Every reader of a written field fails so on what
is there of it (`Breaks`), because the length of a text or of an inner message is held against the
bytes that are left before anything inside is looked at.

So a field that is cut off inside is never read as something else (`Breaks.delimited`), whatever its
content looks like at the cut.
-/

namespace Renumber.Wire

/-- The faults of bytes that end too early. -/
def Fault.IsShortage (fault : Fault) : Prop :=
  fault.reason = .invalidVarint ∨ fault.reason = .bufferUnderflow

/-- A part of a piece that ends before the piece does. -/
structure CutOff (part piece : List UInt8) : Prop where
  isPrefix : part <+: piece
  ne : part ≠ piece

/-- Reading what is there of a piece that is cut off, and not before its first byte, runs short. -/
def Breaks {α : Type} (readField : FieldReader α) (m : α) (piece : List UInt8) : Prop :=
  ∀ (part : List UInt8) (fuel : Nat), part ≠ [] → CutOff part piece → part.length < fuel →
    ∃ fault : Fault, fault.IsShortage ∧ readFields readField 0 fuel m part = .error fault

/-! ## Parts -/

theorem CutOff.length_lt {part piece : List UInt8} (h : CutOff part piece) :
    part.length < piece.length := by
  refine Nat.lt_of_le_of_ne h.isPrefix.length_le fun hlength => h.ne ?_
  exact h.isPrefix.eq_of_length hlength

/-- A part of two pieces ends inside the first one, or goes on into the second. -/
theorem prefix_append_cases {part p q : List UInt8} (h : part <+: p ++ q) :
    CutOff part p ∨ ∃ tail, part = p ++ tail ∧ tail <+: q := by
  obtain ⟨more, hmore⟩ := h
  obtain ⟨between, hp, -⟩ | ⟨tail, hpart, hq⟩ := List.append_eq_append_iff.1 hmore
  · by_cases hbetween : between = []
    · refine .inr ⟨[], ?_, List.nil_prefix⟩
      rw [hp, hbetween, List.append_nil, List.append_nil]
    · refine .inl ⟨⟨between, hp.symm⟩, fun heq => hbetween ?_⟩
      rw [heq] at hp
      exact List.self_eq_append_right.1 hp
  · exact .inr ⟨tail, hpart, ⟨more, hq.symm⟩⟩

theorem CutOff.append_cases {part p q : List UInt8} (h : CutOff part (p ++ q)) :
    CutOff part p ∨ ∃ tail, part = p ++ tail ∧ CutOff tail q := by
  obtain hcut | ⟨tail, rfl, htail⟩ := prefix_append_cases h.isPrefix
  · exact .inl hcut
  · refine .inr ⟨tail, rfl, htail, ?_⟩
    rintro rfl
    exact h.ne rfl

/-! ## Numbers -/

/-- All bytes of a number but the last announce another one. -/
theorem readGroups_of_cutOff {n index : Nat} {part : List UInt8} (h : CutOff part (varint n)) :
    readGroups index part = .error ⟨.invalidVarint, []⟩ := by
  induction n using Nat.strongRecOn generalizing index part with
  | ind n ih =>
    obtain ⟨hfront, hne⟩ := h
    cases part with
    | nil => rfl
    | cons b rest =>
      unfold varint at hfront hne
      split at hfront
      · rename_i hsmall
        obtain ⟨rfl, hrest⟩ := List.cons_prefix_cons.1 hfront
        rw [List.prefix_nil.1 hrest, if_pos hsmall] at hne
        exact absurd rfl hne
      · rename_i hlarge
        obtain ⟨rfl, hrest⟩ := List.cons_prefix_cons.1 hfront
        rw [if_neg hlarge] at hne
        have hcut : CutOff rest (varint (n / 128)) := ⟨hrest, fun heq => hne (by rw [heq])⟩
        have hmore : ¬ (n % 128 + 128).toUInt8.toNat < 128 := by
          simp
          omega
        have hrun : readGroups (index + 1) rest = .error ⟨.invalidVarint, []⟩ :=
          ih (n / 128) (by omega) hcut
        unfold readGroups
        by_cases hlast : index = 9 ∧ 2 ≤ (n % 128 + 128).toUInt8.toNat
        · rw [if_pos hlast]
        · rw [if_neg hlast, if_neg hmore, hrun]

theorem readVarint_of_cutOff {n : Nat} {part : List UInt8} (h : CutOff part (varint n)) :
    readVarint part = .error ⟨.invalidVarint, []⟩ :=
  readGroups_of_cutOff h

/-! ## Values -/

/-- Telling a fault where it happened does not change what it is. -/
theorem Fault.IsShortage.within {fault : Fault} (h : fault.IsShortage) (place : String) :
    (fault.within place).IsShortage := h

theorem readText_of_cutOff {content part : List UInt8} (hlen : content.length < 2 ^ 64)
    (h : CutOff part (varint content.length ++ content)) :
    ∃ fault : Fault, fault.IsShortage ∧ readText .lengthDelimited part = .error fault := by
  unfold readText
  obtain hnumber | ⟨tail, rfl, htail⟩ := h.append_cases
  · refine ⟨⟨.invalidVarint, []⟩, .inl rfl, ?_⟩
    simp [expect, bind, Except.bind, readVarint_of_cutOff hnumber]
  · refine ⟨⟨.bufferUnderflow, []⟩, .inr rfl, ?_⟩
    simp [expect, bind, Except.bind, readVarint_varint hlen, takeBytes, htail.length_lt, fail]

/-- A message inside a message is measured before it is read, so what is inside does not matter. -/
theorem readMessage_of_cutOff {α : Type} (readField : Nat → FieldReader α) (start : α) (depth : Nat)
    {content part : List UInt8} (hlen : content.length < 2 ^ 64)
    (h : CutOff part (varint content.length ++ content)) :
    ∃ fault : Fault, fault.IsShortage ∧
      readMessage readField start (depth + 1) .lengthDelimited part = .error fault := by
  unfold readMessage
  obtain hnumber | ⟨tail, rfl, htail⟩ := h.append_cases
  · refine ⟨⟨.invalidVarint, []⟩, .inl rfl, ?_⟩
    simp [expect, bind, Except.bind, readVarint_of_cutOff hnumber]
  · refine ⟨⟨.bufferUnderflow, []⟩, .inr rfl, ?_⟩
    simp [expect, bind, Except.bind, readVarint_varint hlen, htail.length_lt, fail]

/-! ## Fields -/

section

variable {α : Type} {readField : FieldReader α} {m : α}

theorem readKey_of_cutOff {k : Key} {part : List UInt8} (h : CutOff part k.bytes) :
    readKey part = .error ⟨.invalidVarint, []⟩ := by
  unfold readKey
  rw [readVarint_of_cutOff h]
  rfl

/-- A field is noticed to be cut off if its value is. -/
theorem Breaks.delimited {tag : Nat} {content : List UInt8} (h0 : 0 < tag) (h : tag < 2 ^ 29)
    (hvalue : ∀ part, CutOff part (varint content.length ++ content) →
      ∃ fault : Fault, fault.IsShortage ∧ readField m ⟨tag, .lengthDelimited⟩ part = .error fault) :
    Breaks readField m (delimited tag content) := by
  intro part fuel hne hcut hfuel
  have hlength : ¬ part.length ≤ 0 := Nat.not_le_of_lt (List.length_pos_iff.2 hne)
  unfold Wire.delimited at hcut
  rw [List.append_assoc] at hcut
  cases fuel with
  | zero => exact absurd hfuel (Nat.not_lt_zero _)
  | succ fuel =>
    rw [readFields, if_neg hlength]
    obtain hkey | ⟨tail, rfl, htail⟩ := hcut.append_cases
    · refine ⟨⟨.invalidVarint, []⟩, .inl rfl, ?_⟩
      rw [readKey_of_cutOff hkey]
      rfl
    · obtain ⟨fault, hshort, hread⟩ := hvalue tail htail
      refine ⟨fault, hshort, ?_⟩
      rw [readKey_bytes h0 h]
      simp only [bind, Except.bind, hread]

end

end Renumber.Wire
