import Mathlib.Algebra.Group.Int.Defs
import Mathlib.Algebra.Group.Nat.Defs
import Renumber.Proofs.Fallible
import Renumber.Proofs.Text.AsciiByte

/-!
# Cutting a text at byte positions

A text is stored as bytes, and whoever goes through it by byte positions can go wrong in ways that a list
of characters does not know of: a cut may be out of range or fall into a character, a count that must
not be negative may be taken below zero, and one of 32 bits may run over.  `ScanFault` lists these
faults.

A cut succeeds exactly where a character ends or the text begins (`splitAtByte_eq_ok_iff`), so that a
slice is the text between two such places (`slice_eq_ok_iff`, `sliceFrom_eq_ok_iff`).  `firstByte?` and
`lastByte?` tell where a character stands.
-/

namespace Renumber

/-- What can go wrong where a text is gone through by byte positions and with counts of limited range. -/
inductive ScanFault where
  /-- A cut is out of range or inside of a character. -/
  | noBoundary
  /-- A count without a sign is taken below zero. -/
  | belowZero
  /-- A count leaves the range of 32 bits with a sign. -/
  | outOfRange
  deriving DecidableEq

/-- The number of bytes that a text takes. -/
def byteLength (text : List Char) : Nat := (encode text).length

/-- The texts in front of byte `n` and from there on. -/
def splitAtByte : Nat → List Char → Except ScanFault (List Char × List Char)
  | 0, text => .ok ([], text)
  | _ + 1, [] => .error .noBoundary
  | n + 1, c :: rest =>
    if c.utf8Size ≤ n + 1 then
      (splitAtByte (n + 1 - c.utf8Size) rest).map fun (front, back) => (c :: front, back)
    else .error .noBoundary

/-- The text from byte `i` on. -/
def sliceFrom (i : Nat) (text : List Char) : Except ScanFault (List Char) :=
  (splitAtByte i text).map Prod.snd

/-- The text from byte `i` to byte `j`, the latter not included. -/
def slice (i j : Nat) (text : List Char) : Except ScanFault (List Char) := do
  let (front, _) ← splitAtByte j text
  sliceFrom i front

/-- The byte at which a character stands for the first time. -/
def firstByte? (mark : Char) : List Char → Option Nat
  | [] => none
  | c :: rest => if c = mark then some 0 else (firstByte? mark rest).map (c.utf8Size + ·)

/-- The byte at which a character stands for the last time. -/
def lastByte? (mark : Char) : List Char → Option Nat
  | [] => none
  | c :: rest =>
    match lastByte? mark rest with
    | some i => some (c.utf8Size + i)
    | none => if c = mark then some 0 else none

/-- Counts one down. -/
def countDown : Nat → Except ScanFault Nat
  | 0 => .error .belowZero
  | n + 1 => .ok n

/-- The numbers of 32 bits with a sign. -/
def Fits32 (n : Int) : Prop := -2 ^ 31 ≤ n ∧ n < 2 ^ 31

instance (n : Int) : Decidable (Fits32 n) := inferInstanceAs (Decidable (_ ∧ _))

def count32 (n : Int) : Except ScanFault Int := if Fits32 n then .ok n else .error .outOfRange

/-! ## Lengths -/

@[simp] theorem byteLength_nil : byteLength [] = 0 := rfl

@[simp] theorem byteLength_cons (c : Char) (text : List Char) :
    byteLength (c :: text) = c.utf8Size + byteLength text := by
  rw [byteLength, encode_cons, List.length_append, String.length_utf8EncodeChar]
  rfl

@[simp] theorem byteLength_append (front back : List Char) :
    byteLength (front ++ back) = byteLength front + byteLength back := by
  rw [byteLength, encode_append, List.length_append]
  rfl

/-! ## Cuts -/

section

variable {n i j : Nat} {text front back part : List Char}

theorem splitAtByte_append (front back : List Char) :
    splitAtByte (byteLength front) (front ++ back) = .ok (front, back) := by
  induction front with
  | nil => simp [splitAtByte]
  | cons c front ih =>
    obtain ⟨n, hn⟩ : ∃ n, byteLength (c :: front) = n + 1 :=
      Nat.exists_eq_add_one.2 (by have := c.utf8Size_pos; simp; omega)
    have hle : c.utf8Size ≤ n + 1 := by rw [← hn, byteLength_cons]; omega
    have hrest : n + 1 - c.utf8Size = byteLength front := by rw [← hn, byteLength_cons]; omega
    rw [hn, List.cons_append, splitAtByte, if_pos hle, hrest, ih]
    rfl

theorem splitAtByte_eq_ok_iff :
    splitAtByte n text = .ok (front, back) ↔ text = front ++ back ∧ byteLength front = n := by
  constructor
  · intro h
    induction text generalizing n front with
    | nil =>
      cases n with
      | zero =>
        cases h
        exact ⟨rfl, rfl⟩
      | succ n => cases h
    | cons c rest ih =>
      cases n with
      | zero =>
        cases h
        exact ⟨rfl, rfl⟩
      | succ n =>
        rw [splitAtByte] at h
        split at h
        · rename_i hle
          obtain ⟨parts, hrest, hparts⟩ := map_eq_ok h
          cases hparts
          obtain ⟨rfl, hlength⟩ := ih hrest
          refine ⟨rfl, ?_⟩
          rw [byteLength_cons, hlength]
          omega
        · cases h
  · rintro ⟨rfl, rfl⟩
    exact splitAtByte_append front back

theorem sliceFrom_eq_ok_iff :
    sliceFrom i text = .ok part ↔ ∃ front, text = front ++ part ∧ byteLength front = i := by
  constructor
  · intro h
    obtain ⟨parts, hsplit, rfl⟩ := map_eq_ok h
    exact ⟨parts.1, splitAtByte_eq_ok_iff.1 hsplit⟩
  · rintro ⟨front, rfl, rfl⟩
    rw [sliceFrom, splitAtByte_append]
    rfl

/-- A slice begins and ends at places between characters, and holds the text between them. -/
theorem slice_eq_ok_iff :
    slice i j text = .ok part ↔ ∃ front back, text = front ++ part ++ back ∧
      byteLength front = i ∧ byteLength (front ++ part) = j := by
  constructor
  · intro h
    obtain ⟨parts, hsplit, hpart⟩ := bind_eq_ok h
    obtain ⟨rfl, rfl⟩ := splitAtByte_eq_ok_iff.1 hsplit
    obtain ⟨front, hparts, hi⟩ := sliceFrom_eq_ok_iff.1 hpart
    exact ⟨front, parts.2, by rw [hparts], hi, by rw [hparts]⟩
  · rintro ⟨front, back, rfl, rfl, rfl⟩
    rw [slice, splitAtByte_append]
    exact sliceFrom_eq_ok_iff.2 ⟨front, rfl, rfl⟩

theorem slice_append (front part back : List Char) :
    slice (byteLength front) (byteLength (front ++ part)) (front ++ part ++ back) = .ok part :=
  slice_eq_ok_iff.2 ⟨front, back, rfl, rfl, rfl⟩

theorem sliceFrom_append (front part : List Char) :
    sliceFrom (byteLength front) (front ++ part) = .ok part :=
  sliceFrom_eq_ok_iff.2 ⟨front, rfl, rfl⟩

/-! ## Where a character stands -/

variable {mark : Char} {rest : List Char}

theorem firstByte?_of_notMem (h : mark ∉ text) : firstByte? mark text = none := by
  induction text with
  | nil => rfl
  | cons c rest ih =>
    obtain ⟨hc, hrest⟩ := not_or.1 (mt List.mem_cons.2 h)
    rw [firstByte?, if_neg (Ne.symm hc), ih hrest]
    rfl

theorem firstByte?_append (h : mark ∉ front) (rest : List Char) :
    firstByte? mark (front ++ mark :: rest) = some (byteLength front) := by
  induction front with
  | nil => exact if_pos rfl
  | cons c front ih =>
    obtain ⟨hc, hfront⟩ := not_or.1 (mt List.mem_cons.2 h)
    rw [List.cons_append, firstByte?, if_neg (Ne.symm hc), ih hfront, byteLength_cons]
    rfl

theorem lastByte?_of_notMem (h : mark ∉ text) : lastByte? mark text = none := by
  induction text with
  | nil => rfl
  | cons c rest ih =>
    obtain ⟨hc, hrest⟩ := not_or.1 (mt List.mem_cons.2 h)
    rw [lastByte?, ih hrest]
    exact if_neg (Ne.symm hc)

theorem lastByte?_append (front : List Char) (h : mark ∉ rest) :
    lastByte? mark (front ++ mark :: rest) = some (byteLength front) := by
  induction front with
  | nil =>
    rw [List.nil_append, lastByte?, lastByte?_of_notMem h]
    exact if_pos rfl
  | cons c front ih => rw [List.cons_append, lastByte?, ih, byteLength_cons]

end

end Renumber
