import Renumber.Wire.Fault

/-!
# Numbers of variable length

A number below 2^64 is written in groups of seven bits, the lowest first; every byte but the last
has its high bit set.  A written number has at most ten bytes, and the tenth is at most one.

Reading takes at least one byte (`length_lt_of_readVarint`).
-/

namespace Renumber.Wire

/-! ## Algorithm -/

/-- What is read from the front of some bytes, and the bytes behind it. -/
abbrev Decoded (α : Type) := α × List UInt8

def varint (n : Nat) : List UInt8 :=
  if n < 128 then [n.toUInt8] else (n % 128 + 128).toUInt8 :: varint (n / 128)
termination_by n

/-- Reads the groups from the one with number `index` on. -/
def readGroups (index : Nat) : List UInt8 → Except Fault (Decoded Nat)
  | [] => .error ⟨.invalidVarint, []⟩
  | b :: rest =>
    if index = 9 ∧ 2 ≤ b.toNat then .error ⟨.invalidVarint, []⟩
    else if b.toNat < 128 then .ok (b.toNat, rest)
    else
      match readGroups (index + 1) rest with
      | .ok (n, rest) => .ok (b.toNat - 128 + 128 * n, rest)
      | .error e => .error e

def readVarint (bytes : List UInt8) : Except Fault (Decoded Nat) := readGroups 0 bytes

/-! ## Lemmas -/

theorem length_lt_of_readGroups {index : Nat} {bytes rest : List UInt8} {n : Nat}
    (h : readGroups index bytes = .ok (n, rest)) : rest.length < bytes.length := by
  induction bytes generalizing index n with
  | nil => simp [readGroups] at h
  | cons b tail ih =>
    simp only [readGroups] at h
    split at h
    · contradiction
    split at h
    · cases h
      simp
    split at h
    · rename_i hr
      cases h
      have := ih hr
      simp only [List.length_cons]
      omega
    · contradiction

theorem length_lt_of_readVarint {bytes rest : List UInt8} {n : Nat}
    (h : readVarint bytes = .ok (n, rest)) : rest.length < bytes.length :=
  length_lt_of_readGroups h

end Renumber.Wire
