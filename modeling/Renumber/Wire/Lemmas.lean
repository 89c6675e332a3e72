import Mathlib.Algebra.Group.Nat.Defs
import Renumber.Wire.Field

/-!
# Reading what was written

A number that was written is read back, whatever follows it (`readVarint_varint`), and so is the
number of a wire type.
-/

namespace Renumber.Wire

/-! ## Lemmas -/

theorem readGroups_varint {index n : Nat} (hi : index ≤ 9) (hn : n < 2 ^ (64 - 7 * index))
    (rest : List UInt8) : readGroups index (varint n ++ rest) = .ok (n, rest) := by
  induction n using Nat.strongRecOn generalizing index with
  | ind n ih =>
    have last : index = 9 → n < 2 := by
      rintro rfl
      simpa using hn
    rw [varint]
    split
    · rename_i small
      have hb : n.toUInt8.toNat = n := by
        simp
        omega
      simp only [List.cons_append, List.nil_append, readGroups, hb]
      rw [if_neg (by omega), if_pos small]
    · rename_i big
      have hb : (n % 128 + 128).toUInt8.toNat = n % 128 + 128 := by
        simp
        omega
      have hi' : index ≠ 9 := fun h => by
        have := last h
        omega
      have step : 64 - 7 * index = 64 - 7 * (index + 1) + 7 := by omega
      have hn' : n / 128 < 2 ^ (64 - 7 * (index + 1)) := by
        rw [step, Nat.pow_add] at hn
        omega
      have := ih (n / 128) (by omega) (by omega : index + 1 ≤ 9) hn'
      simp only [List.cons_append, readGroups, hb, this]
      rw [if_neg (by omega), if_neg (by omega)]
      simp only [Except.ok.injEq, Prod.mk.injEq, and_true]
      omega

theorem readVarint_varint {n : Nat} (hn : n < 2 ^ 64) (rest : List UInt8) :
    readVarint (varint n ++ rest) = .ok (n, rest) :=
  readGroups_varint (by omega) (by simpa using hn) rest

theorem WireType.ofNumber?_number (type : WireType) : ofNumber? type.number = some type := by
  cases type <;> rfl

theorem WireType.number_lt (type : WireType) : type.number < 8 := by
  cases type <;> decide

end Renumber.Wire
