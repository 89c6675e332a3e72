/-!
# Ranges of code points

A set of characters is written as a list of ranges, each by its first and last code point.  In a
normalized list the ranges ascend and there is a character between any two of them; union and
complement keep lists normalized.  Surrogates are no characters: the code point after U+D7FF is
U+E000.
-/

namespace Renumber.Text

/-! ## Algorithm -/

def inRanges (ranges : List (Nat × Nat)) (c : Char) : Bool :=
  ranges.any fun (first, last) => first ≤ c.toNat && c.toNat ≤ last

def lastCode : Nat := 0x10FFFF

def nextCode (n : Nat) : Nat := if n = 0xD7FF then 0xE000 else n + 1

def previousCode (n : Nat) : Nat := if n = 0xE000 then 0xD7FF else n - 1

/-- Merges a range with those of an ascending list that it overlaps or touches. -/
def coalesceFrom (first last : Nat) : List (Nat × Nat) → List (Nat × Nat)
  | [] => [(first, last)]
  | (first', last') :: rest =>
    if first' ≤ nextCode last then coalesceFrom first (max last last') rest
    else (first, last) :: coalesceFrom first' last' rest

def coalesce : List (Nat × Nat) → List (Nat × Nat)
  | [] => []
  | (first, last) :: rest => coalesceFrom first last rest

def normalized (ranges : List (Nat × Nat)) : List (Nat × Nat) :=
  coalesce (ranges.mergeSort fun r r' => r.1 ≤ r'.1)

def unionRanges (ranges ranges' : List (Nat × Nat)) : List (Nat × Nat) :=
  coalesce (ranges.merge ranges' fun r r' => r.1 ≤ r'.1)

/-- The gaps in a normalized list, from the code point `start` on. -/
def gapsFrom (start : Nat) : List (Nat × Nat) → List (Nat × Nat)
  | [] => if start ≤ lastCode then [(start, lastCode)] else []
  | (first, last) :: rest =>
    if start < first then (start, previousCode first) :: gapsFrom (nextCode last) rest
    else gapsFrom (nextCode last) rest

def complementRanges (ranges : List (Nat × Nat)) : List (Nat × Nat) := gapsFrom 0 ranges

end Renumber.Text
