import Renumber.Pattern.CharSet

/-!
# Sets of characters as bytes

The UTF-8 encodings of the characters of a set, as sequences of byte ranges: a sequence stands for
all ways to take one byte of each of its ranges.  A range of characters is cut where the encodings
change their length and where a continuation byte would not run through all its values.
-/

namespace Renumber

/-! ## Algorithm -/

/-- Bytes from `first` to `last`. -/
structure ByteRange where
  first : Nat
  last : Nat
  deriving DecidableEq

namespace CharSet

/-- The code points whose encodings have one length. -/
def encodedAlike : List (Nat × Nat) :=
  [(0, 0x7F), (0x80, 0x7FF), (0x800, 0xD7FF), (0xE000, 0xFFFF), (0x10000, 0x10FFFF)]

/-- The parts of a range in which the characters have encodings of one length. -/
def cutByLength (first last : Nat) : List (Nat × Nat) :=
  (encodedAlike.map fun (low, high) => (max first low, min last high)).filter fun (a, b) => a ≤ b

/-- The parts of a range that, for each block size, lie in one block or consist of whole blocks. -/
def cutAtBlocks (first last : Nat) : (sizes : List Nat) → List (Nat × Nat)
  | [] => [(first, last)]
  | size :: sizes =>
    let blockOf (n : Nat) : Nat := n / size
    let start (block : Nat) : Nat := block * size
    if blockOf first = blockOf last then [(first, last)]
    else
      let whole := if first = start (blockOf first) then first else start (blockOf first + 1)
      let head := if first = whole then [] else [(first, whole - 1)]
      let tail := start (blockOf last)
      if blockOf whole = blockOf last then head ++ [(whole, last)]
      else if last + 1 = tail + size then head ++ cutAtBlocks whole last sizes
      else head ++ cutAtBlocks whole (tail - 1) sizes ++ [(tail, last)]

/-- How many code points share all bytes but the last, the last two and the last three. -/
def blockSizes : List Nat := [0x40, 0x1000, 0x40000]

def encoded (n : Nat) : List Nat := (String.utf8EncodeChar (Char.ofNat n)).map UInt8.toNat

def byteRanges (first last : Nat) : List ByteRange :=
  List.zipWith ByteRange.mk (encoded first) (encoded last)

/-- The sequences of a set, ascending. -/
def byteSequences (s : CharSet) : List (List ByteRange) :=
  (s.ranges.flatMap fun (first, last) => cutByLength first last).flatMap fun (first, last) =>
    let parts := if last < 0x80 then [(first, last)] else cutAtBlocks first last blockSizes
    parts.map fun (first, last) => byteRanges first last

end CharSet

end Renumber
