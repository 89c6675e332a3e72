import Renumber.Text.CaseFold
import Renumber.Text.CodeRange

/-!
# Sets of characters

A set is kept as a normalized list of ranges of code points, so equal sets are equal values.  The
sets are closed under the set operations, complement and case variants.
-/

namespace Renumber

/-! ## Algorithm -/

structure CharSet where
  ranges : List (Nat × Nat)
  deriving DecidableEq

namespace CharSet

def contains (s : CharSet) (c : Char) : Bool := Text.inRanges s.ranges c

def none : CharSet := ⟨[]⟩

def single (c : Char) : CharSet := ⟨[(c.toNat, c.toNat)]⟩

def range (first last : Char) : CharSet := ⟨[(first.toNat, last.toNat)]⟩

def ofRanges (ranges : List (Nat × Nat)) : CharSet := ⟨Text.normalized ranges⟩

def ofCodes (codes : List Nat) : CharSet := ofRanges (codes.map fun n => (n, n))

def union (s t : CharSet) : CharSet := ⟨Text.unionRanges s.ranges t.ranges⟩

def compl (s : CharSet) : CharSet := ⟨Text.complementRanges s.ranges⟩

def inter (s t : CharSet) : CharSet := (s.compl.union t.compl).compl

def diff (s t : CharSet) : CharSet := (s.compl.union t).compl

def symmDiff (s t : CharSet) : CharSet := (s.diff t).union (t.diff s)

def all : CharSet := none.compl

/-- The only character of a set. -/
def only? (s : CharSet) : Option Char :=
  match s.ranges with
  | [(first, last)] => if first = last then some (Char.ofNat first) else .none
  | _ => .none

def isEmpty (s : CharSet) : Bool := s.ranges.isEmpty

def isAscii (s : CharSet) : Bool := s.ranges.all fun (_, last) => last < 0x80

def containsCode (s : CharSet) (n : Nat) : Bool := s.contains (Char.ofNat n)

/-- The set and the case variants of its characters. -/
def anyCase (s : CharSet) : CharSet :=
  s.union (ofCodes (Text.caseClasses.filter (·.any s.containsCode)).flatten)

/-- The set and the other cases of the ASCII letters in it. -/
def anyAsciiCase (s : CharSet) : CharSet :=
  let letters := (List.range 26).map fun i => ['A'.toNat + i, 'a'.toNat + i]
  s.union (ofCodes (letters.filter (·.any s.containsCode)).flatten)

end CharSet

end Renumber
