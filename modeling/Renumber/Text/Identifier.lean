/-!
# Characters of identifiers

An identifier starts with a letter or a letter number and goes on with these, marks, decimal digits
and connectors.  The tables hold the exceptions: characters of other categories, and those that
closed identifiers leave out because their compatibility decomposition would break them.  They list
first and last code points of runs, ascending.
-/

namespace Renumber.Text

/-! ## Algorithm -/

def otherIdentifierStartRanges : List (Nat × Nat) :=
  [(0x1885, 0x1886), (0x2118, 0x2118), (0x212E, 0x212E), (0x309B, 0x309C)]

/-- The vertical tilde is a letter by category and punctuation by use. -/
def notIdentifierStartRanges : List (Nat × Nat) := [(0x2E2F, 0x2E2F)]

def otherIdentifierPartRanges : List (Nat × Nat) :=
  [(0xB7, 0xB7), (0x387, 0x387), (0x1369, 0x1371), (0x19DA, 0x19DA), (0x200C, 0x200D),
   (0x30FB, 0x30FB), (0xFF65, 0xFF65)]

/-- The characters that decompose into a blank and a mark, or into text that holds a blank. -/
def unclosedRanges : List (Nat × Nat) :=
  [(0x37A, 0x37A), (0x309B, 0x309C), (0xFC5E, 0xFC63), (0xFDFA, 0xFDFB), (0xFE70, 0xFE70),
   (0xFE72, 0xFE72), (0xFE74, 0xFE74), (0xFE76, 0xFE76), (0xFE78, 0xFE78), (0xFE7A, 0xFE7A),
   (0xFE7C, 0xFE7C), (0xFE7E, 0xFE7E)]

/-- The letters that decompose into what can go on but not start. -/
def unclosedStartRanges : List (Nat × Nat) := [(0xE33, 0xE33), (0xEB3, 0xEB3), (0xFF9E, 0xFF9F)]

end Renumber.Text
