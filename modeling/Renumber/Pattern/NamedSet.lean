import Renumber.Pattern.CharSet
import Renumber.Text.Blank
import Renumber.Text.WordCharacter

/-!
# Sets with a name

The sets behind `\d`, `\s` and `\w`, in two sizes: all of Unicode or ASCII only; and the ASCII sets
that brackets name as in `[:digit:]`.
-/

namespace Renumber.CharSet

/-! ## Algorithm -/

def decimalDigit : CharSet := ⟨Text.decimalDigitRanges⟩

def blank : CharSet := ⟨Text.blankRanges⟩

def word : CharSet := ⟨Text.wordRanges⟩

def ascii : CharSet := range '\x00' '\x7f'

def asciiDigit : CharSet := range '0' '9'

def asciiBlank : CharSet := ⟨[(9, 13), (0x20, 0x20)]⟩

def asciiUpper : CharSet := range 'A' 'Z'

def asciiLower : CharSet := range 'a' 'z'

def asciiAlpha : CharSet := asciiUpper.union asciiLower

def asciiAlnum : CharSet := asciiDigit.union asciiAlpha

def asciiWord : CharSet := asciiAlnum.union (single '_')

/-- The visible characters of ASCII. -/
def asciiGraph : CharSet := range '!' '~'

/-- The ASCII sets that have a name inside brackets. -/
def named? (name : String) : Option CharSet :=
  match name with
  | "alnum" => some asciiAlnum
  | "alpha" => some asciiAlpha
  | "ascii" => some ascii
  | "blank" => some ((single '\t').union (single ' '))
  | "cntrl" => some ((range '\x00' '\x1f').union (single '\x7f'))
  | "digit" => some asciiDigit
  | "graph" => some asciiGraph
  | "lower" => some asciiLower
  | "print" => some (range ' ' '~')
  | "punct" => some (asciiGraph.diff asciiAlnum)
  | "space" => some asciiBlank
  | "upper" => some asciiUpper
  | "word" => some asciiWord
  | "xdigit" => some (asciiDigit.union ((range 'A' 'F').union (range 'a' 'f')))
  | _ => Option.none

end Renumber.CharSet
