/-!
# Control characters as text

A terminal acts on some control characters: escape, bell, backspace, form feed, delete and the
second set of controls.  They are written out by their number, so that a text shown on a terminal
cannot steer it.  Tabulators and line ends stay as they are.
-/

namespace Renumber.Text

/-! ## Algorithm -/

def lowerHex (n : Nat) : List Char := Nat.toDigits 16 n

/-- A character as it is shown on a terminal. -/
def escapedChar (c : Char) : List Char :=
  if c = '\x1b' ∨ c = '\x07' ∨ c = '\x08' ∨ c = '\x0c' ∨ c = '\x7f' then
    ['\\', 'x'] ++ (if c.toNat < 0x10 then ['0'] else []) ++ lowerHex c.toNat
  else if 0x80 ≤ c.toNat ∧ c.toNat ≤ 0x9F then
    ['\\', 'u', '\x7b'] ++ lowerHex c.toNat ++ ['\x7d']
  else [c]

def escaped (text : String) : String := String.ofList (text.toList.flatMap escapedChar)

end Renumber.Text
