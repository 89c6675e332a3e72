/-!
# Decimal numerals

Reading: an optional plus sign, then at least one ASCII digit, with a value below a given bound.
Leading zeros are allowed.  `readDigits` gives up at the first digit that takes the value to the
bound, so a long run of digits costs no large arithmetic.

Writing: `decimal` is the plain numeral, `grouped` puts a comma between groups of three digits,
counted from the right.
-/

namespace Renumber.Text

/-! ## Algorithm -/

def digitValue (c : Char) : Nat := c.toNat - '0'.toNat

/-- Reads digits after a numeral of value `sofar`. -/
def readDigits (bound : Nat) (sofar : Nat) : List Char → Option Nat
  | [] => some sofar
  | c :: rest =>
    if c.isDigit then
      let value := 10 * sofar + digitValue c
      if value < bound then readDigits bound value rest else none
    else none

def readNumeral (bound : Nat) (text : List Char) : Option Nat :=
  match text with
  | [] => none
  | ['+'] => none
  | '+' :: digits => readDigits bound 0 digits
  | digits => readDigits bound 0 digits

def decimal (n : Nat) : List Char := Nat.toDigits 10 n

/-- A comma goes after every digit that has a positive multiple of three digits behind it. -/
def withCommas : List Char → List Char
  | [] => []
  | c :: rest =>
    if rest ≠ [] ∧ rest.length % 3 = 0 then c :: ',' :: withCommas rest else c :: withCommas rest

def grouped (n : Nat) : List Char := withCommas (decimal n)

end Renumber.Text
