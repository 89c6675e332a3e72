import Renumber.Text.Utf8

/-!
# Bytes shown as text

Bytes that are no UTF-8 are shown with a replacement character in place of each part that is none: the
beginning of a character that breaks off, or a byte that begins no character.
-/

namespace Renumber.Text

/-! ## Algorithm -/

def replacement : Char := '\ufffd'

/-- Whether a character that begins with the byte `first` may have this one next. -/
def mayBeSecond (first second : UInt8) : Bool :=
  if first = 0xE0 then 0xA0 ≤ second && second < 0xC0
  else if first = 0xED then 0x80 ≤ second && second < 0xA0
  else if first = 0xF0 then 0x90 ≤ second && second < 0xC0
  else if first = 0xF4 then 0x80 ≤ second && second < 0x90
  else 0x80 ≤ second && second < 0xC0

/-- Whether a byte may come behind the beginning of a character. -/
def goesOn : (started : List UInt8) → UInt8 → Bool
  | [], _ => false
  | [first], b => mayBeSecond first b
  | _, b => 0x80 ≤ b && b < 0xC0

/-- Whether the first byte is that of a character with several bytes. -/
def isStarted : List UInt8 → Bool
  | first :: _ => 0xC2 ≤ first && first < 0xF5
  | [] => false

/-- What is shown of the bytes behind the beginning of a character. -/
def shownFrom (started : List UInt8) : List UInt8 → List Char
  | [] => if started = [] then [] else [replacement]
  | b :: rest =>
    let isNext := goesOn started b
    let brokenOff := if started = [] ∨ isNext then [] else [replacement]
    let part := if isNext then started ++ [b] else [b]
    brokenOff ++
      match ofBytes? part with
      | some text => text.toList ++ shownFrom [] rest
      | none => if isStarted part then shownFrom part rest else replacement :: shownFrom [] rest

def shown (bytes : List UInt8) : String := String.ofList (shownFrom [] bytes)

end Renumber.Text
