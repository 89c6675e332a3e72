import Renumber.Error
import Renumber.Text.Numeral
import Renumber.Text.Span

/-!
# Which token of a line holds the id

The last one, or the one with a given index, counted from zero.  Written, a choice is the word
`last` or the index; read, the word may be in any case and the index may have a sign and zeros in
front.
-/

namespace Renumber

/-! ## Algorithm -/

inductive TokenChoice where
  | last
  | index (i : UInt64)
  deriving DecidableEq

namespace TokenChoice

def text : TokenChoice → List Char
  | last => "last".toList
  | index i => Text.decimal i.toNat

def ofText? (text : List Char) : Option TokenChoice :=
  if text.map Char.toLower = "last".toList then some last
  else (Text.readNumeral UInt64.size text).map fun n => index (UInt64.ofNat n)

/-- What is said of a text that is no choice. -/
def rejection (text : String) : String := s!"expected 'last' or a match index, got '{text}'"

/-- The token among those of a line; the line's number is for the error. -/
def select (choice : TokenChoice) (number : Nat) (first : Span) (rest : List Span) :
    Except Error Span :=
  match choice with
  | last => .ok ((first :: rest).getLast (List.cons_ne_nil first rest))
  | index i =>
    match (first :: rest)[i.toNat]? with
    | some token => .ok token
    | none => .error (.tokenOutOfRange number i (rest.length + 1))

end TokenChoice

end Renumber
