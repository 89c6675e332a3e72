import Renumber.Text.WordCharacter

/-!
# Assertions

Conditions that a pattern can set on the characters to the left and to the right of a place.
-/

namespace Renumber.Pattern

/-! ## Algorithm -/

/-- How a place lies to words. -/
inductive WordPlace where
  | boundary
  | noBoundary
  | start
  | finish
  | noWordBefore
  | noWordAfter
  deriving DecidableEq

def WordPlace.holds (place : WordPlace) (wordBefore wordAfter : Bool) : Bool :=
  match place with
  | boundary => wordBefore != wordAfter
  | noBoundary => wordBefore == wordAfter
  | start => !wordBefore && wordAfter
  | finish => wordBefore && !wordAfter
  | noWordBefore => !wordBefore
  | noWordAfter => !wordAfter

inductive Assertion where
  | textStart
  | textEnd
  | lineStart
  | lineEnd
  /-- A line start where a carriage return and a line feed, alone or as a pair, end lines. -/
  | crlfLineStart
  | crlfLineEnd
  | word (place : WordPlace)
  /-- With words of ASCII characters. -/
  | asciiWord (place : WordPlace)
  deriving DecidableEq

def isAsciiWordCharacter (c : Char) : Bool := c.isAlphanum || c == '_'

def Assertion.holds (a : Assertion) (before after : Option Char) : Bool :=
  match a with
  | textStart => before.isNone
  | textEnd => after.isNone
  | lineStart => before.all (· == '\n')
  | lineEnd => after.all (· == '\n')
  | crlfLineStart =>
    before.all fun c => c == '\n' || (c == '\r' && after != some '\n')
  | crlfLineEnd =>
    after.all fun c => c == '\r' || (c == '\n' && before != some '\r')
  | word place => place.holds (before.any Text.isWordCharacter) (after.any Text.isWordCharacter)
  | asciiWord place =>
    place.holds (before.any isAsciiWordCharacter) (after.any isAsciiWordCharacter)

end Renumber.Pattern
