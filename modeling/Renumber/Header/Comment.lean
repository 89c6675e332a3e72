import Renumber.Text.Blank

/-!
# Trailing comments

A marker is two slashes.  It is accepted as the start of a trailing comment if the character before
it may lead one; so the slashes behind the colon of a network address are not.

`withoutComment?` cuts a line at its last accepted marker, together with the blanks before it.  A
line is dropped if nothing but blanks is left, if a marker is left in front of the cut, or if it has
no accepted marker and begins with one.
-/

namespace Renumber

/-! ## Algorithm -/

/-- The characters that may stand in front of the marker of a trailing comment. -/
inductive CommentLead where
  /-- An ASCII letter. -/
  | letter
  /-- An ASCII letter or a blank of ASCII text files. -/
  | letterOrBlank
  deriving DecidableEq

def CommentLead.allows : CommentLead → Char → Bool
  | .letter, c => c.isAlpha
  | .letterOrBlank, c => c.isAlpha || Text.isFileBlank c

def slashes : List Char := ['/', '/']

def firstMarker? : List Char → Option Nat
  | [] => none
  | c :: rest =>
    if slashes.isPrefixOf (c :: rest) then some 0 else (firstMarker? rest).map (· + 1)

/-- The place of the last accepted marker. -/
def lastAccepted? (lead : CommentLead) : List Char → Option Nat
  | [] => none
  | c :: rest =>
    match lastAccepted? lead rest with
    | some i => some (i + 1)
    | none => if lead.allows c && slashes.isPrefixOf rest then some 1 else none

/-- The line without its trailing comment, or nothing for a line that is a comment. -/
def withoutComment? (lead : CommentLead) (line : List Char) : Option (List Char) :=
  match firstMarker? line with
  | none => some line
  | some first =>
    let cut := lastAccepted? lead line
    let kept :=
      match cut with
      | some i => Text.trimEnd (line.take i)
      | none => line
    if kept.all Text.isBlank then none
    else if first < kept.length ∧ (cut.isSome ∨ (line.take first).all Text.isBlank) then none
    else some kept

end Renumber
