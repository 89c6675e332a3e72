import Renumber.Files.Name
import Renumber.Text.Shown

/-!
# Paths

A path is kept as it was written, cut at the slashes, so that it can be shown unchanged.  Empty
segments and single dots change nothing about what a path leads to, except for a dot in front and
for the empty segment that begins an absolute path.  A path that is no text is shown as far as it is
one.

The parent of a path is the path without its last segment that counts.
-/

namespace Renumber

/-! ## Algorithm -/

structure Path where
  segments : List Name
  deriving DecidableEq

namespace Path

/-- The byte of the slash. -/
def slash : UInt8 := 0x2F

def ofText (text : String) : Path := ⟨((Text.bytesOf text).splitOn slash).map Name.mk⟩

def bytes (p : Path) : List UInt8 := [slash].intercalate (p.segments.map Name.bytes)

/-- The path as it is shown. -/
def text (p : Path) : String := Text.shown p.bytes

def isEmpty (p : Path) : Bool := p.segments == [Name.ofText ""]

def isAbsolute (p : Path) : Bool :=
  p.segments.length ≠ 1 && p.segments.head? == some (Name.ofText "")

/-- The path that leads on through the given names. -/
def join (p : Path) (names : List Name) : Path :=
  if p.segments.getLast? = some (Name.ofText "") then ⟨p.segments.dropLast ++ names⟩
  else ⟨p.segments ++ names⟩

/-- Drops the segments in front that change nothing, of a path written backwards. -/
def dropIdle : List Name → List Name
  | s :: t :: rest => if s = "" ∨ s = "." then dropIdle (t :: rest) else s :: t :: rest
  | segments => segments

def parent? (p : Path) : Option Path :=
  match dropIdle p.segments.reverse with
  | [] => none
  | [only] => if only = "" then none else some ⟨[""]⟩
  | _ :: rest =>
    let above := dropIdle rest
    if above = [Name.ofText ""] then some ⟨["", ""]⟩ else some ⟨above.reverse⟩

/-- The last segment, if it is a name. -/
def fileName? (p : Path) : Option Name :=
  match dropIdle p.segments.reverse with
  | s :: _ => if s = "" ∨ s = "." ∨ s = ".." then none else some s
  | [] => none

/-- The path and its parents as far as `fuel` goes, without the empty path. -/
def lineage : (fuel : Nat) → Path → List Path
  | 0, _ => []
  | fuel + 1, p =>
    if p.isEmpty then []
    else p :: (p.parent?.map (lineage fuel)).getD []

/-- The path and all its parents, without the empty path. -/
def ancestors (p : Path) : List Path := lineage (p.segments.length + 1) p

end Path

end Renumber
