import Renumber.Pattern.Expr
import Renumber.Pattern.NamedSet
import Renumber.Text.Blank

/-!
# Flags

What the flags of a pattern change: the meaning of its items (`i`, `m`, `s`, `R`, `u`), which way
repetitions prefer (`U`), and whether blanks and comments between the parts of the pattern are
skipped (`x`).  Without `u` the items stand for ASCII characters only; what would then match
a part of a character is not allowed.
-/

namespace Renumber.Pattern

/-! ## Algorithm -/

structure Flags where
  ignoreCase : Bool := false
  multiLine : Bool := false
  dotAll : Bool := false
  swapGreed : Bool := false
  crlf : Bool := false
  unicode : Bool := true
  spaced : Bool := false

namespace Flags

/-! ### Flags in a pattern -/

def set? (flags : Flags) (letter : Char) (on : Bool) : Option Flags :=
  match letter with
  | 'i' => some { flags with ignoreCase := on }
  | 'm' => some { flags with multiLine := on }
  | 's' => some { flags with dotAll := on }
  | 'U' => some { flags with swapGreed := on }
  | 'R' => some { flags with crlf := on }
  | 'u' => some { flags with unicode := on }
  | 'x' => some { flags with spaced := on }
  | _ => none

/-- Reads flags; those after a hyphen are taken back.  No flag and no second hyphen may occur twice,
and a hyphen must not be the last.  Returned are also the letters that were used. -/
def change? (flags : Flags) (on : Bool) (used : List Char) :
    List Char → Option (Flags × List Char × List Char)
  | [] => none
  | c :: rest =>
    if c = ':' ∨ c = ')' then
      if used.head? = some '-' then none else some (flags, used, c :: rest)
    else if used.contains c then none
    else if c = '-' then change? flags false (c :: used) rest
    else do change? (← flags.set? c on) on (c :: used) rest

/-! ### Blanks and comments -/

def skipBlanks (comment : Bool) : List Char → List Char
  | [] => []
  | c :: rest =>
    if comment then skipBlanks (c != '\n') rest
    else if Text.isBlank c then skipBlanks false rest
    else if c = '#' then skipBlanks true rest
    else c :: rest

/-- The pattern from its next part on. -/
def skip (flags : Flags) (text : List Char) : List Char :=
  if flags.spaced then skipBlanks false text else text

/-- The characters that follow and satisfy `p`, with blanks and comments skipped behind each.  Every
step takes a character, so the length of the text is enough `fuel`. -/
def spanWithin (flags : Flags) (p : Char → Bool) :
    (fuel : Nat) → List Char → List Char × List Char
  | fuel + 1, c :: rest =>
    if p c then
      let (more, rest) := flags.spanWithin p fuel (flags.skip rest)
      (c :: more, rest)
    else ([], c :: rest)
  | _, text => ([], text)

def span (flags : Flags) (p : Char → Bool) (text : List Char) : List Char × List Char :=
  flags.spanWithin p text.length text

/-! ### Items -/

/-- The set as it is meant where case is ignored. -/
def adapt (flags : Flags) (s : CharSet) : CharSet :=
  if flags.ignoreCase then
    if flags.unicode then s.anyCase else s.anyAsciiCase
  else s

/-- The complement; without `u` it would hold parts of characters. -/
def complement? (flags : Flags) (s : CharSet) : Option CharSet :=
  if flags.unicode then some s.compl else none

/-- The set or its complement, as it is meant where case is ignored. -/
def adapt? (flags : Flags) (negated : Bool) (s : CharSet) : Option CharSet :=
  if negated then flags.complement? (flags.adapt s) else some (flags.adapt s)

def literal (flags : Flags) (c : Char) : Expr := .ofSet (flags.adapt (.single c))

def dot? (flags : Flags) : Option Expr :=
  if !flags.unicode then none
  else if flags.dotAll then some (.ofSet .all)
  else if flags.crlf then some (.ofSet ((CharSet.single '\n').union (.single '\r')).compl)
  else some (.ofSet (CharSet.single '\n').compl)

def caret (flags : Flags) : Expr :=
  .assertion
    (if !flags.multiLine then .textStart else if flags.crlf then .crlfLineStart else .lineStart)

def dollar (flags : Flags) : Expr :=
  .assertion
    (if !flags.multiLine then .textEnd else if flags.crlf then .crlfLineEnd else .lineEnd)

def word (flags : Flags) (place : WordPlace) : Assertion :=
  if flags.unicode then .word place else .asciiWord place

def decimalDigit (flags : Flags) : CharSet :=
  if flags.unicode then .decimalDigit else .asciiDigit

def blank (flags : Flags) : CharSet := if flags.unicode then .blank else .asciiBlank

def wordCharacter (flags : Flags) : CharSet := if flags.unicode then .word else .asciiWord

end Flags

end Renumber.Pattern
