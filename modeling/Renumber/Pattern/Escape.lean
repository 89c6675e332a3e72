import Renumber.Pattern.Flags
import Renumber.Pattern.Property
import Renumber.Text.Numeral

/-!
# Escapes in patterns

What may follow a backslash: a set (`\d \s \w`, their complements and `\p`), an assertion
(`\A \z \b \B` and the forms for the two ends of a word), a control character, a character given by
its hexadecimal number, or a punctuation character that then stands for itself.  A backslash before
any other letter or a digit is not allowed.
-/

namespace Renumber.Pattern

/-! ## Algorithm -/

/-- A part of a pattern that stands for itself, for one of several characters or for a condition. -/
inductive Primitive where
  | literal (c : Char)
  | set (s : CharSet)
  | assertion (a : Assertion)

/-! ### Hexadecimal numbers -/

def hexValue? (c : Char) : Option Nat :=
  if c.isDigit then some (Text.digitValue c)
  else if 'a' ≤ c ∧ c ≤ 'f' then some (c.toNat - 'a'.toNat + 10)
  else if 'A' ≤ c ∧ c ≤ 'F' then some (c.toNat - 'A'.toNat + 10)
  else none

/-- The character whose number the digits write. -/
def hexChar? (digits : List Char) : Option Char := do
  let value ← digits.foldlM (fun n c => (hexValue? c).map (16 * n + ·)) 0
  if value.isValidChar then some (Char.ofNat value) else none

/-- Takes a fixed number of hexadecimal digits. -/
def hexDigits? (flags : Flags) : (count : Nat) → List Char → Option (List Char × List Char)
  | 0, text => some ([], text)
  | _ + 1, [] => none
  | count + 1, c :: rest =>
    if (hexValue? c).isSome then do
      let (digits, rest) ← hexDigits? flags count (flags.skip rest)
      return (c :: digits, rest)
    else none

/-- Reads the number of a character, in braces or with a fixed count of digits.  Two digits without
braces stand for a byte where Unicode is off. -/
def hexEscape? (flags : Flags) (count : Nat) (text : List Char) :
    Option (Primitive × List Char) :=
  match flags.skip text with
  | '\x7b' :: rest =>
    match flags.span (hexValue? · |>.isSome) (flags.skip rest) with
    | (c :: digits, '\x7d' :: rest) => do
      return (.literal (← hexChar? (c :: digits)), flags.skip rest)
    | _ => none
  | text => do
    let (digits, rest) ← hexDigits? flags count text
    let c ← hexChar? digits
    if count = 2 ∧ !flags.unicode ∧ 0x80 ≤ c.toNat then none else some (.literal c, rest)

/-! ### Words -/

def wordPlace? (name : String) : Option WordPlace :=
  match name with
  | "start" => some .start
  | "end" => some .finish
  | "start-half" => some .noWordBefore
  | "end-half" => some .noWordAfter
  | _ => none

/-- A condition on one end of a word, named in braces behind `\b`.  Braces that do not start with a
letter or a hyphen belong to a repetition instead. -/
def wordEscape? (flags : Flags) (text : List Char) : Option (WordPlace × List Char) :=
  let inName (c : Char) : Bool := c.isAlpha || c == '-'
  match text with
  | '\x7b' :: rest =>
    match flags.span inName (flags.skip rest) with
    | (_, []) => none
    | ([], _) => some (.boundary, text)
    | (name, '\x7d' :: rest) => (wordPlace? (String.ofList name)).map (·, rest)
    | _ => none
  | _ => some (.boundary, text)

/-! ### Properties -/

/-- Reads the name of a property, in braces or with one letter; `negated` takes the complement. -/
def propertyEscape? (flags : Flags) (negated : Bool) (text : List Char) :
    Option (Primitive × List Char) := do
  let (name, rest) ←
    match flags.skip text with
    | '\x7b' :: rest =>
      match flags.span (· != '\x7d') (flags.skip rest) with
      | (name, '\x7d' :: rest) => some (name, rest)
      | _ => none
    | '\\' :: _ => none
    | c :: rest => some ([c], flags.skip rest)
    | [] => none
  if !flags.unicode then none
  else
    let s ← flags.adapt? negated (← Property.set? name)
    return (.set s, rest)

/-! ### The escape -/

/-- The set behind a letter or, for a capital, its complement. -/
def setEscape? (flags : Flags) (letter : Char) : Option CharSet :=
  match letter with
  | 'd' => some flags.decimalDigit
  | 'D' => flags.complement? flags.decimalDigit
  | 's' => some flags.blank
  | 'S' => flags.complement? flags.blank
  | 'w' => some flags.wordCharacter
  | 'W' => flags.complement? flags.wordCharacter
  | _ => none

def controlEscape? (letter : Char) : Option Char :=
  match letter with
  | 'a' => some '\x07'
  | 'f' => some '\x0c'
  | 't' => some '\t'
  | 'n' => some '\n'
  | 'r' => some '\r'
  | 'v' => some '\x0b'
  | _ => none

def assertionEscape? (flags : Flags) (letter : Char) : Option Assertion :=
  match letter with
  | 'A' => some .textStart
  | 'z' => some .textEnd
  | 'B' => some (flags.word .noBoundary)
  | '<' => some (flags.word .start)
  | '>' => some (flags.word .finish)
  | _ => none

/-- Reads what follows a backslash. -/
def escape? (flags : Flags) : List Char → Option (Primitive × List Char)
  | [] => none
  | 'x' :: rest => hexEscape? flags 2 rest
  | 'u' :: rest => hexEscape? flags 4 rest
  | 'U' :: rest => hexEscape? flags 8 rest
  | 'p' :: rest => propertyEscape? flags false rest
  | 'P' :: rest => propertyEscape? flags true rest
  | 'b' :: rest => do
    let (place, rest) ← wordEscape? flags rest
    return (.assertion (flags.word place), rest)
  | c :: rest =>
    match setEscape? flags c, controlEscape? c, assertionEscape? flags c with
    | some s, _, _ => some (.set s, rest)
    | _, some c, _ => some (.literal c, rest)
    | _, _, some a => some (.assertion a, rest)
    | _, _, _ => if c.toNat < 0x80 ∧ ¬ c.isAlphanum then some (.literal c, rest) else none

end Renumber.Pattern
