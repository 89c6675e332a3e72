import Renumber.Text.Blank

/-!
# The shape of a message

The parameter types in a signature such as `(k:int, s:Map<String, int> = null)`.

The parameter list runs from the first opening parenthesis to the place where the closing
parentheses catch up with the opening ones.  It is cut at the commas outside all brackets, where a
closing bracket takes back any opening one.  Of each parameter, what follows an equals sign is its
default and what precedes the last colon is its name; the rest, without blanks around it, is its
type.
-/

namespace Renumber

/-! ## Algorithm -/

structure Shape where
  types : List String
  deriving DecidableEq

namespace Shape

/-- The place at which the closing parentheses catch up with the opening ones, `depth` of which are
open already. -/
def closing? (depth : Nat) : List Char → Option Nat
  | [] => none
  | c :: rest =>
    if c = '(' then (closing? (depth + 1) rest).map (· + 1)
    else if c = ')' then
      if depth - 1 = 0 then some 0 else (closing? (depth - 1) rest).map (· + 1)
    else (closing? depth rest).map (· + 1)

/-- The text between the first opening parenthesis and its counterpart. -/
def parameterList? (signature : List Char) : Option (List Char) :=
  match signature.dropWhile (· ≠ '(') with
  | [] => none
  | c :: rest => (closing? 0 (c :: rest)).map fun close => rest.take (close - 1)

/-- How a character changes the depth of nesting. -/
def nesting (c : Char) : Int :=
  if c = '(' ∨ c = '<' ∨ c = '[' ∨ c = '\x7b' then 1
  else if c = ')' ∨ c = '>' ∨ c = ']' ∨ c = '\x7d' then -1
  else 0

/-- Cuts at the commas of depth zero. -/
def splitParameters (depth : Int) : List Char → List (List Char)
  | [] => [[]]
  | c :: rest =>
    if c = ',' ∧ depth = 0 then [] :: splitParameters depth rest
    else (splitParameters (depth + nesting c) rest).modifyHead (c :: ·)

def declaredType (parameter : List Char) : List Char :=
  let declared := parameter.takeWhile (· ≠ '=')
  Text.trim (declared.reverse.takeWhile (· ≠ ':')).reverse

def ofText? (signature : List Char) : Option Shape :=
  (parameterList? signature).map fun inner =>
    match Text.trim inner with
    | [] => ⟨[]⟩
    | c :: rest => ⟨(splitParameters 0 (c :: rest)).map (String.ofList <| declaredType ·)⟩

def ofSignature? (signature : String) : Option Shape := ofText? signature.toList

def arity (s : Shape) : Nat := s.types.length

/-- The number of positions with the same type in both shapes. -/
def agreeingTypes (s t : Shape) : Nat := (s.types.zip t.types).countP fun (a, b) => a == b

end Shape

end Renumber
