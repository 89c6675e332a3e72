import Renumber.Error
import Renumber.Pattern.Reader
import Renumber.Pattern.Search

/-!
# Patterns

A pattern says where the ids of a line are.  Each match stands for one token: the first of its
groups that took part, or all of it if none did.
-/

namespace Renumber

/-! ## Algorithm -/

structure Pattern where
  program : Array Pattern.Instruction
  /-- How many groups the pattern has. -/
  groups : Nat

namespace Pattern

def ofText? (text : String) : Except Error Pattern :=
  match read? text.toList with
  | some (x, groups) => .ok ⟨x.program, groups⟩
  | none => .error (.invalidPattern text)

/-- The pattern used unless another is given: digits after an equals sign. -/
def defaultText : String := "=\\s*(\\d+)"

def token (p : Pattern) (m : Match) : Span :=
  ((List.range p.groups).findSome? fun i => m.group? (i + 1)).getD m.span

/-- The tokens of a line, from left to right. -/
def tokens (p : Pattern) (line : List Char) : List Span := (allMatches p.program line).map p.token

end Pattern

end Renumber
