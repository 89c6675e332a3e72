import Renumber.Pattern.Expr

/-!
# Pattern programs

An expression is laid out as an array of instructions.  An instruction is followed by the next one,
unless it says where to go on; the end of the array is the end of the expression.  A counted
repetition is spelled out, one copy of its body for each round.

An open repetition returns to the last copy of its body.  A body that takes at least one character
can be left and entered at the same fork.  For a body that may match nothing, the fork stands behind
it and a second one decides whether to enter at all: otherwise the preferred way through the body
could be lost when a round ends where it began.

Jumps over a branch count on the layout taking as many instructions as the expression says.
-/

namespace Renumber.Pattern

/-! ## Algorithm -/

/-- An end of a group, by the group's number. -/
inductive Mark where
  | opens (group : Nat)
  | closes (group : Nat)
  deriving DecidableEq

inductive Instruction where
  | char (c : Char)
  | set (s : CharSet)
  | assertion (a : Assertion)
  /-- Notes the place at which it is met. -/
  | mark (m : Mark)
  | jump (target : Nat)
  /-- Tries the first target before the second. -/
  | fork (first second : Nat)
  deriving DecidableEq

/-- Goes into the body of a repetition or past it. -/
def Instruction.enter (greedy : Bool) (body past : Nat) : Instruction :=
  if greedy then .fork body past else .fork past body

namespace Expr

mutual

/-- How many instructions the expression takes. -/
def size : Expr → Nat
  | empty => 0
  | text chars => chars.length
  | set _ | assertion _ => 1
  | group _ x => x.size + 2
  | repetition _ least none x => if least = 0 then x.size + 2 else least * x.size + 1
  | repetition _ least (some most) x => least * x.size + (most - least) * (x.size + 1)
  | concat items => sizeOfAll items
  | alternation branches => sizeOfBranches branches

def sizeOfAll : List Expr → Nat
  | [] => 0
  | x :: rest => x.size + sizeOfAll rest

/-- With a fork before and a jump behind each branch but the last. -/
def sizeOfBranches : List Expr → Nat
  | [] => 0
  | [x] => x.size
  | x :: rest => x.size + 2 + sizeOfBranches rest

end

abbrev Code := Array Instruction

mutual

/-- Appends the instructions of an expression. -/
def emit : Expr → Code → Code
  | empty, code => code
  | text chars, code => chars.foldl (fun code c => code.push (.char c)) code
  | set s, code => code.push (.set s)
  | assertion a, code => code.push (.assertion a)
  | group number x, code =>
    (x.emit (code.push (.mark (.opens number)))).push (.mark (.closes number))
  | repetition greedy least none x, code =>
    if least = 0 then
      let body := code.size + 1
      let past := body + x.size + 1
      let code := x.emit (code.push (.enter greedy body past))
      code.push (if x.consumes then .jump (body - 1) else .enter greedy body past)
    else
      let code := Nat.repeat x.emit least code
      code.push (.enter greedy (code.size - x.size) (code.size + 1))
  | repetition greedy least (some most) x, code =>
    let past := code.size + least * x.size + (most - least) * (x.size + 1)
    let optional (code : Code) : Code :=
      x.emit (code.push (.enter greedy (code.size + 1) past))
    Nat.repeat optional (most - least) (Nat.repeat x.emit least code)
  | concat items, code => emitAll items code
  | alternation branches, code => emitBranches (code.size + sizeOfBranches branches) branches code

def emitAll : List Expr → Code → Code
  | [], code => code
  | x :: rest, code => emitAll rest (x.emit code)

/-- Appends the branches of an alternation that ends at `past`. -/
def emitBranches (past : Nat) : List Expr → Code → Code
  | [], code => code
  | [x], code => x.emit code
  | x :: rest, code =>
    let next := code.size + x.size + 2
    emitBranches past rest
      ((x.emit (code.push (.fork (code.size + 1) next))).push (.jump past))

end

def program (x : Expr) : Array Instruction := x.emit #[]

end Expr

end Renumber.Pattern
