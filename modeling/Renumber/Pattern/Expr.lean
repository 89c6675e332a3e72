import Renumber.Pattern.Assertion
import Renumber.Pattern.CharSet

/-!
# Pattern expressions

What a pattern says.  Of two ways to match the first is preferred, so a greedy repetition puts one
more round before leaving, a lazy one after it.

Expressions are built by `ofSet`, `repeated`, `ofItems` and `ofBranches`, which keep them in a plain
form: a concatenation has at least two items, none of them empty or a concatenation, and no two
texts next to each other; an alternation has at least two branches and none of them is one; a set
has not exactly one character; branches that are all single characters or all sets make up one set,
and a beginning that all branches share stands before them.  Rounds that take no character are all
alike, so of an expression that never takes one there is at most one round.
-/

namespace Renumber.Pattern

/-! ## Algorithm -/

inductive Expr where
  | empty
  | text (chars : List Char)
  | set (s : CharSet)
  | assertion (a : Assertion)
  | group (number : Nat) (x : Expr)
  /-- Between `least` and `most` rounds, or any number from `least` on. -/
  | repetition (greedy : Bool) (least : Nat) (most : Option Nat) (x : Expr)
  | concat (items : List Expr)
  | alternation (branches : List Expr)
  deriving BEq

namespace Expr

/-! ### What an expression takes -/

mutual

/-- Whether every match is empty. -/
def isVacuous : Expr → Bool
  | empty | assertion _ => true
  | text _ | set _ => false
  | group _ x | repetition _ _ _ x => x.isVacuous
  | concat items | alternation items => areVacuous items

def areVacuous : List Expr → Bool
  | [] => true
  | x :: rest => x.isVacuous && areVacuous rest

end

mutual

/-- How many characters every match takes at least; `none` if a set in it has no characters. -/
def minLength : Expr → Option Nat
  | empty | assertion _ => some 0
  | text chars => some chars.length
  | set s => if s.isEmpty then none else some 1
  | group _ x => x.minLength
  | repetition _ least _ x => x.minLength.map (least * ·)
  | concat items => sumOfLengths items
  | alternation [] => none
  | alternation (x :: rest) => leastOfLengths x.minLength rest

def sumOfLengths : List Expr → Option Nat
  | [] => some 0
  | x :: rest => do return (← x.minLength) + (← sumOfLengths rest)

def leastOfLengths (length : Option Nat) : List Expr → Option Nat
  | [] => length
  | x :: rest => do leastOfLengths (some (min (← length) (← x.minLength))) rest

end

/-- Whether every match takes at least one character. -/
def consumes (x : Expr) : Bool := x.minLength.any (0 < ·)

mutual

/-- Whether every match sets the condition `a` on the place where it begins. -/
def isAnchored (a : Assertion) : Expr → Bool
  | assertion b => a == b
  | empty | text _ | set _ => false
  | group _ x => x.isAnchored a
  | repetition _ least _ x => 0 < least && x.isAnchored a
  | concat items => isFirstAnchored a items
  | alternation branches => areAnchored a branches

/-- Whether one of the items that take no character or the one behind them is anchored. -/
def isFirstAnchored (a : Assertion) : List Expr → Bool
  | [] => false
  | x :: rest => x.isAnchored a || (x.isVacuous && isFirstAnchored a rest)

def areAnchored (a : Assertion) : List Expr → Bool
  | [] => true
  | x :: rest => x.isAnchored a && areAnchored a rest

end

mutual

/-- The expression with all items in the opposite order, as it is met from the end. -/
def reversed : Expr → Expr
  | group number x => group number x.reversed
  | repetition greedy least most x => repetition greedy least most x.reversed
  | concat items => concat (reversedOnto [] items)
  | alternation branches => alternation (reversedOnto [] branches).reverse
  | x => x

/-- The reversed items, latest first, in front of others. -/
def reversedOnto (done : List Expr) : List Expr → List Expr
  | [] => done
  | x :: rest => reversedOnto (x.reversed :: done) rest

end

mutual

def nodes : Expr → Nat
  | group _ x | repetition _ _ _ x => x.nodes + 1
  | concat items | alternation items => nodesOfAll items + 1
  | _ => 1

def nodesOfAll : List Expr → Nat
  | [] => 0
  | x :: rest => x.nodes + nodesOfAll rest

end

/-! ### Building expressions -/

def ofSet (s : CharSet) : Expr :=
  match s.only? with
  | some c => text [c]
  | none => set s

def repeated (greedy : Bool) (least : Nat) (most : Option Nat) (x : Expr) : Expr :=
  let (least, most) :=
    if x.isVacuous then (min least 1, some (min (most.getD 1) 1)) else (least, most)
  if most = some 0 then empty
  else if least = 1 ∧ most = some 1 then x
  else repetition greedy least most x

/-- Puts an item in front of others, a text into the text that follows. -/
def joinText : Expr → List Expr → List Expr
  | text chars, text chars' :: rest => text (chars ++ chars') :: rest
  | x, rest => x :: rest

def items : Expr → List Expr
  | empty => []
  | concat items => items
  | x => [x]

/-- One after the other. -/
def ofItems (xs : List Expr) : Expr :=
  match (xs.flatMap items).foldr joinText [] with
  | [] => empty
  | [x] => x
  | xs => concat xs

def branches : Expr → List Expr
  | alternation branches => branches
  | x => [x]

def onlyCode? : Expr → Option Nat
  | text [c] => some c.toNat
  | _ => none

def set? : Expr → Option CharSet
  | set s => some s
  | _ => none

def concat? : Expr → Option (List Expr)
  | concat items => some items
  | _ => none

def sharedItems : List Expr → List Expr → List Expr
  | x :: xs, y :: ys => if x == y then x :: sharedItems xs ys else []
  | _, _ => []

/-- The items that all the lists begin with. -/
def sharedByAll : List (List Expr) → List Expr
  | [] => []
  | xs :: lists => lists.foldl sharedItems xs

/-- The first of the branches that matches.  A beginning that is taken out leaves branches with
fewer nodes, so the nodes of the first branch are enough `fuel`. -/
def ofBranchesWithin (fuel : Nat) (xs : List Expr) : Expr :=
  match xs.flatMap branches with
  | [] => set .none
  | [x] => x
  | xs =>
    match xs.mapM onlyCode?, xs.mapM set?, xs.mapM concat?, fuel with
    | some codes, _, _, _ => ofSet (.ofCodes codes)
    | _, some sets, _, _ => ofSet (sets.foldl .union .none)
    | _, _, some lists, fuel + 1 =>
      match sharedByAll lists with
      | [] => alternation xs
      | shared =>
        let rests := lists.map fun items => ofItems (items.drop shared.length)
        ofItems (shared ++ [ofBranchesWithin fuel rests])
    | _, _, _, _ => alternation xs

def ofBranches (xs : List Expr) : Expr :=
  ofBranchesWithin ((xs.head?.map nodes).getD 0) xs

end Expr

end Renumber.Pattern
