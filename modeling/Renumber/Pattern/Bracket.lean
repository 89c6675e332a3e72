import Renumber.Pattern.Escape

/-!
# Sets in brackets

A set in brackets lists characters, ranges, escapes, named ASCII sets such as `[:digit:]` and
further sets in brackets.  A caret in front takes the complement.  Hyphens in front, and then a
closing bracket, stand for themselves; so does a hyphen before the closing bracket.  The operators
`&&`, `--` and `~~` intersect, subtract and take the symmetric difference, from left to right.

Where case is ignored, the case variants are added to a set before its complement is taken and
before it is combined with another.

The depth of a set says how deep its parts lie: a set in brackets, a list of several parts and an
operator each add one to the depth of what they hold.
-/

namespace Renumber.Pattern

/-! ## Algorithm -/

/-- A set with its depth. -/
structure NestedSet where
  set : CharSet
  depth : Nat := 0

/-- A set that is being read. -/
structure OpenSet where
  negated : Bool
  /-- The set before the latest operator, and how it is combined with what follows. -/
  waiting : Option (NestedSet × (CharSet → CharSet → CharSet)) := none
  /-- What has been listed since then. -/
  listed : NestedSet := ⟨.none, 0⟩
  /-- How many parts it has. -/
  parts : Nat := 0

namespace OpenSet

def add (o : OpenSet) (s : NestedSet) : OpenSet :=
  { o with
    listed := ⟨o.listed.set.union s.set, max o.listed.depth s.depth⟩
    parts := o.parts + 1 }

def value (flags : Flags) (o : OpenSet) : NestedSet :=
  let depth := if 1 < o.parts then o.listed.depth + 1 else o.listed.depth
  match o.waiting with
  | none => ⟨o.listed.set, depth⟩
  | some (s, combine) =>
    ⟨combine (flags.adapt s.set) (flags.adapt o.listed.set), max s.depth depth + 1⟩

def operate (flags : Flags) (o : OpenSet) (combine : CharSet → CharSet → CharSet) : OpenSet :=
  { negated := o.negated, waiting := some (o.value flags, combine) }

def close? (flags : Flags) (o : OpenSet) : Option NestedSet := do
  let s := o.value flags
  return ⟨← flags.adapt? o.negated s.set, s.depth + 1⟩

end OpenSet

/-- Reads the beginning of a set, after its bracket. -/
def openSet (flags : Flags) (text : List Char) : OpenSet × List Char :=
  let (negated, text) :=
    match flags.skip text with
    | '^' :: rest => (true, flags.skip rest)
    | text => (false, text)
  match flags.span (· = '-') text with
  | ([], ']' :: rest) => (OpenSet.add { negated } ⟨.single ']', 0⟩, flags.skip rest)
  | (hyphens, rest) => (hyphens.foldl (fun o c => o.add ⟨.single c, 0⟩) { negated }, rest)

/-- Reads a named set, after the bracket of `[:name:]` or `[:^name:]`. -/
def namedSet? (text : List Char) : Option (Bool × CharSet × List Char) := do
  let ':' :: rest := text | none
  let (negated, rest) :=
    match rest with
    | '^' :: rest => (true, rest)
    | _ => (false, rest)
  let (name, ':' :: ']' :: rest) := rest.span (· ≠ ':') | none
  return (negated, ← CharSet.named? (String.ofList name), rest)

/-- Reads a member of a set that is no set in brackets itself. -/
def member? (flags : Flags) : List Char → Option (Primitive × List Char)
  | [] => none
  | '\\' :: rest => escape? flags rest
  | c :: rest => some (.literal c, rest)

/-- The character behind blanks; a comment among them is not passed, and its first character is
taken for the one that follows. -/
def peek (comment : Bool) : List Char → Option Char
  | [] => none
  | c :: rest =>
    if Text.isBlank c then peek comment rest
    else if c = '#' ∧ !comment then peek true rest
    else some c

/-- The character after a hyphen. -/
def Flags.peek (flags : Flags) (text : List Char) : Option Char :=
  if flags.spaced then (Pattern.peek false text).or text.head? else text.head?

/-- Whether a character can be listed; without `u` only ASCII can. -/
def Flags.lists (flags : Flags) (c : Char) : Bool := flags.unicode || c.toNat < 0x80

/-- Reads a member or a range of a set. -/
def memberOrRange? (flags : Flags) (text : List Char) : Option (CharSet × List Char) := do
  let (first, rest) ← member? flags text
  let rest := flags.skip rest
  let isRange : Bool :=
    match rest with
    | '-' :: rest => flags.peek rest != some ']' && flags.peek rest != some '-'
    | _ => false
  if isRange then
    let (last, rest) ← member? flags (flags.skip (rest.drop 1))
    match first, last with
    | .literal a, .literal b =>
      if a ≤ b && flags.lists a && flags.lists b then some (.range a b, rest) else none
    | _, _ => none
  else
    match first with
    | .literal c => if flags.lists c then some (.single c, rest) else none
    | .set s => some (s, rest)
    | .assertion _ => none

/-- Reads the rest of a set; `enclosing` are the sets around it, innermost first.  Every step takes
a character, so the length of the text is enough `fuel`. -/
def setFrom? (flags : Flags) :
    (fuel : Nat) → (enclosing : List OpenSet) → OpenSet → List Char →
      Option (NestedSet × List Char)
  | 0, _, _, _ => none
  | fuel + 1, enclosing, o, text =>
    match flags.skip text with
    | [] => none
    | ']' :: rest => do
      let s ← o.close? flags
      match enclosing with
      | [] => some (s, rest)
      | outer :: enclosing => setFrom? flags fuel enclosing (outer.add s) rest
    | '[' :: rest =>
      match namedSet? rest with
      | some (negated, s, rest) => do
        let s ← flags.adapt? negated s
        setFrom? flags fuel enclosing (o.add ⟨s, 0⟩) rest
      | none =>
        let (inner, rest) := openSet flags rest
        setFrom? flags fuel (o :: enclosing) inner rest
    | '&' :: '&' :: rest => setFrom? flags fuel enclosing (o.operate flags .inter) rest
    | '-' :: '-' :: rest => setFrom? flags fuel enclosing (o.operate flags .diff) rest
    | '~' :: '~' :: rest => setFrom? flags fuel enclosing (o.operate flags .symmDiff) rest
    | text => do
      let (s, rest) ← memberOrRange? flags text
      setFrom? flags fuel enclosing (o.add ⟨s, 0⟩) rest

/-- Reads a set in brackets, after its bracket. -/
def bracketSet? (flags : Flags) (text : List Char) : Option (NestedSet × List Char) :=
  let (o, rest) := openSet flags text
  setFrom? flags (rest.length + 1) [] o rest

end Renumber.Pattern
