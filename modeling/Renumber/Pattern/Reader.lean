import Renumber.Pattern.Bracket
import Renumber.Pattern.Footprint

/-!
# Reading patterns

The text of a pattern is read from left to right; the groups that are open form a stack.  Flags set
inside a group hold to its end, also in its later branches.  Repetition operators apply to the item
before them, and there must be one.  There are no conditions on longer contexts and no references to
groups.

The parts of a pattern must not lie deeper than `depthLimit`: groups, repetitions, concatenations of
several items, alternations of several branches and the parts of sets each add one.  And the pattern
must not take too much memory (`fits`).
-/

namespace Renumber.Pattern

/-! ## Algorithm -/

/-- An expression with its depth. -/
structure Nested where
  expr : Expr
  depth : Nat := 0

/-- A group that is being read, as it is resumed after an inner one. -/
structure OpenGroup where
  flags : Flags := {}
  /-- The finished branches, latest first. -/
  branches : List Nested := []
  /-- The items of the current branch, latest first; a change of flags is an item without
  expression. -/
  items : List (Option Nested) := []

/-- The state of reading; `current` is the innermost open group. -/
structure Reading where
  current : OpenGroup := {}
  /-- The groups around it, each with the number that the group inside it takes, if any. -/
  enclosing : List (OpenGroup × Option Nat) := []
  groups : Nat := 0
  names : List (List Char) := []

def depthLimit : Nat := 250

/-- The depth of several parts in a list; a list of one part does not count. -/
def depthOfAll (depths : List Nat) : Nat :=
  match depths with
  | [] => 0
  | [depth] => depth
  | depths => depths.foldl max 0 + 1

def OpenGroup.branch (g : OpenGroup) : Nested where
  expr := .ofItems (g.items.reverse.filterMap fun item => item.map Nested.expr)
  depth := depthOfAll (g.items.map fun item => (item.map Nested.depth).getD 0)

def OpenGroup.value (g : OpenGroup) : Nested :=
  let branches := (g.branch :: g.branches).reverse
  ⟨.ofBranches (branches.map Nested.expr), depthOfAll (branches.map Nested.depth)⟩

namespace Reading

def push? (r : Reading) (x : Expr) (depth : Nat := 0) : Option Reading :=
  if depth ≤ depthLimit then
    some { r with current := { r.current with items := some ⟨x, depth⟩ :: r.current.items } }
  else none

def setFlags (r : Reading) (flags : Flags) : Reading :=
  { r with current := { r.current with flags, items := none :: r.current.items } }

def nextBranch (r : Reading) : Reading :=
  let g := r.current
  { r with current := { g with branches := g.branch :: g.branches, items := [] } }

def openGroup (r : Reading) (number : Option Nat) (flags : Flags) : Reading :=
  { r with current := { flags }, enclosing := (r.current, number) :: r.enclosing }

def openCapture (r : Reading) : Reading :=
  { r.openGroup (some (r.groups + 1)) r.current.flags with groups := r.groups + 1 }

def closeGroup? (r : Reading) : Option Reading :=
  match r.enclosing with
  | [] => none
  | (outer, number) :: enclosing =>
    let x := r.current.value
    let expr :=
      match number with
      | some n => .group n x.expr
      | none => x.expr
    push? { r with current := outer, enclosing } expr (x.depth + 1)

/-- Takes back the latest item, for a repetition. -/
def popItem? (r : Reading) : Option (Nested × Reading) :=
  match r.current.items with
  | some x :: items => some (x, { r with current := { r.current with items } })
  | _ => none

end Reading

/-! ### Groups -/

def isNameStart (c : Char) : Bool := c == '_' || Text.isLetter c

def isNamePart (c : Char) : Bool :=
  isNameStart c || Text.isNumber c || c == '.' || c == '[' || c == ']'

/-- Reads the name of a group, after the opening angle bracket. -/
def groupName? (text : List Char) : Option (List Char × List Char) :=
  match text.span (· ≠ '>') with
  | (c :: name, '>' :: rest) =>
    if isNameStart c && name.all isNamePart then some (c :: name, rest) else none
  | _ => none

def namedGroup? (r : Reading) (text : List Char) : Option (Reading × List Char) := do
  let (name, rest) ← groupName? text
  if r.names.contains name then none
  else some ({ r.openCapture with names := name :: r.names }, rest)

/-- Reads the beginning of a group or a change of flags, after the opening parenthesis. -/
def groupStart? (r : Reading) (text : List Char) : Option (Reading × List Char) :=
  match r.current.flags.skip text with
  | '?' :: '<' :: '=' :: _ => none
  | '?' :: '<' :: '!' :: _ => none
  | '?' :: 'P' :: '<' :: rest => namedGroup? r rest
  | '?' :: '<' :: rest => namedGroup? r rest
  | '?' :: rest =>
    match r.current.flags.change? true [] rest with
    | some (_, [], ')' :: _) => none
    | some (flags, _, ')' :: rest) => some (r.setFlags flags, rest)
    | some (flags, _, _ :: rest) => some (r.openGroup none flags, rest)
    | _ => none
  | rest => some (r.openCapture, rest)

/-! ### Repetition -/

/-- Reads a count, which may have blanks around it. -/
def count? (flags : Flags) (text : List Char) : Option (Nat × List Char) :=
  let (digits, rest) := flags.span Char.isDigit (Text.trimStart text)
  match digits with
  | [] => none
  | _ => (Text.readDigits UInt32.size 0 digits).map fun n => (n, Text.trimStart rest)

/-- Reads the bounds of a counted repetition, after the opening brace. -/
def bounds? (flags : Flags) (text : List Char) : Option (Nat × Option Nat × List Char) := do
  let (least, rest) ← count? flags (flags.skip text)
  match rest with
  | '\x7d' :: rest => some (least, some least, flags.skip rest)
  | ',' :: rest =>
    match flags.skip rest with
    | '\x7d' :: rest => some (least, none, flags.skip rest)
    | rest => do
      let (most, rest) ← count? flags rest
      let '\x7d' :: rest := rest | none
      if least ≤ most then some (least, some most, flags.skip rest) else none
  | _ => none

/-- Repeats the latest item.  A question mark behind the operator makes it lazy. -/
def repeatItem? (r : Reading) (least : Nat) (most : Option Nat) (text : List Char) :
    Option (Reading × List Char) := do
  let (x, r) ← r.popItem?
  let (lazy, rest) :=
    match text with
    | '?' :: rest => (true, rest)
    | _ => (false, text)
  let expr := x.expr.repeated (lazy == r.current.flags.swapGreed) least most
  return (← r.push? expr (x.depth + 1), rest)

/-! ### The whole pattern -/

def pushPrimitive? (r : Reading) (p : Primitive) : Option Reading :=
  match p with
  | .literal c => r.push? (r.current.flags.literal c)
  | .set s => r.push? (.ofSet s)
  | .assertion a => r.push? (.assertion a)

/-- Reads the item, group end or operator that starts with `c`. -/
def step? (r : Reading) (c : Char) (rest : List Char) : Option (Reading × List Char) :=
  let flags := r.current.flags
  match c with
  | '(' => groupStart? r rest
  | ')' => r.closeGroup?.map (·, rest)
  | '|' => some (r.nextBranch, rest)
  | '[' => do
    let (s, rest) ← bracketSet? flags rest
    return (← r.push? (.ofSet s.set) s.depth, rest)
  | '?' => repeatItem? r 0 (some 1) rest
  | '*' => repeatItem? r 0 none rest
  | '+' => repeatItem? r 1 none rest
  | '\x7b' => do
    let (least, most, rest) ← bounds? flags rest
    repeatItem? r least most rest
  | '.' => do return (← r.push? (← flags.dot?), rest)
  | '^' => (r.push? flags.caret).map (·, rest)
  | '$' => (r.push? flags.dollar).map (·, rest)
  | '\\' => do
    let (p, rest) ← escape? flags rest
    return (← pushPrimitive? r p, rest)
  | _ => (r.push? (flags.literal c)).map (·, rest)

/-- Reads on to the end.  Every step takes a character, so the length of the text is enough
`fuel`. -/
def readFrom? (fuel : Nat) (r : Reading) (text : List Char) : Option Reading :=
  match r.current.flags.skip text, fuel with
  | [], _ => some r
  | _ :: _, 0 => none
  | c :: rest, fuel + 1 =>
    match step? r c rest with
    | none => none
    | some (r, rest) => readFrom? fuel r rest

/-- The expression that a text writes and the number of its groups. -/
def read? (text : List Char) : Option (Expr × Nat) := do
  let r ← readFrom? text.length {} text
  match r.enclosing with
  | [] =>
    let x := r.current.value
    if x.depth ≤ depthLimit && fits x.expr then some (x.expr, r.groups) else none
  | _ :: _ => none

end Renumber.Pattern
