import Renumber.Pattern.ByteSequence
import Renumber.Pattern.Expr
import Std.Data.TreeMap.Basic

/-!
# The memory that a pattern takes

To be searched fast, a pattern is held as two automata over the bytes of UTF-8 text, one that reads
forward and one that reads backward.  A state takes 32 bytes, each transition of a state that
distinguishes bytes takes 8 and each alternative of a fork takes 4.  A pattern is refused if one of
its automata takes more than ten mebibytes; what follows says how large they are.

Each automaton begins with a loop that skips text, unless all matches begin at the end of the text
that is read first.  Groups have states in the forward automaton only.  A counted repetition is
spelled out, one copy of its body for each round.

The byte sequences of a set that is not all ASCII are merged where they end alike when read forward,
and where they begin alike when read backward.  States that could be shared are looked up in a table
with a fixed number of slots, so one that was displaced from its slot is made again.
-/

namespace Renumber.Pattern

/-! ## Algorithm -/

structure Footprint where
  states : Nat := 0
  transitions : Nat := 0
  alternatives : Nat := 0
  deriving DecidableEq

namespace Footprint

def bytes (f : Footprint) : Nat := 32 * f.states + 8 * f.transitions + 4 * f.alternatives

/-- Ten mebibytes. -/
def limit : Nat := 10 * 1024 * 1024

/-- Adds to a footprint, as long as it stays within the limit. -/
def add? (f : Footprint) (states : Nat) (transitions alternatives : Nat := 0) : Option Footprint :=
  let f := ⟨f.states + states, f.transitions + transitions, f.alternatives + alternatives⟩
  if f.bytes ≤ limit then some f else none

/-- Applies a step a number of times, unless it fails before. -/
def times (step : Footprint → Option Footprint) : (rounds : Nat) → Footprint → Option Footprint
  | 0, f => some f
  | rounds + 1, f =>
    match step f with
    | none => none
    | some f => times step rounds f

end Footprint

inductive Direction where
  | forward
  | backward
  deriving DecidableEq

/-! ### States that are looked up -/

/-- The states made so far by what they are made of; a slot holds one of them. -/
structure StateTable where
  slots : UInt64
  states : Std.TreeMap Nat (List Nat × Nat) := ∅

namespace StateTable

/-- Mixes the parts of a key one by one, by exclusive or and multiplication with a prime. -/
def slot (t : StateTable) (key : List Nat) : Nat :=
  let mixed := key.foldl (fun h part => (h ^^^ part.toUInt64) * 1099511628211) 14695981039346656037
  (mixed % t.slots).toNat

def find? (t : StateTable) (key : List Nat) : Option Nat :=
  match t.states[t.slot key]? with
  | some (key', state) => if key == key' then some state else none
  | none => none

def insert (t : StateTable) (key : List Nat) (state : Nat) : StateTable :=
  { t with states := t.states.insert (t.slot key) (key, state) }

end StateTable

/-- An automaton under construction: its footprint, which also numbers its states, and the states
of the set that is being added. -/
structure Construction where
  footprint : Footprint
  table : StateTable

/-- The state with this key, which is made unless it is found. -/
def Construction.state? (k : Construction) (key : List Nat) (transitions : Nat) :
    Option (Nat × Construction) :=
  match k.table.find? key with
  | some state => some (state, k)
  | none => do
    let state := k.footprint.states
    let footprint ← k.footprint.add? 1 transitions
    return (state, ⟨footprint, k.table.insert key state⟩)

/-! ### Sets -/

/-- Cuts a list into runs of sequences that begin with the same range of bytes, without it. -/
def byFirstRange (sequences : List (List ByteRange)) : List (ByteRange × List (List ByteRange)) :=
  sequences.foldr (fun sequence runs =>
    match sequence, runs with
    | [], _ => runs
    | r :: rest, (r', rests) :: runs =>
      if r = r' then (r, rest :: rests) :: runs else (r, [rest]) :: (r', rests) :: runs
    | r :: rest, [] => [(r, [rest])]) []

/-- The state from which the sequences lead to the state `last`; a sequence has at most `depth`
bytes. -/
def forwardState? (last : Nat) :
    (depth : Nat) → List (List ByteRange) → Construction → Option (Nat × Construction)
  | 0, _, k => some (last, k)
  | depth + 1, sequences, k =>
    if sequences.all List.isEmpty then some (last, k)
    else do
      let (key, k) ← (byFirstRange sequences).foldlM
        (fun (key, k) (r, rests) => do
          let (next, k) ← forwardState? last depth rests k
          return (next :: r.last :: r.first :: key, k)) ([], k)
      k.state? key.reverse (key.length / 3)

def placeForward? (sequences : List (List ByteRange)) (f : Footprint) : Option Footprint := do
  let last := f.states
  let (_, k) ← forwardState? last 4 sequences ⟨← f.add? 1, { slots := 10000 }⟩
  return k.footprint

/-- The states that lead from the state `from` back along a sequence. -/
def backwardState? (state : Nat) :
    List ByteRange → Construction → Option Construction
  | [], k => do return { k with footprint := ← k.footprint.add? 0 0 1 }
  | r :: rest, k => do
    let (next, k) ← k.state? [state, r.first, r.last] 0
    backwardState? next rest k

def placeBackward? (sequences : List (List ByteRange)) (f : Footprint) : Option Footprint := do
  let last := f.states + 1
  let k ← sequences.foldlM (fun k sequence => backwardState? last sequence k)
    ⟨← f.add? 2, { slots := 1000 }⟩
  return k.footprint

def placeSet? (direction : Direction) (s : CharSet) (f : Footprint) : Option Footprint :=
  if s.isAscii then f.add? 2 s.ranges.length
  else
    match direction with
    | .forward => placeForward? s.byteSequences f
    | .backward => placeBackward? s.byteSequences f

/-! ### Texts -/

def encoding (direction : Direction) (chars : List Char) : List Nat :=
  let bytes := chars.flatMap fun c => CharSet.encoded c.toNat
  match direction with
  | .forward => bytes
  | .backward => bytes.reverse

/-- Cuts the continuations of a text where the text itself is one of the branches; further copies of
the text in front of all that continue it do not count. -/
def cutAtEnds (continuations : List (List Nat)) : List (List (List Nat)) :=
  match continuations.span List.isEmpty with
  | ([], rest) => rest.splitOnP List.isEmpty
  | (_, rest) => [] :: rest.splitOnP List.isEmpty

/-- What the states take that read one of several texts, which share their beginnings as long as the
order of the branches is kept; no text is longer than `depth`. -/
def placeTexts? : (depth : Nat) → (texts : List (List Nat)) → Footprint → Option Footprint
  | 0, _, f => some f
  | depth + 1, texts, f =>
    if texts.all List.isEmpty then some f
    else do
      let parts := cutAtEnds texts
      let f ← parts.foldlM (fun f part => do
        let firsts := (part.filterMap List.head?).eraseDups
        let f ← firsts.foldlM (fun f first =>
          placeTexts? depth ((part.filter (·.head? == some first)).map List.tail) f) f
        match firsts with
        | [] => some f
        | [_] => f.add? 1 0 1
        | _ => f.add? 1 firsts.length 1) f
      f.add? 1 0 (parts.length - 1)

/-! ### Expressions -/

def text? : Expr → Option (List Char)
  | .text chars => some chars
  | _ => none

mutual

/-- Adds the states of an expression, with its items in the order in which they are read. -/
def place? (direction : Direction) : Expr → Footprint → Option Footprint
  | .empty, f | .assertion _, f => f.add? 1
  | .text chars, f => f.add? (encoding direction chars).length
  | .set s, f => placeSet? direction s f
  | .group _ x, f =>
    match direction with
    | .forward => do (← place? direction x (← f.add? 1)).add? 1
    | .backward => place? direction x f
  | .repetition _ 0 none x, f =>
    if x.consumes then do place? direction x (← f.add? 1 0 2)
    else do (← place? direction x f).add? 3 0 4
  | .repetition _ (least + 1) none x, f => do
    (← Footprint.times (place? direction x) (least + 1) f).add? 1 0 2
  | .repetition _ 0 (some 1) x, f => do (← place? direction x (← f.add? 1 0 2)).add? 1
  | .repetition _ least (some most) x, f => do
    let f ← if least = 0 then f.add? 1 else Footprint.times (place? direction x) least f
    if least = most then some f
    else
      let f ← f.add? 1
      Footprint.times (fun f => do place? direction x (← f.add? 1 0 2)) (most - least) f
  | .concat items, f => placeAll? direction items f
  | .alternation branches, f =>
    match branches.mapM text? with
    | some texts =>
      let texts := texts.map (encoding direction)
      do placeTexts? ((texts.map List.length).foldl max 0) texts (← f.add? 1)
    | none => placeBranches? direction branches.length branches f

def placeAll? (direction : Direction) : List Expr → Footprint → Option Footprint
  | [], f => some f
  | x :: rest, f => do placeAll? direction rest (← place? direction x f)

/-- Adds the branches of an alternation; the fork and the state where they meet come third. -/
def placeBranches? (direction : Direction) (count : Nat) :
    List Expr → Footprint → Option Footprint
  | x :: y :: rest, f => do
    let f ← place? direction y (← place? direction x f)
    placeAll? direction rest (← f.add? 2 0 count)
  | xs, f => placeAll? direction xs f

end

/-- Adds what stands before a pattern. -/
def placeStart? (anchored : Bool) (f : Footprint) : Option Footprint :=
  if anchored then f.add? 1 else f.add? 3 1 2

/-- The automaton that reads forward. -/
def forwardFootprint? (x : Expr) : Option Footprint := do
  let f ← placeStart? (x.isAnchored .textStart) {}
  (← place? .forward (.group 0 x) f).add? 1

/-- The automaton that reads backward. -/
def backwardFootprint? (x : Expr) : Option Footprint := do
  let x := x.reversed
  let f ← placeStart? (x.isAnchored .textEnd) {}
  (← place? .backward x f).add? 1

/-- Whether both automata stay within the limit. -/
def fits (x : Expr) : Bool := (forwardFootprint? x).isSome && (backwardFootprint? x).isSome

end Renumber.Pattern
