import Renumber.Pattern.Program
import Renumber.Text.Span
import Std.Data.HashSet.Basic

/-!
# Searching a text

A program runs on a text as a list of threads, the preferred ones first.  Each thread stands at an
instruction and remembers where it started and the places it has marked.  Before a character is
read, every thread is followed along jumps, forks, assertions and marks until it needs a character
or is at the end of the program (`settle`); an instruction that was met before at the same place is
not entered again, since a preferred thread has been there.  A thread at the end is a match, and
drops all threads behind it; those before it go on and may replace the match by a preferred one.

As long as there is no match a new thread starts at each place, behind those that started earlier,
so that one pass over the text finds the first match (`findFrom?`).  After a match a search goes on
from where the match ended; a match of nothing at the end of the previous match does not count.
-/

namespace Renumber.Pattern

/-! ## Algorithm -/

structure Thread where
  address : Nat
  start : Nat
  /-- The places of the marks, latest first. -/
  marks : List (Mark × Nat)

structure Match where
  start : Nat
  finish : Nat
  marks : List (Mark × Nat)

/-- The places that an instruction leads to without a character, the preferred first; `none` if it
needs a character or if there is no instruction. -/
def Thread.follow? (program : Array Instruction) (before after : Option Char) (place : Nat)
    (t : Thread) : Option (List Thread) :=
  match program[t.address]? with
  | some (.assertion a) =>
    some (if a.holds before after then [{ t with address := t.address + 1 }] else [])
  | some (.mark m) => some [{ t with address := t.address + 1, marks := (m, place) :: t.marks }]
  | some (.jump target) => some [{ t with address := target }]
  | some (.fork first second) => some [{ t with address := first }, { t with address := second }]
  | _ => none

/-- Follows the threads as far as they get without a character; `settled` are those that are there,
latest first, and `seen` the addresses met so far.  Each address is followed once, so three steps
per instruction are enough `fuel`. -/
def settle (program : Array Instruction) (before after : Option Char) (place : Nat) :
    (fuel : Nat) → (seen : Std.HashSet Nat) → (settled : List Thread) → List Thread → List Thread
  | 0, _, settled, _ => settled
  | _ + 1, _, settled, [] => settled
  | fuel + 1, seen, settled, t :: rest =>
    if seen.contains t.address then settle program before after place fuel seen settled rest
    else
      let seen := seen.insert t.address
      match t.follow? program before after place with
      | some next => settle program before after place fuel seen settled (next ++ rest)
      | none =>
        if program.size ≤ t.address then t :: settled
        else settle program before after place fuel seen (t :: settled) rest

/-- The threads that wait for a character at this place, and behind them one that is at the end. -/
def live (program : Array Instruction) (before after : Option Char) (place : Nat)
    (threads : List Thread) : List Thread :=
  (settle program before after place (3 * program.size + 4) ∅ [] threads).reverse

/-- The thread behind a character, if its instruction takes it. -/
def Thread.step? (program : Array Instruction) (c : Char) (t : Thread) : Option Thread :=
  let takes :=
    match program[t.address]? with
    | some (.char c') => c == c'
    | some (.set s) => s.contains c
    | _ => false
  if takes then some { t with address := t.address + 1 } else none

/-- The match that a thread at the end stands for. -/
def ended? (program : Array Instruction) (place : Nat) (threads : List Thread) : Option Match :=
  (threads.find? fun t => program.size ≤ t.address).map fun t => ⟨t.start, place, t.marks⟩

/-- The preferred match of threads on the text from `place` on, or else of one that starts there;
`best` is the match so far. -/
def findWith? (program : Array Instruction) (best : Option Match) (before : Option Char)
    (place : Nat) (threads : List Thread) (text : List Char) : Option Match :=
  let threads := if best.isNone then threads ++ [⟨0, place, []⟩] else threads
  let waiting := live program before text.head? place threads
  let best := (ended? program place waiting).or best
  match text with
  | [] => best
  | c :: rest =>
    match waiting.filterMap (·.step? program c), best with
    | [], some m => some m
    | moved, best => findWith? program best (some c) (place + 1) moved rest

/-- The preferred match at the first place from here on that has one. -/
def findFrom? (program : Array Instruction) (before : Option Char) (place : Nat)
    (text : List Char) : Option Match :=
  findWith? program none before place [] text

/-- The matches from here on; `last` is the end of the match before.  Each step moves on or makes
this place the end of a match, so two steps per character are enough `fuel`. -/
def matchesFrom (program : Array Instruction) :
    (fuel : Nat) → (last : Option Nat) → (before : Option Char) → (place : Nat) → List Char →
      List Match
  | 0, _, _, _, _ => []
  | fuel + 1, last, before, place, text =>
    match findFrom? program before place text with
    | none => []
    | some m =>
      if m.start = m.finish ∧ last = some m.finish then
        match text with
        | [] => []
        | c :: rest => matchesFrom program fuel last (some c) (place + 1) rest
      else
        let passed := m.finish - place
        let before := if passed = 0 then before else text[passed - 1]?
        m :: matchesFrom program fuel (some m.finish) before m.finish (text.drop passed)

def allMatches (program : Array Instruction) (text : List Char) : List Match :=
  matchesFrom program (2 * text.length + 2) none none 0 text

/-- What a match as a whole covers. -/
def Match.span (m : Match) : Span := ⟨m.start, m.finish - m.start⟩

/-- What a group covers in its last round, if it took part in the match. -/
def Match.group? (m : Match) (number : Nat) : Option Span := do
  let start ← m.marks.lookup (.opens number)
  let finish ← m.marks.lookup (.closes number)
  return ⟨start, finish - start⟩

end Renumber.Pattern
