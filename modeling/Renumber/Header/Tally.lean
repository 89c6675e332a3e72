import Renumber.Header.Line

/-!
# Counting what became of the lines

Tokens that are no ids or are unknown to the previous build do not count as tried.
-/

namespace Renumber

/-! ## Algorithm -/

structure Tally where
  lines : Nat := 0
  dropped : Nat := 0
  tried : Nat := 0
  matched : Nat := 0
  notIds : Nat := 0
  unknown : Nat := 0
  unmatched : Nat := 0
  deriving DecidableEq

namespace Tally

def countFate (t : Tally) (fate : TokenFate) : Tally :=
  let t := if fate.isTried then { t with tried := t.tried + 1 } else t
  match fate with
  | .notAnId _ => { t with notIds := t.notIds + 1 }
  | .unknown _ => { t with unknown := t.unknown + 1 }
  | .unmatched _ => { t with unmatched := t.unmatched + 1 }
  | .matched _ _ => { t with matched := t.matched + 1 }

/-- Counts one more line. -/
def countLine (t : Tally) (change : LineChange) : Tally :=
  let t := { t with lines := t.lines + 1 }
  match change with
  | .dropped => { t with dropped := t.dropped + 1 }
  | .kept _ => t
  | .renumbered _ fate => t.countFate fate

def add (t u : Tally) : Tally where
  lines := t.lines + u.lines
  dropped := t.dropped + u.dropped
  tried := t.tried + u.tried
  matched := t.matched + u.matched
  notIds := t.notIds + u.notIds
  unknown := t.unknown + u.unknown
  unmatched := t.unmatched + u.unmatched

instance : Add Tally := ⟨add⟩

/-- The matched out of the tried tokens. -/
def text (t : Tally) : String := s!"{t.matched}/{t.tried}"

end Tally

end Renumber
