import Renumber.Report.Walk

/-!
# Counting what a report shows
-/

namespace Renumber

/-! ## Algorithm -/

structure Stats where
  total : Nat := 0
  unique : Nat := 0
  groups : Nat := 0
  collision : Nat := 0
  dead : Nat := 0
  deriving DecidableEq

def Stats.count (s : Stats) : ReportEvent → Stats
  | .direction _ total => { s with total := s.total + total }
  | .unique _ => { s with unique := s.unique + 1 }
  | .group _ _ => { s with groups := s.groups + 1 }
  | .collision _ _ => { s with collision := s.collision + 1 }
  | .dead _ => { s with dead := s.dead + 1 }
  | _ => s

def countEvent (event : ReportEvent) : StateM Stats Unit := modify (·.count event)

def Revision.stats (r : Revision) : Stats := ((walkRevision countEvent r).run {}).2

end Renumber
