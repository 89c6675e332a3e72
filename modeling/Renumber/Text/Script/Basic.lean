/-!
# The form of scripts

A script as the tables of scripts list it.
-/

namespace Renumber.Text

/-! ## Algorithm -/

structure Script where
  /-- The name and the four-letter code, in small letters without blanks. -/
  names : List String
  /-- First and last code points of the runs of its characters, ascending. -/
  ranges : List (Nat × Nat)

end Renumber.Text
