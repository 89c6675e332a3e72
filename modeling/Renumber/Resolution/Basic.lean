import Renumber.Catalog.Index
import Renumber.Resolution.TieBreak

/-!
# Resolving an id of the previous build

The id is looked up in the previous catalog, and the fingerprint found there in the index of the
current one.  A single candidate is the answer; among several the tie-break decides.
-/

namespace Renumber

/-! ## Algorithm -/

inductive Resolution where
  | resolved (message : Message)
  /-- The previous catalog has no message of this id. -/
  | unknownId
  /-- No live message of the current catalog has the fingerprint. -/
  | noCandidate
  deriving DecidableEq

def Resolution.message? : Resolution → Option Message
  | .resolved message => some message
  | _ => none

/-- A way to find the current message for an id of the previous build. -/
abbrev Resolver := MessageId → Resolution

/-- The candidate for a message of the previous build. -/
def chooseCandidate (tieBreak : TieBreak) (previous : Message) : List Message → Option Message
  | [] => none
  | [only] => some only
  | many => tieBreak previous many

def resolve (tieBreak : TieBreak) (previous : Catalog) (current : Index) : Resolver := fun id =>
  match previous.get? id with
  | none => .unknownId
  | some message =>
    match chooseCandidate tieBreak message (current.candidates message.fingerprint) with
    | none => .noCandidate
    | some chosen => .resolved chosen

end Renumber
