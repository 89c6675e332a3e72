import Renumber.Message
import Renumber.Resolution.Shape

/-!
# Choosing among messages with one fingerprint

A tie-break picks the counterpart of a message of the previous build among the candidates of the
current one.

`TieBreak.lowest` takes the first candidate of lowest id.  `TieBreak.closest` takes the closest
candidate: first the same number of parameters, then more parameter types in common, then the same
name, then the same parser, then the nearer reference count, then the lower id.  Among candidates
equal in all of these it takes the last.
-/

namespace Renumber

/-! ## Algorithm -/

/-- Picks one of the candidates for a message of the previous build. -/
abbrev TieBreak := Message → List Message → Option Message

/-- What a candidate has in common with the message it is to replace. -/
structure Similarity where
  arityAgrees : Bool
  agreeingTypes : Nat
  nameAgrees : Bool
  parserAgrees : Bool
  usageGap : Nat
  deriving DecidableEq

namespace Similarity

def between (previous candidate : Message) : Similarity where
  arityAgrees :=
    match Shape.ofSignature? previous.signature, Shape.ofSignature? candidate.signature with
    | some s, some t => s.arity == t.arity
    | _, _ => false
  agreeingTypes :=
    match Shape.ofSignature? previous.signature, Shape.ofSignature? candidate.signature with
    | some s, some t => s.agreeingTypes t
    | _, _ => 0
  nameAgrees := previous.name ≠ "" && previous.name == candidate.name
  parserAgrees := previous.parser.isSome && previous.parser == candidate.parser
  usageGap :=
    max previous.references.toNat candidate.references.toNat -
      min previous.references.toNat candidate.references.toNat

/-- A greater similarity is a closer match. -/
def compare (s t : Similarity) : Ordering :=
  (Ord.compare s.arityAgrees t.arityAgrees).then <|
  (Ord.compare s.agreeingTypes t.agreeingTypes).then <|
  (Ord.compare s.nameAgrees t.nameAgrees).then <|
  (Ord.compare s.parserAgrees t.parserAgrees).then <|
  Ord.compare t.usageGap s.usageGap

end Similarity

namespace TieBreak

/-- The last of the greatest members of a list. -/
def lastGreatest? {α : Type} (compare : α → α → Ordering) : List α → Option α
  | [] => none
  | a :: rest => some (rest.foldl (fun best b => if compare best b = .gt then best else b) a)

/-- The first of the least members of a list. -/
def firstLeast? {α : Type} (compare : α → α → Ordering) : List α → Option α
  | [] => none
  | a :: rest => some (rest.foldl (fun best b => if compare best b = .gt then b else best) a)

/-- Compares two candidates for a message of the previous build; the closer one is greater. -/
def closeness (previous a b : Message) : Ordering :=
  ((Similarity.between previous a).compare (Similarity.between previous b)).then <|
    compare b.id a.id

def closest : TieBreak := fun previous candidates =>
  lastGreatest? (closeness previous) candidates

def lowest : TieBreak := fun _ candidates => firstLeast? (fun a b => compare a.id b.id) candidates

end TieBreak

end Renumber
