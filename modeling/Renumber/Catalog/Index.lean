import Renumber.Catalog.Basic

/-!
# The index of a catalog by fingerprint

One pass over the catalog in id order sets the dead messages aside and files every other message
under its fingerprint.  A fingerprint with one message is unique, one with several is a collision
group.  Dead, unique and colliding messages are the whole catalog, each message once.
-/

namespace Renumber

/-! ## Algorithm -/

structure Index where
  direction : Direction
  /-- The live messages by fingerprint; fingerprints in the order of their first message. -/
  buckets : List (String × List Message) := []
  live : List Message := []
  dead : List Message := []

namespace Index

/-- Files a message at the end of its fingerprint's bucket, which is opened if there is none. -/
def fileUnder (m : Message) : List (String × List Message) → List (String × List Message)
  | [] => [(m.fingerprint, [m])]
  | (fingerprint, group) :: rest =>
    if fingerprint = m.fingerprint then (fingerprint, group ++ [m]) :: rest
    else (fingerprint, group) :: fileUnder m rest

def add (index : Index) (m : Message) : Index :=
  if m.isDead then { index with dead := index.dead ++ [m] }
  else { index with buckets := fileUnder m index.buckets, live := index.live ++ [m] }

def ofCatalog (c : Catalog) : Index := c.messages.foldl add { direction := c.direction }

/-- The live messages with this fingerprint, ascending by id. -/
def candidates (index : Index) (fingerprint : String) : List Message :=
  (index.buckets.lookup fingerprint).getD []

def isShared (index : Index) (fingerprint : String) : Bool :=
  1 < (index.candidates fingerprint).length

/-- The fingerprints that several live messages share, with these messages. -/
def collisions (index : Index) : List (String × List Message) :=
  index.buckets.filter fun (_, group) => 1 < group.length

def unique (index : Index) : List Message :=
  index.live.filter fun m => !index.isShared m.fingerprint

def bucketCount (index : Index) : Nat := index.buckets.length

end Index

def Catalog.index (c : Catalog) : Index := Index.ofCatalog c

end Renumber
