import Renumber.Catalog.Revision
import Renumber.Snapshot.Basic

/-!
# From snapshots to revisions and back

A snapshot is accepted if every entry has a direction and no two entries share direction and id.
Directions are checked first, in the order of the entries, then the outgoing and then the incoming
ids.  An empty parser counts as none.

A revision is stored with its outgoing messages first, each direction ascending by id.
-/

namespace Renumber

/-! ## Algorithm -/

def Direction.number : Direction → Int32
  | .outgoing => 1
  | .incoming => 2

def SnapshotEntry.direction? (e : SnapshotEntry) : Except SnapshotFault Direction :=
  if e.direction = 0 then .error (.noDirection e.id)
  else if e.direction = 1 then .ok .outgoing
  else if e.direction = 2 then .ok .incoming
  else .error (.unknownDirection e.id e.direction)

def SnapshotEntry.message? (e : SnapshotEntry) : Except SnapshotFault Message :=
  e.direction?.map fun direction =>
    { id := e.id
      fingerprint := e.fingerprint
      direction
      references := e.references
      signature := e.signature
      name := e.name
      parser := e.parser.filter (· ≠ "") }

def SnapshotEntry.ofMessage (r : Message) : SnapshotEntry where
  id := r.id
  fingerprint := r.fingerprint
  direction := r.direction.number
  references := r.references
  signature := r.signature
  name := r.name
  parser := r.parser

namespace Revision

def ofSnapshot (s : Snapshot) : Except Error Revision :=
  match s.entries.mapM SnapshotEntry.message? with
  | .error fault => .error (.invalidSnapshot fault)
  | .ok messages => do
    let outgoing ← Catalog.ofMessages .outgoing (messages.filter (·.direction = .outgoing))
    let incoming ← Catalog.ofMessages .incoming (messages.filter (·.direction = .incoming))
    ofCatalogs s.label outgoing incoming

/-- Decodes and checks the bytes of a snapshot. -/
def ofBytes (bytes : List UInt8) : Except Error Revision :=
  Snapshot.ofBytes? bytes >>= ofSnapshot

end Revision

def Snapshot.ofRevision (r : Revision) : Snapshot where
  label := r.label
  entries := Direction.all.flatMap fun d => (r.catalog d).messages.map SnapshotEntry.ofMessage

end Renumber
