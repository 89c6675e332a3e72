import Renumber.Catalog.Index
import Renumber.Catalog.Revision

/-!
# Walking a revision

A report of a catalog has three parts: the unique messages, the collision groups if there are any,
and the dead messages.  A revision is reported with its outgoing messages first.  What becomes of an
event is up to the writer, an action of some monad; if that fails, the walk is over.
-/

namespace Renumber

/-! ## Algorithm -/

inductive ReportEvent where
  | revision (label : String)
  /-- Opens the report of one direction, with the number of all its messages. -/
  | direction (d : Direction) (total : Nat)
  | unique (message : Message)
  /-- Opens the collision groups of a direction. -/
  | collisions (d : Direction)
  | group (fingerprint : String) (size : Nat)
  | collision (message : Message) (size : Nat)
  /-- Opens the dead messages of a direction. -/
  | deadSection (d : Direction)
  | dead (message : Message)
  deriving DecidableEq

variable {m : Type → Type} [Monad m]

def walkGroup (write : ReportEvent → m Unit) (fingerprint : String) (group : List Message) :
    m Unit := do
  write (.group fingerprint group.length)
  group.forM fun message => write (.collision message group.length)

def walkCollisions (write : ReportEvent → m Unit) (d : Direction) :
    List (String × List Message) → m Unit
  | [] => pure ()
  | groups@(_ :: _) => do
    write (.collisions d)
    groups.forM fun (fingerprint, group) => walkGroup write fingerprint group

def walkCatalog (write : ReportEvent → m Unit) (c : Catalog) (index : Index) : m Unit := do
  write (.direction c.direction c.size)
  index.unique.forM fun message => write (.unique message)
  walkCollisions write c.direction index.collisions
  write (.deadSection c.direction)
  index.dead.forM fun message => write (.dead message)

def walkRevision (write : ReportEvent → m Unit) (r : Revision) : m Unit := do
  write (.revision r.label)
  Direction.all.forM fun d => walkCatalog write (r.catalog d) (r.catalog d).index

end Renumber
