import Renumber.Catalog.Basic

/-!
# Revisions

A labelled client build: the catalog of its outgoing and that of its incoming messages.
-/

namespace Renumber

structure Revision where
  label : String
  outgoing : Catalog
  incoming : Catalog
  outgoing_direction : outgoing.direction = .outgoing
  incoming_direction : incoming.direction = .incoming

namespace Revision

def ofCatalogs (label : String) (outgoing incoming : Catalog) : Except Error Revision :=
  if ho : outgoing.direction = .outgoing then
    if hi : incoming.direction = .incoming then .ok ⟨label, outgoing, incoming, ho, hi⟩
    else .error (.invalidSnapshot .swappedIncoming)
  else .error (.invalidSnapshot .swappedOutgoing)

def catalog (r : Revision) : Direction → Catalog
  | .outgoing => r.outgoing
  | .incoming => r.incoming

theorem catalog_direction (r : Revision) (d : Direction) : (r.catalog d).direction = d := by
  cases d
  · exact r.outgoing_direction
  · exact r.incoming_direction

end Revision

end Renumber
