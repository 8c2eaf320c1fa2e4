import Uplink.Json
import Uplink.ObjectPath
/-!
# Fetch tickets

What a reply has to show to be accepted: which object was fetched, and which of its fetches this is.
Generations are counted upward and never given out twice, so a ticket stands for one fetch.
-/

namespace Uplink

/-- One fetch of the properties of one object. -/
structure Ticket where
  path : ObjectPath
  generation : Nat
deriving DecidableEq

namespace Ticket

def toJson (ticket : Ticket) : Json :=
  .object [("path", .text ticket.path.text), ("generation", .nat ticket.generation)]

end Ticket

end Uplink
