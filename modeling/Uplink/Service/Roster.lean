import Uplink.Service.Property
import Uplink.Ticket
/-!
# Tracked services

The services of the manager's latest list, in its order. A new service is provisional until the
reply to its first fetch; a change of what the service asks for calls for another fetch. Each
fetch has a ticket, and only the reply to the latest ticket of a service is accepted. Signals that
come in while a repeated fetch is under way are kept and applied again on top of its reply,
because the reply may be older than they are.
-/

namespace Uplink

open Wire (Value Properties)

/-- What a new list of services changed. -/
structure Reconciliation where
  /-- One fetch for each service that is new. -/
  added : List Ticket := []
  removed : List ObjectPath := []
  /-- Whether a service that stayed has another place. -/
  reordered : Bool := false
deriving DecidableEq

namespace Reconciliation

def isEmpty (outcome : Reconciliation) : Bool :=
  outcome.added.isEmpty && outcome.removed.isEmpty && !outcome.reordered

end Reconciliation

/-- What has to follow a change of a service. -/
inductive ServiceChange where
  | untracked
  | applied
  | refetch (ticket : Ticket)
  /-- A VPN went down, and the record of its provider is to be removed. -/
  | removeProvider (path : ObjectPath)
deriving DecidableEq

namespace ServiceRoster

structure Entry where
  service : Service
  /-- The generation of the latest ticket. -/
  generation : Nat
  /-- While a repeated fetch is under way, the latest change of each property since it began. -/
  replay : Option (List (String × Value)) := none

namespace Entry

def path (entry : Entry) : ObjectPath := entry.service.path

/-- Keeps the change for the reply that is under way, behind all others. -/
def record (entry : Entry) (key : String) (value : Value) : Entry :=
  { entry with
    replay := entry.replay.map fun changes ↦
      changes.filter (fun change ↦ change.1 ≠ key) ++ [(key, value)] }

def setProperty (entry : Entry) (key : String) (value : Value) : Entry :=
  { entry with service := entry.service.setProperty key value }

/-- The service as the reply reports it. A passphrase that is known stays unless the reply has one
or asks for one, and the changes since the fetch began are applied again. -/
def fetched (entry : Entry) (properties : Properties) : Service :=
  let reported :=
    (Service.provisional entry.path entry.service.index).setProperties properties.entries
  let kept :=
    if reported.passphrase.isNone && !reported.passphraseRequired then
      { reported with passphrase := entry.service.passphrase }
    else reported
  { kept.setProperties (entry.replay.getD []) with populated := true }

end Entry

end ServiceRoster

structure ServiceRoster where
  entries : List ServiceRoster.Entry := []
  /-- The generation given out last. -/
  generation : Nat := 0
  /-- The service that was reported as connected last. -/
  lastActive : Option ObjectPath := none

namespace ServiceRoster

instance : Inhabited ServiceRoster := ⟨{}⟩

def get? (roster : ServiceRoster) (path : ObjectPath) : Option Entry :=
  roster.entries.find? fun entry ↦ entry.path = path

def services (roster : ServiceRoster) : List Service := roster.entries.map (·.service)

def paths (roster : ServiceRoster) : List ObjectPath := roster.entries.map (·.path)

def size (roster : ServiceRoster) : Nat := roster.entries.length

/-- Puts an entry in the place of the one with its path. -/
def put (roster : ServiceRoster) (entry : Entry) : ServiceRoster :=
  { roster with
    entries := roster.entries.map fun other ↦ if other.path = entry.path then entry else other }

/-- The entries for a list of paths from this place on, and the tickets of those that are new. -/
def place (roster : ServiceRoster) : Nat → Nat → List ObjectPath → List Entry × List Ticket
  | _, _, [] => ([], [])
  | index, generation, path :: rest =>
    match roster.get? path with
    | some entry =>
      let (entries, tickets) := roster.place (index + 1) generation rest
      ({ entry with service := { entry.service with index } } :: entries, tickets)
    | none =>
      let (entries, tickets) := roster.place (index + 1) (generation + 1) rest
      ({ service := .provisional path index, generation := generation + 1 } :: entries,
        ⟨path, generation + 1⟩ :: tickets)

/-- Whether a tracked service has another place in this list. -/
def moves (roster : ServiceRoster) (order : List ObjectPath) : Bool :=
  order.zipIdx.any fun (path, index) ↦
    (roster.get? path).any fun entry ↦ entry.service.index ≠ index

/-- Follows a new list of services; a path that is listed twice keeps its first place. -/
def reconcile (roster : ServiceRoster) (listed : List ObjectPath) :
    ServiceRoster × Reconciliation :=
  let order := listed.eraseDups
  let removed := roster.paths.filter fun path ↦ !order.contains path
  let (entries, added) := roster.place 0 roster.generation order
  ({ entries
     generation := roster.generation + added.length
     lastActive := roster.lastActive.filter fun path ↦ !removed.contains path },
    { added, removed, reordered := roster.moves order })

/-- Takes the reply to a fetch; `none` if the ticket is not the latest of its service. -/
def completeFetch? (roster : ServiceRoster) (ticket : Ticket) (properties : Properties) :
    Option ServiceRoster := do
  let entry ← roster.get? ticket.path
  guard (entry.generation = ticket.generation)
  let service := entry.fetched properties
  let roster := roster.put { entry with service, replay := none }
  some (if service.isConnected then { roster with lastActive := some ticket.path } else roster)

/-- Whether a change of this property makes all others doubtful. -/
def needsRefetch (key : String) : Bool := key == "PassphraseRequired" || key == "SetupRequired"

/-- Takes a change after which the service has to be fetched again. -/
def invalidate (roster : ServiceRoster) (entry : Entry) (key : String) (value : Value) :
    ServiceRoster × Ticket :=
  let generation := roster.generation + 1
  let service := entry.service.setProperty key value
  let service :=
    if key = "PassphraseRequired" ∧ service.passphraseRequired then
      { service with passphrase := none }
    else service
  ({ roster.put { service, generation, replay := some [] } with generation },
    ⟨entry.path, generation⟩)

/-- Takes a change of one property, if the service is tracked. -/
def change (roster : ServiceRoster) (path : ObjectPath) (key : String) (value : Value) :
    ServiceRoster × ServiceChange :=
  match roster.get? path with
  | none => (roster, .untracked)
  | some entry =>
    if needsRefetch key then
      let (roster, ticket) := roster.invalidate entry key value
      (roster, .refetch ticket)
    else
      let changed := (entry.record key value).setProperty key value
      let roster := roster.put changed
      if key = "State" then
        let roster :=
          if changed.service.isConnected then { roster with lastActive := some path } else roster
        if changed.service.isVpn && changed.service.state ≠ entry.service.state
            && changed.service.state.isDown then
          (roster, .removeProvider path)
        else (roster, .applied)
      else (roster, .applied)

def setPassphrase (roster : ServiceRoster) (entry : Entry) (passphrase : Option String) :
    ServiceRoster :=
  roster.put { entry with service := { entry.service with passphrase } }

/-- Notes a passphrase that was just submitted; `none` if the service is not tracked. -/
def echoPassphrase? (roster : ServiceRoster) (path : ObjectPath) (passphrase : String) :
    Option ServiceRoster :=
  (roster.get? path).map fun entry ↦ roster.setPassphrase entry (some passphrase)

/-- Drops the passphrase of a service; `none` if there is nothing to drop. -/
def forgetPassphrase? (roster : ServiceRoster) (path : ObjectPath) : Option ServiceRoster := do
  let entry ← roster.get? path
  guard entry.service.passphrase.isSome
  some (roster.setPassphrase entry none)

end ServiceRoster

end Uplink
