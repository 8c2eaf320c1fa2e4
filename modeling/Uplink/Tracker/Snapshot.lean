import Uplink.Modem.Roster
import Uplink.Service.Roster
import Uplink.Technologies
/-!
# Snapshots

A consistent view of everything that is tracked, as it is published after each change: the state of
the network manager, the services in its order, the modems in the order of their paths, and the
totals over the modems.
-/

namespace Uplink

open Wire (Value)

/-- What the network manager says of itself. -/
structure ManagerState where
  /-- Whether its properties were fetched. -/
  available : Bool := false
  offlineMode : Bool := false
  state : Option String := none
  availableTechnologies : Technologies := ∅
  enabledTechnologies : Technologies := ∅
  connectedTechnologies : Technologies := ∅
deriving DecidableEq

namespace ManagerState

def technologies (value : Value) : Technologies := .ofNames (value.texts?.getD [])

/-- Takes one property other than the list of services; `none` if it is not one that matters. -/
def setProperty? (manager : ManagerState) (key : String) (value : Value) : Option ManagerState :=
  match key with
  | "OfflineMode" => some { manager with offlineMode := value.bool?.getD false }
  | "State" => some { manager with state := value.nonemptyText? }
  | "AvailableTechnologies" => some { manager with availableTechnologies := technologies value }
  | "EnabledTechnologies" => some { manager with enabledTechnologies := technologies value }
  | "ConnectedTechnologies" => some { manager with connectedTechnologies := technologies value }
  | _ => none

def toJson (manager : ManagerState) : Json :=
  .object [("available", .bool manager.available),
    ("offline_mode", .bool manager.offlineMode),
    ("state", .ofOption .text manager.state),
    ("available_technologies", manager.availableTechnologies.toJson),
    ("enabled_technologies", manager.enabledTechnologies.toJson),
    ("connected_technologies", manager.connectedTechnologies.toJson)]

end ManagerState

structure Snapshot where
  manager : ManagerState := {}
  services : List Service := []
  lastActive : Option ObjectPath := none
  modems : List Modem := []
  totals : SimTotals := {}
deriving DecidableEq

namespace Snapshot

instance : Inhabited Snapshot := ⟨{}⟩

def service? (snapshot : Snapshot) (path : String) : Option Service :=
  snapshot.services.find? fun service ↦ service.path.text == path

def modem? (snapshot : Snapshot) (path : String) : Option Modem :=
  snapshot.modems.find? fun modem ↦ modem.path.text == path

def toJson (snapshot : Snapshot) : Json :=
  .object <|
    [("manager", snapshot.manager.toJson),
      ("services", .list (snapshot.services.map Service.toJson)),
      ("last_active", .ofOption (fun path ↦ .text path.text) snapshot.lastActive),
      ("modems", .list (snapshot.modems.map Modem.toJson))] ++
    snapshot.totals.members

end Snapshot

end Uplink
