import Uplink.Modem.Record
import Uplink.Ticket
/-!
# Tracked modems

The modems that the telephony daemon has announced, with the SIM data of those whose SIM manager
is attached. Every attachment has a generation of its own, and the reply to a SIM fetch is
accepted only for the attachment that asked for it. The number of SIMs present and the credentials
waited for are kept up to date with each change and are never counted anew.
-/

namespace Uplink

open Wire (Value Properties)

/-- What has to follow a change of a modem. -/
inductive ModemChange where
  | untracked
  | applied
  | attachSim (ticket : Ticket)
  | detachSim (path : ObjectPath)
deriving DecidableEq

/-- Totals over all modems. -/
structure SimTotals where
  /-- How many modems hold a SIM. -/
  present : Nat := 0
  /-- The modems that wait for a PIN. -/
  requiredPins : SortedMap ObjectPath CredentialKind := ∅
  /-- The modems that wait for a PUK. -/
  lockedPuks : SortedMap ObjectPath CredentialKind := ∅
deriving DecidableEq

namespace SimTotals

instance : Inhabited SimTotals := ⟨{}⟩

def countPresent (totals : SimTotals) (before after : Bool) : SimTotals :=
  if before = after then totals
  else if after then { totals with present := totals.present + 1 }
  else { totals with present := totals.present - 1 }

/-- Notes what the modem at this path waits for. -/
def setRequired (totals : SimTotals) (path : ObjectPath) (required : Option CredentialKind) :
    SimTotals :=
  { totals with
    requiredPins := totals.requiredPins.assign path (required.filter fun kind ↦ !kind.isPuk)
    lockedPuks := totals.lockedPuks.assign path (required.filter CredentialKind.isPuk) }

def kindsToJson (kinds : SortedMap ObjectPath CredentialKind) : Json :=
  .object (kinds.toList.map fun entry ↦ (entry.1.text, .text entry.2.name))

/-- The members by which records list the totals. -/
def members (totals : SimTotals) : List (String × Json) :=
  [("present_sims", .nat totals.present),
    ("required_pins", kindsToJson totals.requiredPins),
    ("locked_puks", kindsToJson totals.lockedPuks)]

end SimTotals

/-- A modem together with the totals to which it contributes. -/
structure Counted where
  modem : Modem
  totals : SimTotals

namespace Counted

def setPresent (counted : Counted) (present : Bool) : Counted where
  modem := { counted.modem with simPresent := present }
  totals := counted.totals.countPresent counted.modem.simPresent present

def setRequired (counted : Counted) (required : Option CredentialKind) : Counted where
  modem := { counted.modem with
    required
    lock := counted.modem.lock.sync required counted.modem.retries }
  totals := counted.totals.setRequired counted.modem.path required

def setRetries (counted : Counted) (retries : Retries) : Counted where
  modem := { counted.modem with
    retries
    lock := counted.modem.lock.sync counted.modem.required retries }
  totals := counted.totals

def setIdentity (counted : Counted) (identity : Option String) : Counted :=
  { counted with modem := { counted.modem with subscriberIdentity := identity } }

/-- Forgets everything that came from the SIM. -/
def clearSim (counted : Counted) : Counted :=
  let counted := counted.setPresent false
  let counted : Counted :=
    { counted with modem := { counted.modem with retries := ∅, subscriberIdentity := none } }
  let counted := counted.setRequired none
  { counted with modem := { counted.modem with lock := {} } }

/-- Takes a full report of the SIM; what the report leaves out is at rest. -/
def report (counted : Counted) (properties : Properties) : Counted :=
  let counted := counted.setPresent ((properties.get? "Present" >>= Value.bool?).getD false)
  let counted := counted.setIdentity (properties.get? "SubscriberIdentity" >>= Value.nonemptyText?)
  let counted := counted.setRetries ((properties.get? "Retries").elim ∅ Retries.ofValue)
  counted.setRequired (properties.get? "PinRequired" >>= CredentialKind.required?)

/-- Takes one property of the SIM, if it is one that matters here. -/
def setProperty? (counted : Counted) (key : String) (value : Value) : Option Counted :=
  match key with
  | "Present" => some (counted.setPresent (value.bool?.getD false))
  | "PinRequired" => some (counted.setRequired (CredentialKind.required? value))
  | "Retries" => some (counted.setRetries (.ofValue value))
  | "SubscriberIdentity" => some (counted.setIdentity value.nonemptyText?)
  | _ => none

end Counted

namespace ModemRoster

/-- A tracked modem and the generation of its latest SIM attachment. -/
structure Entry where
  modem : Modem
  simGeneration : Nat := 0
deriving DecidableEq

end ModemRoster

structure ModemRoster where
  entries : SortedMap ObjectPath ModemRoster.Entry := ∅
  totals : SimTotals := {}
  /-- The generation given out last. -/
  generation : Nat := 0
deriving DecidableEq

namespace ModemRoster

instance : Inhabited ModemRoster := ⟨{}⟩

def find? (roster : ModemRoster) (path : String) : Option Modem :=
  (roster.entries.find? path).map (·.modem)

def modems (roster : ModemRoster) : List Modem := roster.entries.values.map (·.modem)

def size (roster : ModemRoster) : Nat := roster.entries.size

def contains (roster : ModemRoster) (path : ObjectPath) : Bool := roster.entries.contains path

def retriesFor (roster : ModemRoster) (path : String) (kind : CredentialKind) : Option UInt8 :=
  roster.find? path >>= (·.retriesFor kind)

def put (roster : ModemRoster) (entry : Entry) : ModemRoster :=
  { roster with entries := roster.entries.insert entry.modem.path entry }

/-- Puts a modem back together with the totals that go with it. -/
def putCounted (roster : ModemRoster) (entry : Entry) (counted : Counted) : ModemRoster :=
  { roster with
    entries := roster.entries.insert entry.modem.path { entry with modem := counted.modem }
    totals := counted.totals }

def counted (roster : ModemRoster) (entry : Entry) : Counted := ⟨entry.modem, roster.totals⟩

/-- Attaches or detaches the SIM manager where that is a change; a generation is used up anyway. -/
def setSimManager (roster : ModemRoster) (entry : Entry) (attached : Bool) :
    ModemRoster × ModemChange :=
  let generation := roster.generation + 1
  let roster := { roster with generation }
  let path := entry.modem.path
  match entry.modem.hasSimManager, attached with
  | false, true =>
    let modem := { entry.modem with hasSimManager := true }
    (roster.put { modem, simGeneration := generation }, .attachSim ⟨path, generation⟩)
  | true, false =>
    let entry := { entry with modem := { entry.modem with hasSimManager := false } }
    (roster.putCounted entry (roster.counted entry).clearSim, .detachSim path)
  | _, _ => (roster.put entry, .applied)

/-- Takes one property of a tracked modem; a property that does not matter here is ignored. -/
def setProperty (roster : ModemRoster) (entry : Entry) (key : String) (value : Value) :
    ModemRoster × ModemChange :=
  let modem := entry.modem
  let keep (modem : Modem) : ModemRoster × ModemChange :=
    (roster.put { entry with modem }, .applied)
  match key with
  | "Name" => keep { modem with name := value.nonemptyText? }
  | "Manufacturer" => keep { modem with manufacturer := value.nonemptyText? }
  | "Model" => keep { modem with model := value.nonemptyText? }
  | "Powered" => keep { modem with powered := value.bool?.getD false }
  | "Online" => keep { modem with online := value.bool?.getD false }
  | "Interfaces" =>
    let interfaces := value.texts?.getD []
    let modem := { modem with
      interfaces
      hasConnectionManager := interfaces.contains Modem.connectionManagerInterface }
    roster.setSimManager { entry with modem } (interfaces.contains Modem.simManagerInterface)
  | _ => (roster, .applied)

/-- Takes one property of a modem, if it is tracked. -/
def change (roster : ModemRoster) (path : ObjectPath) (key : String) (value : Value) :
    ModemRoster × ModemChange :=
  match roster.entries.get? path with
  | none => (roster, .untracked)
  | some entry => roster.setProperty entry key value

/-- The later of two changes that has to be followed by something. -/
def laterChange (earlier later : ModemChange) : ModemChange :=
  match later with
  | .untracked | .applied => earlier
  | change => change

/-- Takes the properties of a modem one by one. -/
def merge (roster : ModemRoster) (path : ObjectPath) (properties : Properties) :
    ModemRoster × ModemChange :=
  properties.entries.foldl
    (fun (roster, earlier) (key, value) ↦
      let (roster, later) := roster.change path key value
      (roster, laterChange earlier later))
    (roster, .applied)

/-- Tracks a modem; one that is tracked already is merged. -/
def add (roster : ModemRoster) (path : ObjectPath) (properties : Properties) :
    ModemRoster × ModemChange :=
  let roster := if roster.contains path then roster else roster.put { modem := { path } }
  roster.merge path properties

/-- Merges a report about a modem, unless it is no longer tracked. -/
def refresh (roster : ModemRoster) (path : ObjectPath) (properties : Properties) :
    ModemRoster × ModemChange :=
  if roster.contains path then roster.add path properties else (roster, .untracked)

/-- Forgets a modem and what it contributed to the totals; `none` if it is not tracked. -/
def remove? (roster : ModemRoster) (path : ObjectPath) : Option ModemRoster :=
  (roster.entries.get? path).map fun entry ↦
    { roster with
      entries := roster.entries.erase path
      totals := (roster.counted entry).clearSim.totals }

/-- The tracked modem at this path whose SIM manager is attached. -/
def attached? (roster : ModemRoster) (path : ObjectPath) : Option Entry :=
  (roster.entries.get? path).filter fun entry ↦ entry.modem.hasSimManager

/-- Takes the reply to a SIM fetch; `none` if the ticket is not that of the current attachment. -/
def completeFetch? (roster : ModemRoster) (ticket : Ticket) (properties : Properties) :
    Option ModemRoster := do
  let entry ← roster.attached? ticket.path
  guard (entry.simGeneration = ticket.generation)
  some (roster.putCounted entry ((roster.counted entry).report properties))

/-- Takes one property of a SIM; `none` if that is nothing to note. -/
def changeSim? (roster : ModemRoster) (path : ObjectPath) (key : String) (value : Value) :
    Option ModemRoster := do
  let entry ← roster.attached? path
  let counted ← (roster.counted entry).setProperty? key value
  some (roster.putCounted entry counted)

/-- The modem at this path, whose SIM manager has to be attached. -/
def simModem (roster : ModemRoster) (path : String) : Except Failure Entry :=
  match roster.entries.find? path with
  | none => .error (.unknownModem path)
  | some entry =>
    if entry.modem.hasSimManager then .ok entry else .error (.noSimManager path)

/-- Puts a modem back with its lock changed. -/
def setLock (roster : ModemRoster) (entry : Entry) (lock : SimLock) : ModemRoster :=
  roster.put { entry with modem := { entry.modem with lock } }

/-- Prepares the entry of the PIN that the SIM waits for. -/
def enter (roster : ModemRoster) (path pin : String) :
    Except Failure (ModemRoster × SimRequest) := do
  let entry ← roster.simModem path
  let (lock, request) ← entry.modem.lock.enter pin
  .ok (roster.setLock entry lock, request)

/-- Takes the PUK that the SIM waits for. -/
def submitPuk (roster : ModemRoster) (path puk : String) : Except Failure ModemRoster := do
  let entry ← roster.simModem path
  let lock ← entry.modem.lock.submitPuk puk
  .ok (roster.setLock entry lock)

/-- Prepares the reset of a PIN from the PUK that is held. -/
def reset (roster : ModemRoster) (path newPin : String) : Except Failure SimRequest := do
  let entry ← roster.simModem path
  entry.modem.lock.reset newPin

/-- Prepares the change of a PIN. -/
def changePin (roster : ModemRoster) (path : String) (kind : CredentialKind)
    (oldPin newPin : String) : Except Failure (ModemRoster × SimRequest) := do
  let entry ← roster.simModem path
  let (lock, request) ← entry.modem.lock.change kind oldPin newPin
  .ok (roster.setLock entry lock, request)

/-- Takes the outcome of a SIM call on the modem that is at this path now. -/
def complete (roster : ModemRoster) (path : String) (request : SimRequest) (outcome : Outcome) :
    ModemRoster :=
  match roster.entries.find? path with
  | none => roster
  | some entry => roster.setLock entry (entry.modem.lock.complete request outcome)

end ModemRoster

/-- Whose fault a finished SIM call was, if it failed. -/
def Outcome.fault? : Outcome → Option CredentialFault
  | .ok () => none
  | .error failure => some (.ofFailure failure)

end Uplink
