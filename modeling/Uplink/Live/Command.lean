import Uplink.Cellular.Setup
import Uplink.Service.Request
import Uplink.Timeouts
import Uplink.Tracker.Event
import Uplink.Wire.Name
/-!
# Commands of the user

Everything a user can ask for, checked against the latest snapshot before any call is made: a
service has to be listed, a modem has to be known, and its contexts need a connection manager.
What is left to do is a dialogue with the daemons, or a command to the SIM, which the tracker
answers.
-/

namespace Uplink.Live

open Wire (Value Properties)
open Remote (Dialogue Call CallArgs Shape)

/-- What a command answers. -/
inductive Result where
  | done
  | path (path : ObjectPath)
  | retries (retries : Retries)
  | contexts (contexts : List CellularContext)
  | context (context : Option CellularContext)
  | properties (object : ObjectPath) (interface : String) (properties : Properties)
  | children (children : List (ObjectPath × Properties))

/-- An object named by the user, on whichever bus name and interface. -/
structure Target where
  destination : String
  path : String
  interface : String
  /-- How long a call to it may take, if not as long as usual. -/
  patience : Option Nat := none

inductive Command where
  | service (path : String) (request : ServiceRequest)
  | submitPassphrase (path passphrase : String)
  | forget (path : String)
  | setOfflineMode (enabled : Bool)
  | sim (command : SimCommand)
  | retries (modem : String)
  | setupContext (modem : String) (settings : ContextSettings)
  | contexts (modem : String)
  | internetContext (modem : String)
  | removeContext (modem context : String)
  | call (target : Target) (method : String) (args : CallArgs)
  | callForPath (target : Target) (method : String) (args : CallArgs)
  | listChildren (target : Target) (method : String)
  | getProperties (target : Target)

/-- What is left to do for a command after it was checked. -/
inductive Job where
  /-- A dialogue, after whose success the tracker is told of an event. -/
  | dialogue (dialogue : Dialogue Result) (announce : Option Event) (patience : Option Nat)
  | sim (command : SimCommand)

namespace Command

def managerInterface : String := "net.connman.Manager"

def parsePath (text : String) : Except Failure ObjectPath :=
  match ObjectPath.parse? text with
  | some path => .ok path
  | none => .error .invalidPath

/-- The service with this path, which has to be listed. -/
def listedService (snapshot : Snapshot) (path : String) : Except Failure ObjectPath :=
  match snapshot.service? path with
  | some listed => .ok listed.path
  | none => .error (.unknownService path)

/-- The modem with this path, which has to offer a connection manager. -/
def connectionManager (snapshot : Snapshot) (modem : String) : Except Failure String :=
  match snapshot.modem? modem with
  | none => .error (.unknownModem modem)
  | some modem =>
    if modem.hasConnectionManager then .ok modem.path.text
    else .error (.noConnectionManager modem.path.text)

/-- The object that the user named, if its names are well formed. -/
def reachable (target : Target) : Except Failure ObjectPath := do
  let path ← parsePath target.path
  if !Wire.Name.isBusName target.destination then .error (.bus "Invalid bus name")
  else if !Wire.Name.isInterface target.interface then .error (.bus "Invalid interface name")
  else .ok path

/-- One to three texts, or a path, or a property with its value, or nothing. -/
def isSupported : CallArgs → Bool
  | .texts texts => 1 ≤ texts.length && texts.length ≤ 3
  | _ => true

/-- A method that answers a path takes one text or nothing. -/
def isSupportedForPath : CallArgs → Bool
  | .none => true
  | .texts texts => texts.length == 1
  | _ => false

def unit (dialogue : Dialogue Unit) : Dialogue Result := do
  dialogue
  return .done

/-- A call that the user makes directly. -/
def direct (target : Target) (method : String) (args : CallArgs) (expects : Shape)
    (supported : Bool) (answer : ObjectPath → expects.Answer → Result) : Job :=
  .dialogue
    (match reachable target with
      | .error failure => .fail failure
      | .ok object =>
        if supported then
          Dialogue.call
            { object := object.text, interface := target.interface, method, args, expects }
            fun reply ↦ .done (reply.map (answer object))
        else .fail (.unsupportedArguments method))
    none target.patience

def plain (dialogue : Dialogue Result) : Job := .dialogue dialogue none none

/-- A request to a listed service, and what the tracker is told when it is done. -/
def serviceJob (snapshot : Snapshot) (path : String) (request : ServiceRequest)
    (announce : ObjectPath → Option Event) : Job :=
  match listedService snapshot path with
  | .error failure => plain (.fail failure)
  | .ok object =>
    .dialogue (.call (request.call object.text) fun answer ↦ .done (answer.map fun _ ↦ .done))
      (announce object) none

/-- What has to be done for a command, given the latest snapshot. -/
def job (snapshot : Snapshot) : Command → Job
  | service path request => serviceJob snapshot path request fun _ ↦ none
  | submitPassphrase path passphrase =>
    serviceJob snapshot path (.submitPassphrase passphrase) fun service ↦
      some (.passphraseSubmitted service passphrase)
  | forget path =>
    serviceJob snapshot path .remove fun service ↦ some (.serviceForgotten service)
  | setOfflineMode enabled =>
    plain <| unit <| .ask <|
      .setProperty ObjectPath.root.text managerInterface "OfflineMode" (.bool enabled)
  | sim command => .sim command
  | retries modem =>
    plain <| match snapshot.modem? modem with
      | some modem => .done (.ok (.retries modem.retries))
      | none => .fail (.unknownModem modem)
  | setupContext modem settings => plain do
    let manager ← Dialogue.lift (connectionManager snapshot modem)
    let context ← Cellular.setupInternetContext manager settings
    return .path context
  | contexts modem => plain do
    let manager ← Dialogue.lift (connectionManager snapshot modem)
    let contexts ← Cellular.listContexts manager
    return .contexts contexts
  | internetContext modem => plain do
    let manager ← Dialogue.lift (connectionManager snapshot modem)
    let context ← Cellular.internetContext manager
    return .context context
  | removeContext modem context => plain do
    let manager ← Dialogue.lift (connectionManager snapshot modem)
    let context ← Dialogue.lift (parsePath context)
    unit (Cellular.removeContext manager context)
  | call target method args =>
    direct target method args .nothing (isSupported args) fun _ _ ↦ .done
  | callForPath target method args =>
    direct target method args .path (isSupportedForPath args) fun _ path ↦ .path path
  | listChildren target method =>
    direct target method .none .children true fun _ children ↦ .children children
  | getProperties target =>
    direct target "GetProperties" .none .properties true fun object properties ↦
      .properties object target.interface properties

end Command

end Uplink.Live
