import Uplink.Tracker.Event
/-!
# The tracker

One pure step from an event to the new state, the actions that have to follow and the replies to
commands. A step that changes what a snapshot shows marks the state as changed, unless it prepares
a call to a SIM, and `Publisher.advance` publishes a snapshot after each event that set the mark.
-/

namespace Uplink

open Wire (Value Properties)

/-- Everything that is known of the two daemons. -/
structure Tracker where
  manager : ManagerState := {}
  services : ServiceRoster := {}
  modems : ModemRoster := {}
  /-- Whether anything changed since the last snapshot was taken. -/
  dirty : Bool := false

/-- What an event leads to. -/
structure Step where
  tracker : Tracker
  actions : List Action := []
  replies : List Reply := []

namespace Tracker

instance : Inhabited Tracker := ⟨{}⟩

def snapshot (tracker : Tracker) : Snapshot where
  manager := tracker.manager
  services := tracker.services.services
  lastActive := tracker.services.lastActive
  modems := tracker.modems.modems
  totals := tracker.modems.totals

def touched (tracker : Tracker) : Tracker := { tracker with dirty := true }

/-- Takes the list of services; anything but an array is no list. -/
def setServices (tracker : Tracker) (value : Value) : Tracker × List Action :=
  match value.paths? with
  | none => (tracker, [])
  | some paths =>
    let (services, outcome) := tracker.services.reconcile paths
    let tracker := { tracker with services }
    (if outcome.isEmpty then tracker else tracker.touched,
      outcome.removed.map .detachService ++ outcome.added.map .attachService)

/-- Takes one property of the network manager; one that does not matter changes nothing. -/
def setManagerProperty (tracker : Tracker) (key : String) (value : Value) : Tracker × List Action :=
  if key = "Services" then tracker.setServices value
  else match tracker.manager.setProperty? key value with
    | some manager => ({ tracker with manager }.touched, [])
    | none => (tracker, [])

def setManagerProperties (tracker : Tracker) (properties : List (String × Value)) :
    Tracker × List Action :=
  properties.foldl
    (fun (tracker, actions) (key, value) ↦
      let (tracker, more) := tracker.setManagerProperty key value
      (tracker, actions ++ more))
    (tracker, [])

def withServices (tracker : Tracker) (services : ServiceRoster) : Tracker :=
  { tracker with services }.touched

def withModems (tracker : Tracker) (modems : ModemRoster) : Tracker :=
  { tracker with modems }.touched

def changeService (tracker : Tracker) (path : ObjectPath) (key : String) (value : Value) : Step :=
  match tracker.services.change path key value with
  | (_, .untracked) => { tracker }
  | (services, .applied) => { tracker := tracker.withServices services }
  | (services, .refetch ticket) =>
    { tracker := tracker.withServices services, actions := [.refetchService ticket] }
  | (services, .removeProvider path) =>
    { tracker := tracker.withServices services, actions := [.removeProvider path] }

/-- Takes a changed modem and asks for what has to follow. -/
def followModem (tracker : Tracker) : ModemRoster × ModemChange → Tracker × List Action
  | (_, .untracked) => (tracker, [])
  | (modems, .applied) => (tracker.withModems modems, [])
  | (modems, .attachSim ticket) => (tracker.withModems modems, [.attachSim ticket])
  | (modems, .detachSim path) => (tracker.withModems modems, [.detachSim path])

/-- Tracks a modem, and subscribes to it if it is new. -/
def addModem (tracker : Tracker) (path : ObjectPath) (properties : Properties) :
    Tracker × List Action :=
  let attach := if tracker.modems.contains path then [] else [Action.attachModem path]
  let (tracker, actions) := tracker.followModem (tracker.modems.add path properties)
  (tracker, attach ++ actions)

def addModems (tracker : Tracker) (modems : List (ObjectPath × Properties)) :
    Tracker × List Action :=
  modems.foldl
    (fun (tracker, actions) (path, properties) ↦
      let (tracker, more) := tracker.addModem path properties
      (tracker, actions ++ more))
    (tracker, [])

def refused (tracker : Tracker) (number : Nat) (failure : Failure) : Step :=
  { tracker, replies := [⟨number, .error failure⟩] }

/-- Carries out a command: a PUK is taken on the spot, everything else is a call to the SIM manager.
Preparing a call notes the kind of credential but is not a change worth a snapshot. -/
def command (tracker : Tracker) (number : Nat) (command : SimCommand) : Step :=
  let call (modems : ModemRoster) (request : SimRequest) : Step :=
    { tracker := { tracker with modems }
      actions := [.simCall ⟨number, command.modem, request⟩] }
  match command with
  | .enter modem pin =>
    match tracker.modems.enter modem pin with
    | .ok (modems, request) => call modems request
    | .error failure => tracker.refused number failure
  | .submitPuk modem puk =>
    match tracker.modems.submitPuk modem puk with
    | .ok modems => { tracker := tracker.withModems modems, replies := [⟨number, .ok ()⟩] }
    | .error failure => tracker.refused number failure
  | .reset modem newPin =>
    match tracker.modems.reset modem newPin with
    | .ok request => call tracker.modems request
    | .error failure => tracker.refused number failure
  | .change modem kind oldPin newPin =>
    match tracker.modems.changePin modem kind oldPin newPin with
    | .ok (modems, request) => call modems request
    | .error failure => tracker.refused number failure

def stepOf : Tracker × List Action → Step
  | (tracker, actions) => { tracker, actions }

def withServices? (tracker : Tracker) : Option ServiceRoster → Step
  | some services => { tracker := tracker.withServices services }
  | none => { tracker }

def withModems? (tracker : Tracker) : Option ModemRoster → Step
  | some modems => { tracker := tracker.withModems modems }
  | none => { tracker }

def handle (tracker : Tracker) : Event → Step
  | .managerReported properties =>
    let manager := { tracker.manager with available := true }
    stepOf ({ tracker with manager }.touched.setManagerProperties properties.entries)
  | .managerChanged key value => stepOf (tracker.setManagerProperty key value)
  | .serviceFetched ticket properties =>
    tracker.withServices? (tracker.services.completeFetch? ticket properties)
  | .serviceChanged path key value => tracker.changeService path key value
  | .modemsListed modems => stepOf (tracker.addModems modems)
  | .modemAdded path properties => stepOf (tracker.addModem path properties)
  | .modemRefreshed path properties =>
    stepOf (tracker.followModem (tracker.modems.refresh path properties))
  | .modemRemoved path =>
    match tracker.modems.remove? path with
    | some modems => { tracker := tracker.withModems modems, actions := [.detachModem path] }
    | none => { tracker }
  | .modemChanged path key value =>
    stepOf (tracker.followModem (tracker.modems.change path key value))
  | .simFetched ticket properties =>
    tracker.withModems? (tracker.modems.completeFetch? ticket properties)
  | .simChanged path key value => tracker.withModems? (tracker.modems.changeSim? path key value)
  | .passphraseSubmitted path passphrase =>
    tracker.withServices? (tracker.services.echoPassphrase? path passphrase)
  | .serviceForgotten path => tracker.withServices? (tracker.services.forgetPassphrase? path)
  | .commanded number command => tracker.command number command
  | .callFinished call outcome =>
    { tracker := tracker.withModems (tracker.modems.complete call.modem call.request outcome)
      replies := [⟨call.command, outcome⟩] }
  | .shutdown => { tracker }

/-- Whether anything changed since this was asked last. -/
def takeDirty (tracker : Tracker) : Tracker × Bool :=
  ({ tracker with dirty := false }, tracker.dirty)

end Tracker

/-- The tracker at work: its state and the snapshot published last. -/
structure Publisher where
  tracker : Tracker := {}
  published : Snapshot := {}
  /-- How many snapshots were published. -/
  version : Nat := 0

namespace Publisher

/-- Handles one event and publishes a snapshot if anything changed. -/
def advance (publisher : Publisher) (event : Event) : Publisher × List Action × List Reply :=
  let step := publisher.tracker.handle event
  let (tracker, changed) := step.tracker.takeDirty
  let publisher :=
    if changed then
      { tracker, published := tracker.snapshot, version := publisher.version + 1 }
    else { publisher with tracker }
  (publisher, step.actions, step.replies)

end Publisher

end Uplink
