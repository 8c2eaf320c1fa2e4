import Uplink.Remote.Call
import Uplink.Tracker.Event
/-!
# Watching the daemons

What is watched of the two daemons, how each watch begins, and which events its signals stand for. A
watch subscribes before it fetches, so that no change falls between; signals that come in before the
fetch has ended wait for it. The additions and removals of modems come in through two subscriptions,
which take turns when both have signals waiting.
-/

namespace Uplink.Live

open Wire (Value Properties)
open Remote (Call Shape)

/-- A signal that a daemon emits. -/
structure Signal where
  object : ObjectPath
  interface : String
  member : String
  body : List Value

inductive WatchKey where
  | manager
  | modemManager
  | service (path : ObjectPath)
  | modem (path : ObjectPath)
  | sim (path : ObjectPath)
deriving DecidableEq

namespace WatchKey

def object : WatchKey → ObjectPath
  | manager => .root
  | modemManager => .root
  | service path => path
  | modem path => path
  | sim path => path

def interface : WatchKey → String
  | manager => "net.connman.Manager"
  | modemManager => "org.ofono.Manager"
  | service _ => "net.connman.Service"
  | modem _ => "org.ofono.Modem"
  | sim _ => "org.ofono.SimManager"

/-- The property that a signal reports as changed, and its new value. -/
def propertyChanged? (signal : Signal) : Option (String × Value) :=
  match signal.member, signal.body with
  | "PropertyChanged", [.scalar (.text key), .variant value] => some (key, value)
  | _, _ => none

/-- A modem that a signal announces or takes back. -/
def modemSignal? (signal : Signal) : Option Event :=
  match signal.member, signal.body with
  | "ModemAdded", [.scalar (.path path), properties] =>
    (Shape.propertyMap? properties).map (.modemAdded path)
  | "ModemRemoved", [.scalar (.path path)] => some (.modemRemoved path)
  | _, _ => none

/-- The event that a signal stands for, if it is one that is watched. -/
def event? (key : WatchKey) (signal : Signal) : Option Event :=
  if signal.object = key.object ∧ signal.interface = key.interface then
    match key with
    | manager => (propertyChanged? signal).map fun change ↦ .managerChanged change.1 change.2
    | modemManager => modemSignal? signal
    | service path =>
      (propertyChanged? signal).map fun change ↦ .serviceChanged path change.1 change.2
    | modem path => (propertyChanged? signal).map fun change ↦ .modemChanged path change.1 change.2
    | sim path => (propertyChanged? signal).map fun change ↦ .simChanged path change.1 change.2
  else none

end WatchKey

/-- Takes from two lists in turns, from the first one first; when one is used up the rest of the
other follows. -/
def takeTurns {α : Type} : List α → List α → List α
  | [], ys => ys
  | x :: xs, [] => x :: xs
  | x :: xs, y :: ys => x :: y :: takeTurns xs ys

def isRemoval : Event → Bool
  | .modemRemoved _ => true
  | _ => false

/-- The order in which events that waited for a fetch are passed on. -/
def WatchKey.release (key : WatchKey) (waiting : List Event) : List Event :=
  match key with
  | modemManager =>
    takeTurns (waiting.filter fun event ↦ !isRemoval event) (waiting.filter isRemoval)
  | _ => waiting

/-- A fetch that the tracker needs. -/
inductive Fetch where
  | manager
  | modems
  | service (ticket : Ticket)
  /-- A service that is watched already. -/
  | serviceAgain (ticket : Ticket)
  | modem (path : ObjectPath)
  | sim (ticket : Ticket)
deriving DecidableEq

namespace Fetch

/-- The watch that begins with this fetch. -/
def key? : Fetch → Option WatchKey
  | manager => some .manager
  | modems => some .modemManager
  | service ticket => some (.service ticket.path)
  | serviceAgain _ => none
  | modem path => some (.modem path)
  | sim ticket => some (.sim ticket.path)

def call : Fetch → Call
  | manager => .getProperties ObjectPath.root.text WatchKey.manager.interface
  | modems =>
    { object := ObjectPath.root.text
      interface := WatchKey.modemManager.interface
      method := "GetModems"
      expects := .children }
  | service ticket => .getProperties ticket.path.text (WatchKey.service ticket.path).interface
  | serviceAgain ticket => .getProperties ticket.path.text (WatchKey.service ticket.path).interface
  | modem path => .getProperties path.text (WatchKey.modem path).interface
  | sim ticket => .getProperties ticket.path.text (WatchKey.sim ticket.path).interface

/-- The event that the values of a reply stand for. -/
def event? (fetch : Fetch) (body : List Value) : Option Event :=
  match fetch with
  | manager => (Shape.properties.read? body).map .managerReported
  | modems => (Shape.children.read? body).map .modemsListed
  | service ticket => (Shape.properties.read? body).map (.serviceFetched ticket)
  | serviceAgain ticket => (Shape.properties.read? body).map (.serviceFetched ticket)
  | modem path => (Shape.properties.read? body).map (.modemRefreshed path)
  | sim ticket => (Shape.properties.read? body).map (.simFetched ticket)

/-- Whether the watch goes on when the fetch fails. A daemon that does not answer is not there. -/
def outlivesFailure : Fetch → Bool
  | manager => false
  | modems => false
  | _ => true

end Fetch

end Uplink.Live
