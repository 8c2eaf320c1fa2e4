import Uplink.Tracker.Snapshot
/-!
# What the tracker is told, and what it asks for

Events are the reports of the two daemons, the commands of the user and the ends of calls. Actions
are the subscriptions, fetches and calls that an event makes necessary. A command has a number,
under which it is answered once.
-/

namespace Uplink

open Wire (Value Properties)

/-- What a user can ask of the SIM in a modem. -/
inductive SimCommand where
  | enter (modem pin : String)
  | submitPuk (modem puk : String)
  | reset (modem newPin : String)
  | change (modem : String) (kind : CredentialKind) (oldPin newPin : String)
deriving DecidableEq

namespace SimCommand

/-- The modem as the user named it. -/
def modem : SimCommand → String
  | enter modem _ => modem
  | submitPuk modem _ => modem
  | reset modem _ => modem
  | change modem .. => modem

end SimCommand

/-- A call to the SIM manager of a modem, made for a command. -/
structure SimCall where
  command : Nat
  modem : String
  request : SimRequest
deriving DecidableEq

/-- The answer to a command. -/
structure Reply where
  command : Nat
  outcome : Outcome

inductive Event where
  | managerReported (properties : Properties)
  | managerChanged (key : String) (value : Value)
  | serviceFetched (ticket : Ticket) (properties : Properties)
  | serviceChanged (path : ObjectPath) (key : String) (value : Value)
  | modemsListed (modems : List (ObjectPath × Properties))
  | modemAdded (path : ObjectPath) (properties : Properties)
  /-- A modem that should be tracked was read once more. -/
  | modemRefreshed (path : ObjectPath) (properties : Properties)
  | modemRemoved (path : ObjectPath)
  | modemChanged (path : ObjectPath) (key : String) (value : Value)
  | simFetched (ticket : Ticket) (properties : Properties)
  | simChanged (path : ObjectPath) (key : String) (value : Value)
  | passphraseSubmitted (path : ObjectPath) (passphrase : String)
  | serviceForgotten (path : ObjectPath)
  | commanded (number : Nat) (command : SimCommand)
  | callFinished (call : SimCall) (outcome : Outcome)
  | shutdown

inductive Action where
  /-- Subscribe to a service, then fetch it. -/
  | attachService (ticket : Ticket)
  | detachService (path : ObjectPath)
  | refetchService (ticket : Ticket)
  /-- Tell the network manager to forget a VPN provider; the answer does not matter. -/
  | removeProvider (path : ObjectPath)
  /-- Subscribe to a modem, then read it once more. -/
  | attachModem (path : ObjectPath)
  | detachModem (path : ObjectPath)
  /-- Subscribe to the SIM manager of a modem, then fetch it. -/
  | attachSim (ticket : Ticket)
  | detachSim (path : ObjectPath)
  | simCall (call : SimCall)
deriving DecidableEq

end Uplink
