import Uplink.Live.Command
import Uplink.Live.Watch
import Uplink.Monitor
import Uplink.Tracker.Step
import Uplink.Wire.Sendable
/-!
# The client on a live bus

The client as a machine over what happens on its connection: it starts its watches, takes
commands, signals, replies and the passing of time, and leaves the calls it makes in its outbox
and the results of commands beside them. Every call has an errand, which says what its reply is
for; a reply to an errand that was given up is ignored.
-/

namespace Uplink.Live

open Wire (Value)
open Remote (Dialogue Call CallArgs Patience Shape)

namespace Call

/-- The method has a valid name, and no argument holds a NUL. -/
def isSendable (call : Call) : Bool :=
  Wire.Name.isMember call.method && Value.areSendable call.args.body

/-- Reads a reply as the call expects it. -/
def receive (call : Call) (reply : Except Failure (List Value)) :
    Except Failure call.expects.Answer :=
  match reply with
  | .error failure => .error failure
  | .ok body =>
    match call.expects.read? body with
    | some answer => .ok answer
    | none => .error (.bus "Signature mismatch")

end Call

/-- What the reply to a call is for. -/
inductive Errand where
  | fetch (fetch : Fetch)
  /-- The reply does not matter. -/
  | dismissProvider
  | sim (call : SimCall)
  /-- The dialogue of a command goes on with the reply. -/
  | command (number : Nat) (call : Call)
    (next : Except Failure call.expects.Answer → Dialogue Result)
    (announce : Option Event) (patience : Option Nat)

namespace Errand

/-- Whether a user waits for it. -/
def isCommand : Errand → Bool
  | sim _ => true
  | command .. => true
  | _ => false

/-- The watch that begins with it. -/
def key? : Errand → Option WatchKey
  | fetch began => began.key?
  | _ => none

end Errand

/-- A call that was made, under its number. -/
structure Sent where
  number : Nat
  call : Call

/-- An errand that waits for the reply to its call. -/
structure Waiting where
  number : Nat
  deadline : Nat
  errand : Errand

/-- Where a watch stands: events wait until its fetch has ended. -/
structure Watch where
  key : WatchKey
  waiting : Option (List Event) := some []

structure Client where
  config : Config := {}
  publisher : Publisher := {}
  watches : List Watch := []
  waiting : List Waiting := []
  calls : Nat := 0
  /-- The time in milliseconds. -/
  now : Nat := 0
  outbox : List Sent := []
  results : List (Nat × Except Failure Result) := []

namespace Client

def snapshot (client : Client) : Snapshot := client.publisher.published

/-- Makes a call for an errand. -/
def send (client : Client) (errand : Errand) (call : Call) (patience : Nat) : Client :=
  let number := client.calls + 1
  { client with
    calls := number
    outbox := client.outbox ++ [⟨number, call⟩]
    waiting := client.waiting ++ [⟨number, client.now + patience, errand⟩] }

def patienceFor (client : Client) (patience : Patience) : Nat := client.config.timeouts.of patience

/-- Ends a watch and gives its fetch up; a call that was not sent yet is not made. -/
def unwatch (client : Client) (key : WatchKey) : Client :=
  let (dropped, waiting) := client.waiting.partition fun waiting ↦ waiting.errand.key? = some key
  { client with
    watches := client.watches.filter fun watch ↦ watch.key ≠ key
    waiting
    outbox := client.outbox.filter fun sent ↦ dropped.all (·.number ≠ sent.number) }

/-- Makes the call of a fetch, and begins the watch that goes with it. -/
def fetch (client : Client) (fetch : Fetch) : Client :=
  let client :=
    match fetch.key? with
    | some key =>
      let client := client.unwatch key
      { client with watches := client.watches ++ [({ key } : Watch)] }
    | none => client
  client.send (.fetch fetch) fetch.call (client.patienceFor .default)

def removeProvider (provider : ObjectPath) : Call :=
  { object := ObjectPath.root.text
    interface := Command.managerInterface
    method := "RemoveProvider"
    args := .path provider }

/-- The call to the SIM manager of a modem. -/
def simCall (modem : ObjectPath) (request : SimRequest) : Call :=
  { object := modem.text, interface := Modem.simManagerInterface, method := request.method,
    args := .texts request.arguments }

def finish (client : Client) (number : Nat) (result : Except Failure Result) : Client :=
  { client with results := client.results ++ [(number, result)] }

/-- Does what the tracker asks for. -/
def execute (client : Client) : Action → Client
  | .attachService ticket => client.fetch (.service ticket)
  | .detachService path => client.unwatch (.service path)
  | .refetchService ticket => client.fetch (.serviceAgain ticket)
  | .removeProvider path =>
    client.send .dismissProvider (removeProvider path) (client.patienceFor .default)
  | .attachModem path => client.fetch (.modem path)
  | .detachModem path => (client.unwatch (.sim path)).unwatch (.modem path)
  | .attachSim ticket => client.fetch (.sim ticket)
  | .detachSim path => client.unwatch (.sim path)
  | .simCall call =>
    match ObjectPath.parse? call.modem with
    | some modem =>
      client.send (.sim call) (simCall modem call.request) (client.patienceFor .default)
    | none => client

/-- Tells the tracker of an event and does what has to follow. -/
def handle (client : Client) (event : Event) : Client :=
  let (publisher, actions, replies) := client.publisher.advance event
  let client := actions.foldl execute { client with publisher }
  replies.foldl
    (fun client reply ↦ client.finish reply.command (reply.outcome.map fun _ ↦ .done)) client

def handleAll (client : Client) (events : List Event) : Client := events.foldl handle client

/-- Follows the dialogue of a command up to its next call. -/
def pursue (client : Client) (number : Nat) (announce : Option Event) (patience : Option Nat) :
    Dialogue Result → Client
  | .done result =>
    match result with
    | .ok _ => (client.handleAll announce.toList).finish number result
    | .error _ => client.finish number result
  | .call call next =>
    if Call.isSendable call then
      client.send (.command number call next announce patience) call
        (patience.getD (client.patienceFor call.patience))
    else client.pursue number announce patience (next (.error (.bus "Invalid message")))
  | .reach _ next => client.pursue number announce patience (next (.ok ()))

/-- Begins a command. -/
def command (client : Client) (number : Nat) (command : Command) : Client :=
  match command.job client.snapshot with
  | .dialogue dialogue announce patience => client.pursue number announce patience dialogue
  | .sim command => client.handle (.commanded number command)

/-- Begins the watches of the daemons. -/
def start (config : Config) : Client :=
  let client := ({ config } : Client).fetch .manager
  if config.trackModems then client.fetch .modems else client

/-- Takes a signal: it is passed on at once, or waits for the fetch of its watch. -/
def signal (client : Client) (signal : Signal) : Client :=
  client.watches.foldl
    (fun client watch ↦
      match watch.key.event? signal, watch.waiting with
      | none, _ => client
      | some event, none => client.handle event
      | some event, some _ =>
        let delay (other : Watch) : Watch :=
          if other.key = watch.key then { other with waiting := other.waiting.map (· ++ [event]) }
          else other
        { client with watches := client.watches.map delay })
    client

/-- Ends the fetch of a watch: the events that waited are passed on after that of the reply. -/
def endFetch (client : Client) (fetch : Fetch) (reply : Except Failure (List Value)) : Client :=
  let event? := reply.toOption.bind fetch.event?
  match fetch.key? with
  | none => client.handleAll event?.toList
  | some key =>
    if event?.isNone && !fetch.outlivesFailure then client.unwatch key
    else
      let waiting :=
        (client.watches.find? (·.key = key)).bind (·.waiting) |>.getD []
      let live (watch : Watch) : Watch :=
        if watch.key = key then { watch with waiting := none } else watch
      let client := { client with watches := client.watches.map live }
      client.handleAll (event?.toList ++ key.release waiting)

/-- Takes the outcome of the call with this number, if its errand was not given up. -/
def receive (client : Client) (number : Nat) (reply : Except Failure (List Value)) : Client :=
  match client.waiting.find? (·.number = number) with
  | none => client
  | some waiting =>
    let client := { client with waiting := client.waiting.filter (·.number ≠ number) }
    match waiting.errand with
    | .fetch fetch => client.endFetch fetch reply
    | .dismissProvider => client
    | .sim call =>
      let outcome : Outcome := reply.bind fun body ↦
        if body.isEmpty then .ok () else .error (.bus "Signature mismatch")
      client.handle (.callFinished call outcome)
    | .command number call next announce patience =>
      client.pursue number announce patience (next (Call.receive call reply))

def isBusy (client : Client) : Bool := client.waiting.any (·.errand.isCommand)

/-- The errand that is given up first. -/
def nextDeadline? (client : Client) : Option Waiting :=
  client.waiting.foldl
    (fun first waiting ↦
      match first with
      | some earlier => if waiting.deadline < earlier.deadline then some waiting else first
      | none => some waiting)
    none

/-- Lets time pass until the first errand is given up. -/
def expire (client : Client) : Client :=
  match client.nextDeadline? with
  | none => client
  | some waiting =>
    let client := { client with now := max client.now waiting.deadline }
    client.receive waiting.number (.error .timeout)

end Client

end Uplink.Live
