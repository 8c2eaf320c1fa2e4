import Uplink.Live.Script
/-!
# Sessions on a scripted bus

A client and two scripted daemons on one bus. After each step the bus settles: the daemons answer
the calls that are under way one by one until only those are left that are held. Calls are logged
when they are answered, also if nobody waits for the answer any more.
-/

namespace Uplink.Live

open Wire (Value)

inductive Input where
  | command (command : Command)
  /-- A command, after which time passes until no command is running. -/
  | commandAndWait (command : Command)
  | signal (signal : Signal)
  | extend (script : Script)
  | hold (endpoint : Endpoint)
  | release (endpoint : Endpoint)

/-- What a step of a session shows. -/
structure Report where
  calls : List Remote.Call
  results : List (Nat × Except Failure Result)
  /-- The latest snapshot, if any was published since the last report. -/
  snapshot : Option Snapshot

structure Session where
  client : Client
  script : Script
  /-- The calls under way, in the order in which they were made. -/
  underWay : List Sent := []
  log : List Remote.Call := []
  monitor : Monitor Snapshot := {}
  /-- The number of the latest snapshot that was reported. -/
  reported : Nat := 0

namespace Session

/-- Whether the first call is answered before the second. -/
def before (a b : Remote.Call) : Bool :=
  if a.object ≠ b.object then a.object < b.object
  else if a.interface ≠ b.interface then a.interface < b.interface
  else a.method < b.method

/-- The call that is answered next. -/
def next? (session : Session) : Option Sent :=
  session.underWay.foldl
    (fun first sent ↦
      if session.script.held.contains (Script.endpoint sent.call) then first
      else match first with
        | some earlier => if before sent.call earlier.call then some sent else first
        | none => some sent)
    none

/-- Puts the calls that the client made on their way. -/
def collect (session : Session) : Session :=
  { session with
    underWay := session.underWay ++ session.client.outbox
    client := { session.client with outbox := [] } }

/-- Answers one call. -/
def answer (session : Session) (sent : Sent) : Session :=
  let (reply, script) := session.script.answer sent.call
  { session with
    script
    underWay := session.underWay.filter (·.number ≠ sent.number)
    log := session.log ++ [sent.call]
    client := session.client.receive sent.number reply }

/-- Lets the monitor see what was published. -/
def observe (session : Session) : Session :=
  if session.monitor.version < session.client.publisher.version then
    { session with monitor := (session.monitor.publish session.client.snapshot).poll .published }
  else session

/-- Answers at most so many calls. -/
def settleWithin : Nat → Session → Session
  | 0, session => session
  | calls + 1, session =>
    let session := session.collect
    match session.next? with
    | none => session
    | some sent => settleWithin calls (session.answer sent).observe

/-- The events that wait for a fetch. -/
def eventsWaiting (session : Session) : Nat :=
  total (fun watch ↦ (watch.waiting.getD []).length) session.client.watches

/-- A bound on the calls that can still be made: each call under way leads to a few of its own, and
each value that is yet to be read names at most one object to fetch. -/
def bound (session : Session) : Nat :=
  64 + 16 * (session.script.size + session.underWay.length + session.client.outbox.length +
    session.client.waiting.length + session.eventsWaiting)

def settle (session : Session) : Session := settleWithin session.bound session.observe

/-- Lets time pass until no command is running, at most through so many deadlines. -/
def waitWithin : Nat → Session → Session
  | 0, session => session
  | deadlines + 1, session =>
    if session.client.isBusy then
      waitWithin deadlines { session with client := session.client.expire }.settle
    else session

def wait (session : Session) : Session := waitWithin session.bound session

/-- Shows what happened since the last report. -/
def report (session : Session) : Session × Report :=
  let version := session.client.publisher.version
  ({ session with
      log := []
      client := { session.client with results := [] }
      reported := version },
    { calls := session.log
      results := session.client.results
      snapshot := if session.reported < version then some session.client.snapshot else none })

def opening (config : Config) (script : Script) : Session × Report :=
  ({ client := .start config, script } : Session).settle.report

def withClient (session : Session) (client : Client) : Session := { session with client }

/-- Takes the step with this number. -/
def step (session : Session) (number : Nat) : Input → Session × Report
  | .command command => (session.withClient (session.client.command number command)).settle.report
  | .commandAndWait command =>
    (session.withClient (session.client.command number command)).settle.wait.report
  | .signal signal => (session.withClient (session.client.signal signal)).settle.report
  | .extend script => { session with script := session.script.extend script }.settle.report
  | .hold endpoint => { session with script := session.script.hold endpoint }.settle.report
  | .release endpoint => { session with script := session.script.release endpoint }.settle.report

/-- Stops the monitor. -/
def close (session : Session) : Monitor Snapshot := session.monitor.requestStop.poll .published

end Session

end Uplink.Live
