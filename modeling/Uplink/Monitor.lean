import Uplink.Channel
/-!
# Monitoring a published value

A reader follows a value of which new versions are published, and stops when it is told to or when
the publisher is gone. Both come over channels of their own. In each turn the reader may follow any
branch that is ready, so which one it prefers is a parameter.

A version that was not seen only wakes the reader: which one it passes on is decided when it reads
the channel, and until then more can be published. Reading and passing on are one step, so a call
stands where its version was read.
-/

namespace Uplink

/-- What a monitor can react to. -/
inductive Branch where
  /-- A version that was not seen, or the end of the publisher. -/
  | published
  /-- The request to stop, or the end of whoever could make it. -/
  | stop
deriving DecidableEq

def Branch.other : Branch → Branch
  | published => stop
  | stop => published

/-- How a monitor ended. -/
inductive MonitorEnd where
  | stopped
  | publisherGone
deriving DecidableEq

structure Monitor (α : Type) where
  values : Channel α := .empty
  /-- Over this channel the monitor is asked to stop. -/
  requests : Channel Unit := .empty
  /-- Whether the monitor was woken and has not read the channel since. -/
  woken : Bool := false
  /-- The versions that were passed on, with their numbers, in order. -/
  delivered : List (Nat × α) := []
  result : Option MonitorEnd := none

namespace Monitor

variable {α : Type}

instance : Inhabited (Monitor α) := ⟨{}⟩

def version (monitor : Monitor α) : Nat := monitor.values.version

def publish (monitor : Monitor α) (value : α) : Monitor α :=
  { monitor with values := monitor.values.publish value }

def dropPublisher (monitor : Monitor α) : Monitor α :=
  { monitor with values := monitor.values.dropSender }

def requestStop (monitor : Monitor α) : Monitor α :=
  { monitor with requests := monitor.requests.publish () }

/-- Nobody is left who could ask the monitor to stop. -/
def dropRequester (monitor : Monitor α) : Monitor α :=
  { monitor with requests := monitor.requests.dropSender }

/-- What a branch is ready with, if with anything. -/
def notice? (monitor : Monitor α) : Branch → Option Notice
  | .published => monitor.values.notice?
  | .stop => monitor.requests.notice?

/-- Whether the monitor waits for a branch to be ready. -/
def waits (monitor : Monitor α) : Bool := !monitor.woken && monitor.result.isNone

/-- Follows a branch, if it is ready and the monitor waits. -/
def follow (monitor : Monitor α) (branch : Branch) : Monitor α :=
  if monitor.waits then
    match branch, monitor.notice? branch with
    | _, none => monitor
    | .published, some .news => { monitor with values := monitor.values.markSeen, woken := true }
    | .published, some .senderGone => { monitor with result := some .publisherGone }
    | .stop, some _ => { monitor with result := some .stopped }
  else monitor

/-- Once woken, reads the latest version, which may be newer than the one that woke the monitor, and
passes it on. -/
def deliver (monitor : Monitor α) : Monitor α :=
  if monitor.woken then
    { monitor with
      values := monitor.values.markSeen
      woken := false
      delivered := monitor.delivered ++ monitor.values.latest?.toList }
  else monitor

/-- The preferred branch if it is ready, else the other. -/
def choose (monitor : Monitor α) (preferred : Branch) : Branch :=
  if (monitor.notice? preferred).isSome then preferred else preferred.other

/-- One turn: a branch is followed, and what it brings is passed on. -/
def turn (monitor : Monitor α) (preferred : Branch) : Monitor α :=
  (monitor.follow (monitor.choose preferred)).deliver

/-- Turns until nothing is ready: news can be there once, and then the monitor waits or ends. -/
def poll (monitor : Monitor α) (preferred : Branch) : Monitor α :=
  (monitor.turn preferred).turn preferred

end Monitor

end Uplink
