import Uplink.Remote.Call
/-!
# Configuration

How long calls may take, in milliseconds, which bus the daemons are on, and whether modems are
tracked at all.
-/

namespace Uplink

structure Timeouts where
  connect : Nat := 120000
  call : Nat := 25000
deriving DecidableEq

namespace Timeouts

def of (timeouts : Timeouts) : Remote.Patience → Nat
  | .default => timeouts.call
  | .connect => timeouts.connect

end Timeouts

inductive BusKind where
  | system | session
deriving DecidableEq

structure Config where
  timeouts : Timeouts := {}
  bus : BusKind := .system
  trackModems : Bool := true
deriving DecidableEq

namespace Config

/-- The configuration in which nothing is switched on. -/
def minimal : Config := { trackModems := false }

end Config

end Uplink
