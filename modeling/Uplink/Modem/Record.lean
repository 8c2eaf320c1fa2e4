import Uplink.ObjectPath
import Uplink.Sim.Lock
/-!
# Modems

What is known of one modem and of the SIM in it. The interfaces that a modem offers come and go; the
SIM data are meaningful only while the SIM manager is among them.
-/

namespace Uplink

structure Modem where
  path : ObjectPath
  name : Option String := none
  manufacturer : Option String := none
  model : Option String := none
  powered : Bool := false
  online : Bool := false
  interfaces : List String := []
  hasSimManager : Bool := false
  hasConnectionManager : Bool := false
  simPresent : Bool := false
  /-- The credential that the SIM waits for. -/
  required : Option CredentialKind := none
  retries : Retries := ∅
  subscriberIdentity : Option String := none
  lock : SimLock := {}
deriving DecidableEq

namespace Modem

def simManagerInterface : String := "org.ofono.SimManager"
def connectionManagerInterface : String := "org.ofono.ConnectionManager"

def retriesFor (modem : Modem) (kind : CredentialKind) : Option UInt8 := modem.retries.get? kind

def toJson (modem : Modem) : Json :=
  .object [("path", .text modem.path.text),
    ("name", .ofOption .text modem.name),
    ("manufacturer", .ofOption .text modem.manufacturer),
    ("model", .ofOption .text modem.model),
    ("powered", .bool modem.powered),
    ("online", .bool modem.online),
    ("interfaces", .ofTexts modem.interfaces),
    ("has_sim_manager", .bool modem.hasSimManager),
    ("has_connection_manager", .bool modem.hasConnectionManager),
    ("sim_present", .bool modem.simPresent),
    ("pin_required", .ofOption (fun kind ↦ .text kind.name) modem.required),
    ("retries", modem.retries.toJson),
    ("subscriber_identity", .ofOption .text modem.subscriberIdentity),
    ("pin", modem.lock.toJson)]

end Modem

end Uplink
