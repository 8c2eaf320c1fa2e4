import Uplink.Json
/-!
# Kinds, states and security of services

What the network daemon says about a service in single words. A kind or a security scheme that is
not known keeps its text; a state that is not known is `unknown`.
-/

namespace Uplink

inductive ServiceKind where
  | ethernet | wifi | cellular | wimax | bluetooth | vpn
  | other (text : String)
deriving DecidableEq

namespace ServiceKind

def ofName : String → ServiceKind
  | "ethernet" => ethernet
  | "wifi" => wifi
  | "cellular" => cellular
  | "wimax" => wimax
  | "bluetooth" => bluetooth
  | "vpn" => vpn
  | text => other text

def name : ServiceKind → String
  | ethernet => "ethernet"
  | wifi => "wifi"
  | cellular => "cellular"
  | wimax => "wimax"
  | bluetooth => "bluetooth"
  | vpn => "vpn"
  | other text => text

@[simp] theorem name_ofName (text : String) : (ofName text).name = text := by
  unfold ofName; split <;> rfl

def toJson : ServiceKind → Json
  | ethernet => .text "Ethernet"
  | wifi => .text "Wifi"
  | cellular => .text "Cellular"
  | wimax => .text "Wimax"
  | bluetooth => .text "Bluetooth"
  | vpn => .text "Vpn"
  | other text => .object [("Other", .text text)]

def ofJson? : Json → Option ServiceKind :=
  Json.namedOrOther? [("Ethernet", ethernet), ("Wifi", wifi), ("Cellular", cellular),
    ("Wimax", wimax), ("Bluetooth", bluetooth), ("Vpn", vpn)] other

end ServiceKind

inductive ServiceState where
  | idle | association | configuration | ready | online | disconnect | failure | unknown
deriving DecidableEq

namespace ServiceState

instance : Inhabited ServiceState := ⟨idle⟩

def ofName : String → ServiceState
  | "idle" => idle
  | "association" => association
  | "configuration" => configuration
  | "ready" => ready
  | "online" => online
  | "disconnect" => disconnect
  | "failure" => failure
  | _ => unknown

def name : ServiceState → String
  | idle => "idle"
  | association => "association"
  | configuration => "configuration"
  | ready => "ready"
  | online => "online"
  | disconnect => "disconnect"
  | failure => "failure"
  | unknown => "unknown"

@[simp] theorem ofName_name (state : ServiceState) : ofName state.name = state := by
  cases state <;> rfl

def isConnected (state : ServiceState) : Bool := state = ready || state = online

def isConnecting (state : ServiceState) : Bool := state = association || state = configuration

/-- A service in this state is not going to carry traffic unless it is connected again. -/
def isDown (state : ServiceState) : Bool := state = idle || state = failure

def toJson : ServiceState → Json
  | idle => .text "Idle"
  | association => .text "Association"
  | configuration => .text "Configuration"
  | ready => .text "Ready"
  | online => .text "Online"
  | disconnect => .text "Disconnect"
  | failure => .text "Failure"
  | unknown => .text "Unknown"

def ofJson? (json : Json) : Option ServiceState :=
  json.choice?.bind <| Json.plain? [("Idle", idle), ("Association", association),
    ("Configuration", configuration), ("Ready", ready), ("Online", online),
    ("Disconnect", disconnect), ("Failure", failure), ("Unknown", unknown)]

end ServiceState

inductive Security where
  | none | wep | psk | ieee8021x | wps
  | other (text : String)
deriving DecidableEq

namespace Security

def ofName : String → Security
  | "none" => none
  | "wep" => wep
  | "psk" => psk
  | "wpa" => psk
  | "rsn" => psk
  | "ieee8021x" => ieee8021x
  | "wps" => wps
  | text => other text

def name : Security → String
  | none => "none"
  | wep => "wep"
  | psk => "psk"
  | ieee8021x => "ieee8021x"
  | wps => "wps"
  | other text => text

def toJson : Security → Json
  | none => .text "None"
  | wep => .text "Wep"
  | psk => .text "Psk"
  | ieee8021x => .text "Ieee8021x"
  | wps => .text "Wps"
  | other text => .object [("Other", .text text)]

def ofJson? : Json → Option Security :=
  Json.namedOrOther? [("None", none), ("Wep", wep), ("Psk", psk), ("Ieee8021x", ieee8021x),
    ("Wps", wps)] other

end Security

end Uplink
