import Uplink.ObjectPath
import Uplink.Overlay
import Uplink.Settings
import Uplink.Service.Kind
/-!
# Services

What is known of one network service. A service that is listed but not yet fetched is provisional:
it has its path and its place in the list, and everything else at rest.
-/

namespace Uplink

structure Service where
  path : ObjectPath
  /-- The place in the manager's list, from zero. -/
  index : Nat
  /-- Whether the properties were fetched at least once. -/
  populated : Bool := false
  name : Option String := none
  kind : Option ServiceKind := none
  state : ServiceState := .idle
  favorite : Bool := false
  autoConnect : Bool := false
  strength : Option UInt8 := none
  security : List Security := []
  passphrase : Option String := none
  passphraseRequired : Bool := false
  setupRequired : Bool := false
  ipv4 : Overlay IpSettings := {}
  ipv6 : Overlay IpSettings := {}
  nameservers : Overlay (List String) := {}
  proxy : Overlay ProxySettings := {}
  immutable : Bool := false
  loginRequired : Bool := false
  macAddress : Option String := none
  error : Option String := none
deriving DecidableEq

namespace Service

def provisional (path : ObjectPath) (index : Nat) : Service := { path, index }

def isVpn (service : Service) : Bool := service.kind = some .vpn

def isCellular (service : Service) : Bool := service.kind = some .cellular

def isConnected (service : Service) : Bool := service.state.isConnected

/-- The first scheme other than the push-button one, else the first. -/
def primarySecurity (service : Service) : Option Security :=
  service.security.find? (· ≠ .wps) <|> service.security.head?

def toJson (service : Service) : Json :=
  .object [("path", .text service.path.text),
    ("index", .nat service.index),
    ("populated", .bool service.populated),
    ("name", .ofOption .text service.name),
    ("service_type", .ofOption ServiceKind.toJson service.kind),
    ("state", service.state.toJson),
    ("favorite", .bool service.favorite),
    ("auto_connect", .bool service.autoConnect),
    ("strength", .ofOption (fun strength ↦ .nat strength.toNat) service.strength),
    ("security", .list (service.security.map Security.toJson)),
    ("passphrase", .ofOption .text service.passphrase),
    ("passphrase_required", .bool service.passphraseRequired),
    ("setup_required", .bool service.setupRequired),
    ("ipv4", service.ipv4.toJson IpSettings.toJson),
    ("ipv6", service.ipv6.toJson IpSettings.toJson),
    ("nameservers", service.nameservers.toJson Json.ofTexts),
    ("proxy", service.proxy.toJson ProxySettings.toJson),
    ("immutable", .bool service.immutable),
    ("login_required", .bool service.loginRequired),
    ("mac_address", .ofOption .text service.macAddress),
    ("error", .ofOption .text service.error)]

def memberNames : List String :=
  ["path", "index", "populated", "name", "service_type", "state", "favorite", "auto_connect",
    "strength", "security", "passphrase", "passphrase_required", "setup_required", "ipv4", "ipv6",
    "nameservers", "proxy", "immutable", "login_required", "mac_address", "error"]

def ofJson? (json : Json) : Option Service := do
  let field ← json.record? memberNames
  let path ← Json.required (fun member ↦ member.text?.bind ObjectPath.parse?) (field "path")
  let index ← Json.required (Json.natBelow? UInt64.size) (field "index")
  let populated ← Json.required Json.bool? (field "populated")
  let name ← Json.optional Json.text? (field "name")
  let kind ← Json.optional ServiceKind.ofJson? (field "service_type")
  let state ← Json.required ServiceState.ofJson? (field "state")
  let favorite ← Json.required Json.bool? (field "favorite")
  let autoConnect ← Json.required Json.bool? (field "auto_connect")
  let strength ← Json.optional Json.octet? (field "strength")
  let security ← Json.required (Json.list? Security.ofJson?) (field "security")
  let passphrase ← Json.optional Json.text? (field "passphrase")
  let passphraseRequired ← Json.required Json.bool? (field "passphrase_required")
  let setupRequired ← Json.required Json.bool? (field "setup_required")
  let ipv4 ← Json.required (Overlay.ofJson? IpSettings.ofJson?) (field "ipv4")
  let ipv6 ← Json.required (Overlay.ofJson? IpSettings.ofJson?) (field "ipv6")
  let nameservers ← Json.required (Overlay.ofJson? Json.texts?) (field "nameservers")
  let proxy ← Json.required (Overlay.ofJson? ProxySettings.ofJson?) (field "proxy")
  let immutable ← Json.required Json.bool? (field "immutable")
  let loginRequired ← Json.required Json.bool? (field "login_required")
  let macAddress ← Json.optional Json.text? (field "mac_address")
  let error ← Json.optional Json.text? (field "error")
  some
    { path, index, populated, name, kind, state, favorite, autoConnect, strength, security,
      passphrase, passphraseRequired, setupRequired, ipv4, ipv6, nameservers, proxy, immutable,
      loginRequired, macAddress, error }

end Service

end Uplink
