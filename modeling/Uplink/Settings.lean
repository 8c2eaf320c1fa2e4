import Uplink.Json
import Uplink.Wire.Reading
/-!
# Address and proxy settings

How a service gets its addresses and which proxy it uses. The daemons report and accept both as
dictionaries: a missing entry, an empty text and a value of the wrong type all leave a field out,
and settings with nothing in them are no settings at all. What is written leaves out the same
fields.
-/

namespace Uplink

open Wire (Value Properties)

structure IpSettings where
  method : Option String := none
  address : Option String := none
  netmask : Option String := none
  prefixLength : Option UInt8 := none
  gateway : Option String := none
deriving DecidableEq

namespace IpSettings

def dhcp : IpSettings := { method := "dhcp" }
def auto : IpSettings := { method := "auto" }
def off : IpSettings := { method := "off" }

def manual (address netmask : String) (gateway : Option String) : IpSettings :=
  { method := "manual", address, netmask, gateway }

def manualV6 (address : String) (prefixLength : UInt8) (gateway : Option String) : IpSettings :=
  { method := "manual", address, prefixLength, gateway }

def isEmpty (settings : IpSettings) : Bool :=
  settings.method.isNone && settings.address.isNone && settings.netmask.isNone &&
    settings.prefixLength.isNone && settings.gateway.isNone

def ofProperties (properties : Properties) : IpSettings where
  method := properties.get? "Method" >>= Value.nonemptyText?
  address := properties.get? "Address" >>= Value.nonemptyText?
  netmask := properties.get? "Netmask" >>= Value.nonemptyText?
  prefixLength := properties.get? "PrefixLength" >>= Value.octet?
  gateway := properties.get? "Gateway" >>= Value.nonemptyText?

def ofValue? (value : Value) : Option IpSettings :=
  (value.properties?.map ofProperties).filter fun settings ↦ !settings.isEmpty

def toValue (settings : IpSettings) : Value :=
  .ofProperties <|
    (settings.method.map fun text ↦ ("Method", Value.text text)).toList ++
    (settings.address.map fun text ↦ ("Address", Value.text text)).toList ++
    (settings.netmask.map fun text ↦ ("Netmask", Value.text text)).toList ++
    (settings.prefixLength.map fun length ↦ ("PrefixLength", Value.byte length)).toList ++
    (settings.gateway.map fun text ↦ ("Gateway", Value.text text)).toList

def toJson (settings : IpSettings) : Json :=
  .object [("method", .ofOption .text settings.method),
    ("address", .ofOption .text settings.address),
    ("netmask", .ofOption .text settings.netmask),
    ("prefix_length", .ofOption (fun length ↦ .nat length.toNat) settings.prefixLength),
    ("gateway", .ofOption .text settings.gateway)]

def ofJson? (json : Json) : Option IpSettings := do
  let field ← json.record? ["method", "address", "netmask", "prefix_length", "gateway"]
  let method ← Json.optional Json.text? (field "method")
  let address ← Json.optional Json.text? (field "address")
  let netmask ← Json.optional Json.text? (field "netmask")
  let prefixLength ← Json.optional Json.octet? (field "prefix_length")
  let gateway ← Json.optional Json.text? (field "gateway")
  some { method, address, netmask, prefixLength, gateway }

end IpSettings

structure ProxySettings where
  method : Option String := none
  url : Option String := none
  servers : List String := []
  excludes : List String := []
deriving DecidableEq

namespace ProxySettings

def direct : ProxySettings := { method := "direct" }

def auto (url : Option String) : ProxySettings := { method := "auto", url }

def manual (servers excludes : List String) : ProxySettings :=
  { method := "manual", servers, excludes }

def isEmpty (settings : ProxySettings) : Bool :=
  settings.method.isNone && settings.url.isNone && settings.servers.isEmpty &&
    settings.excludes.isEmpty

def ofProperties (properties : Properties) : ProxySettings where
  method := properties.get? "Method" >>= Value.nonemptyText?
  url := properties.get? "URL" >>= Value.nonemptyText?
  servers := (properties.get? "Servers" >>= Value.texts?).getD []
  excludes := (properties.get? "Excludes" >>= Value.texts?).getD []

def ofValue? (value : Value) : Option ProxySettings :=
  (value.properties?.map ofProperties).filter fun settings ↦ !settings.isEmpty

/-- A list with a name, unless it is empty. -/
def listEntry (name : String) (texts : List String) : List (String × Value) :=
  if texts.isEmpty then [] else [(name, Value.ofTexts texts)]

def toValue (settings : ProxySettings) : Value :=
  .ofProperties <|
    (settings.method.map fun text ↦ ("Method", Value.text text)).toList ++
    (settings.url.map fun text ↦ ("URL", Value.text text)).toList ++
    listEntry "Servers" settings.servers ++
    listEntry "Excludes" settings.excludes

def toJson (settings : ProxySettings) : Json :=
  .object [("method", .ofOption .text settings.method),
    ("url", .ofOption .text settings.url),
    ("servers", .ofTexts settings.servers),
    ("excludes", .ofTexts settings.excludes)]

def ofJson? (json : Json) : Option ProxySettings := do
  let field ← json.record? ["method", "url", "servers", "excludes"]
  let method ← Json.optional Json.text? (field "method")
  let url ← Json.optional Json.text? (field "url")
  let servers ← Json.required Json.texts? (field "servers")
  let excludes ← Json.required Json.texts? (field "excludes")
  some { method, url, servers, excludes }

end ProxySettings

/-- Name servers and the like: an empty list is none. -/
def nonemptyTexts? (value : Value) : Option (List String) :=
  value.texts?.filter fun texts ↦ !texts.isEmpty

end Uplink
