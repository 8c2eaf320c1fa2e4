import Uplink.Service.Record
/-!
# Properties of a service

How each property that the network daemon reports enters the record of a service. Properties are
independent of one another, and one that is not known changes nothing. A value of the wrong type
leaves its part of the record as a provisional service has it, except that a state that cannot be
read is unknown.
-/

namespace Uplink

open Wire (Value Properties)

namespace Service

/-- The hardware address in the dictionary that describes a link. -/
def linkAddress? (value : Value) : Option String :=
  value.properties?.bind fun properties ↦ properties.get? "Address" >>= Value.nonemptyText?

def setProperty (service : Service) (key : String) (value : Value) : Service :=
  match key with
  | "Name" => { service with name := value.nonemptyText? }
  | "Type" => { service with kind := value.text?.map .ofName }
  | "State" => { service with state := value.text?.elim .unknown .ofName }
  | "Favorite" => { service with favorite := value.bool?.getD false }
  | "AutoConnect" => { service with autoConnect := value.bool?.getD false }
  | "Strength" => { service with strength := value.octet? }
  | "Security" => { service with security := (value.texts?.getD []).map .ofName }
  | "Passphrase" => { service with passphrase := value.nonemptyText? }
  | "PassphraseRequired" => { service with passphraseRequired := value.bool?.getD false }
  | "SetupRequired" => { service with setupRequired := value.bool?.getD false }
  | "IPv4" => { service with ipv4 := service.ipv4.setEffective (IpSettings.ofValue? value) }
  | "IPv4.Configuration" =>
    { service with ipv4 := service.ipv4.setConfigured (IpSettings.ofValue? value) }
  | "IPv6" => { service with ipv6 := service.ipv6.setEffective (IpSettings.ofValue? value) }
  | "IPv6.Configuration" =>
    { service with ipv6 := service.ipv6.setConfigured (IpSettings.ofValue? value) }
  | "Nameservers" =>
    { service with nameservers := service.nameservers.setEffective (nonemptyTexts? value) }
  | "Nameservers.Configuration" =>
    { service with nameservers := service.nameservers.setConfigured (nonemptyTexts? value) }
  | "Proxy" => { service with proxy := service.proxy.setEffective (ProxySettings.ofValue? value) }
  | "Proxy.Configuration" =>
    { service with proxy := service.proxy.setConfigured (ProxySettings.ofValue? value) }
  | "Immutable" => { service with immutable := value.bool?.getD false }
  | "LoginRequired" => { service with loginRequired := value.bool?.getD false }
  | "Ethernet" => { service with macAddress := linkAddress? value }
  | "Error" => { service with error := value.nonemptyText? }
  | _ => service

/-- Takes properties one after the other. -/
def setProperties (service : Service) (properties : List (String × Value)) : Service :=
  properties.foldl (fun service property ↦ service.setProperty property.1 property.2) service

end Service

end Uplink
