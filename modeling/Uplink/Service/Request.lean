import Uplink.Remote.Call
import Uplink.Settings
/-!
# Requests to a service

What can be asked of one service, and the call that asks it. Settings are written as properties in
the form in which the daemon reports them back. No request touches what is known of the service: the
daemon reports every change itself.
-/

namespace Uplink

open Wire (Value)
open Remote (Call)

inductive ServiceRequest where
  | connect
  | disconnect
  /-- Forgets the stored configuration of the service. -/
  | remove
  | set (key : String) (value : Value)
  | clear (key : String)

namespace ServiceRequest

def serviceInterface : String := "net.connman.Service"

def submitPassphrase (passphrase : String) : ServiceRequest := set "Passphrase" (.text passphrase)

def configureIpv4 (settings : IpSettings) : ServiceRequest :=
  set "IPv4.Configuration" settings.toValue

def configureIpv6 (settings : IpSettings) : ServiceRequest :=
  set "IPv6.Configuration" settings.toValue

/-- An empty list returns to the servers that the network names. -/
def configureNameservers (servers : List String) : ServiceRequest :=
  set "Nameservers.Configuration" (.ofTexts servers)

def configureProxy (settings : ProxySettings) : ServiceRequest :=
  set "Proxy.Configuration" settings.toValue

def setAutoConnect (enabled : Bool) : ServiceRequest := set "AutoConnect" (.bool enabled)

/-- The call that asks this of the service. -/
def call (service : String) : ServiceRequest → Call
  | connect =>
    { object := service, interface := serviceInterface, method := "Connect", patience := .connect }
  | disconnect => { object := service, interface := serviceInterface, method := "Disconnect" }
  | remove => { object := service, interface := serviceInterface, method := "Remove" }
  | set key value => .setProperty service serviceInterface key value
  | clear key =>
    { object := service, interface := serviceInterface, method := "ClearProperty",
      args := .texts [key] }

@[simp] theorem expects_call (service : String) (request : ServiceRequest) :
    (request.call service).expects = .nothing := by
  cases request <;> rfl

end ServiceRequest

end Uplink
