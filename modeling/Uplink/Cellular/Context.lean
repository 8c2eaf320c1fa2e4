import Uplink.Failure
/-!
# Cellular contexts

The bearers that a modem can set up, each with an access point and credentials. A context is read
from its properties; what is missing or of the wrong type is absent or empty.
-/

namespace Uplink

open Wire (Value Properties)

/-- Access point and credentials of a context. -/
structure ContextSettings where
  name : Option String := none
  accessPointName : String := ""
  username : String := ""
  password : String := ""
deriving DecidableEq

namespace ContextSettings

def toJson (settings : ContextSettings) : Json :=
  .object [("name", .ofOption .text settings.name),
    ("access_point_name", .text settings.accessPointName),
    ("username", .text settings.username),
    ("password", .text settings.password)]

def ofJson? (json : Json) : Option ContextSettings := do
  let field ← json.record? ["name", "access_point_name", "username", "password"]
  let name ← Json.optional Json.text? (field "name")
  let accessPointName ← Json.required Json.text? (field "access_point_name")
  let username ← Json.required Json.text? (field "username")
  let password ← Json.required Json.text? (field "password")
  some { name, accessPointName, username, password }

/-- The properties that a context needs for these settings, in the order in which they are written.
-/
def properties (settings : ContextSettings) : List (String × String) :=
  (settings.name.map fun name ↦ ("Name", name)).toList ++
    [("AccessPointName", settings.accessPointName), ("Username", settings.username),
      ("Password", settings.password)]

end ContextSettings

structure CellularContext where
  path : ObjectPath
  kind : Option String := none
  active : Bool := false
  settings : ContextSettings := {}
deriving DecidableEq

namespace CellularContext

/-- The kind of a context that carries general traffic. -/
def internetKind : String := "internet"

def isInternet (context : CellularContext) : Bool := context.kind == some internetKind

/-- Whether access point, user name and password are all empty. -/
def isUnconfigured (context : CellularContext) : Bool :=
  context.settings.accessPointName.isEmpty && context.settings.username.isEmpty &&
    context.settings.password.isEmpty

def ofProperties (path : ObjectPath) (properties : Properties) : CellularContext where
  path
  kind := properties.get? "Type" >>= Value.nonemptyText?
  active := (properties.get? "Active" >>= Value.bool?).getD false
  settings :=
    { name := properties.get? "Name" >>= Value.nonemptyText?
      accessPointName := (properties.get? "AccessPointName" >>= Value.text?).getD ""
      username := (properties.get? "Username" >>= Value.text?).getD ""
      password := (properties.get? "Password" >>= Value.text?).getD "" }

/-- The first context that carries general traffic. -/
def internet? (contexts : List CellularContext) : Option CellularContext :=
  contexts.find? isInternet

def toJson (context : CellularContext) : Json :=
  .object [("path", .text context.path.text),
    ("context_type", .ofOption .text context.kind),
    ("active", .bool context.active),
    ("settings", context.settings.toJson)]

def ofJson? (json : Json) : Option CellularContext := do
  let field ← json.record? ["path", "context_type", "active", "settings"]
  let path ← Json.required (fun member ↦ member.text?.bind ObjectPath.parse?) (field "path")
  let kind ← Json.optional Json.text? (field "context_type")
  let active ← Json.required Json.bool? (field "active")
  let settings ← Json.required ContextSettings.ofJson? (field "settings")
  some { path := path, kind, active, settings }

end CellularContext

end Uplink
