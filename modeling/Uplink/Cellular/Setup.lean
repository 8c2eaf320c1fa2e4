import Uplink.Cellular.Wizard
import Uplink.Remote.Dialogue
/-!
# Operations on cellular contexts

The calls behind the operations on a modem's contexts: listing them, finding the one for general
traffic, removing one, and bringing the internet context to given settings as the wizard directs.
The first call that fails ends the operation with its failure.
-/

namespace Uplink.Cellular

open Remote (Dialogue Call)

def managerInterface : String := "org.ofono.ConnectionManager"
def contextInterface : String := "org.ofono.ConnectionContext"

def getContexts (manager : String) : Call :=
  { object := manager, interface := managerInterface, method := "GetContexts",
    expects := .children }

def addContext (manager : String) : Call :=
  { object := manager, interface := managerInterface, method := "AddContext",
    args := .texts [CellularContext.internetKind], expects := .path }

def removeCall (manager : String) (context : ObjectPath) : Call :=
  { object := manager, interface := managerInterface, method := "RemoveContext",
    args := .path context }

def setContextProperty (context : ObjectPath) (property : String × String) : Call :=
  .setProperty context.text contextInterface property.1 (.text property.2)

def listContexts (manager : String) : Dialogue (List CellularContext) :=
  .call (getContexts manager) fun answer ↦
    .done (answer.map fun children ↦ children.map fun child ↦ .ofProperties child.1 child.2)

def internetContext (manager : String) : Dialogue (Option CellularContext) := do
  let contexts ← listContexts manager
  return CellularContext.internet? contexts

def removeContext (manager : String) (context : ObjectPath) : Dialogue Unit :=
  .ask (removeCall manager context)

/-- Writes the properties of a context one after the other. -/
def writeProperties (context : ObjectPath) : List (String × String) → Dialogue Unit
  | [] => pure ()
  | property :: rest => do
    Dialogue.ask (setContextProperty context property)
    writeProperties context rest

/-- Does what the wizard asks for, and reports it. -/
def perform (manager : String) : ContextWizard.Action → Dialogue ContextWizard.Report
  | .listContexts => do
    let contexts ← listContexts manager
    return .listed contexts
  | .createContext => do
    let context ← Dialogue.ask (addContext manager)
    return .created context
  | .configure context properties => do
    Dialogue.opened context
    writeProperties context properties
    return .configured
  | .finished _ => return .configured

/-- Follows the wizard for at most so many operations. -/
def follow (manager : String) :
    Nat → ContextWizard × Except Failure ContextWizard.Action → Dialogue ObjectPath
  | _, (_, .error failure) => .fail failure
  | _, (_, .ok (.finished context)) => pure context
  | 0, (_, .ok _) => .fail (.contextSetup "too many operations")
  | operations + 1, (wizard, .ok action) => do
    let report ← perform manager action
    follow manager operations (wizard.handle report)

/-- Finds or creates the internet context and writes the settings. A wizard asks for three
operations at most: the listing, the creation and the configuration. -/
def setupInternetContext (manager : String) (settings : ContextSettings) : Dialogue ObjectPath :=
  follow manager 3 ({ settings } : ContextWizard).start

end Uplink.Cellular
