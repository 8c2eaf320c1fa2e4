import Uplink.Cellular.Context
import Uplink.Text.Blank
/-!
# Setting up an internet context

The order of the operations that bring a modem's internet context to given settings: list the
contexts, create one if none carries general traffic, and write the settings. The wizard only says
what comes next; each report of what was done has to fit, and one that does not makes the wizard
fail for good.
-/

namespace Uplink

namespace ContextWizard

inductive State where
  | idle
  | listing
  | creating
  | configuring (context : ObjectPath)
  | done (context : ObjectPath)
  | failed (reason : String)
deriving DecidableEq

namespace State

def describedPath (path : ObjectPath) : String :=
  s!"OwnedObjectPath(ObjectPath({Text.quoted path.text}))"

/-- The state as it stands in messages. -/
def described : State → String
  | idle => "Idle"
  | listing => "ListingContexts"
  | creating => "Creating"
  | configuring context => s!"Configuring({describedPath context})"
  | done context => s!"Done({describedPath context})"
  | failed reason => s!"Failed({Text.quoted reason})"

def toJson : State → Json
  | idle => .text "Idle"
  | listing => .text "ListingContexts"
  | creating => .text "Creating"
  | configuring context => .object [("Configuring", .text context.text)]
  | done context => .object [("Done", .text context.text)]
  | failed reason => .object [("Failed", .text reason)]

end State

/-- The operation that comes next. -/
inductive Action where
  | listContexts
  | createContext
  | configure (context : ObjectPath) (properties : List (String × String))
  | finished (context : ObjectPath)
deriving DecidableEq

namespace Action

def toJson : Action → Json
  | listContexts => .text "ListContexts"
  | createContext => .text "CreateContext"
  | configure context properties =>
    .object [("Configure", .text context.text),
      ("properties", .list (properties.map fun property ↦ .ofTexts [property.1, property.2]))]
  | finished context => .object [("Finished", .text context.text)]

end Action

/-- What the wizard is told. -/
inductive Report where
  | start
  | listed (contexts : List CellularContext)
  | created (context : ObjectPath)
  | configured
  | failed (reason : String)
deriving DecidableEq

end ContextWizard

structure ContextWizard where
  settings : ContextSettings
  state : ContextWizard.State := .idle
deriving DecidableEq

namespace ContextWizard

def fail (wizard : ContextWizard) (reason : String) : ContextWizard × Except Failure Action :=
  ({ wizard with state := .failed reason }, .error (.contextSetup reason))

/-- Goes on only from this state. -/
def expecting (wizard : ContextWizard) (state : State)
    (next : ContextWizard × Except Failure Action) : ContextWizard × Except Failure Action :=
  if wizard.state = state then next
  else wizard.fail s!"expected {state.described}, wizard is {wizard.state.described}"

def configure (wizard : ContextWizard) (context : ObjectPath) :
    ContextWizard × Except Failure Action :=
  ({ wizard with state := .configuring context },
    .ok (.configure context wizard.settings.properties))

def start (wizard : ContextWizard) : ContextWizard × Except Failure Action :=
  wizard.expecting .idle <|
    if Text.isBlank wizard.settings.accessPointName then wizard.fail "access point name is empty"
    else ({ wizard with state := .listing }, .ok .listContexts)

/-- Takes the first context that carries general traffic, or asks for a new one. -/
def contextsListed (wizard : ContextWizard) (contexts : List CellularContext) :
    ContextWizard × Except Failure Action :=
  wizard.expecting .listing <|
    match CellularContext.internet? contexts with
    | some context => wizard.configure context.path
    | none => ({ wizard with state := .creating }, .ok .createContext)

def contextCreated (wizard : ContextWizard) (context : ObjectPath) :
    ContextWizard × Except Failure Action :=
  wizard.expecting .creating (wizard.configure context)

def configured (wizard : ContextWizard) : ContextWizard × Except Failure Action :=
  match wizard.state with
  | .configuring context => ({ wizard with state := .done context }, .ok (.finished context))
  | _ => wizard.fail "context was not being configured"

def handle (wizard : ContextWizard) : Report → ContextWizard × Except Failure Action
  | .start => wizard.start
  | .listed contexts => wizard.contextsListed contexts
  | .created context => wizard.contextCreated context
  | .configured => wizard.configured
  | .failed reason => wizard.fail reason

end ContextWizard

end Uplink
