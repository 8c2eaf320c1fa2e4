import Uplink.Failure
/-!
# The lock of one SIM

The daemon says which credential the SIM waits for and how many attempts are left. Beyond that the
lock has one state of its own: a PUK is of use only together with a new PIN, so a PUK that was typed
in is held until the new PIN comes. Preparing a request never sends anything, and a request that is
refused leaves the lock as it was.
-/

namespace Uplink

/-- A call to the SIM manager, ready to be sent. -/
inductive SimRequest where
  | enter (kind : CredentialKind) (pin : String)
  | reset (pukKind : CredentialKind) (puk newPin : String)
  | change (kind : CredentialKind) (oldPin newPin : String)
deriving DecidableEq

namespace SimRequest

def method : SimRequest → String
  | enter .. => "EnterPin"
  | reset .. => "ResetPin"
  | change .. => "ChangePin"

/-- In the order in which the SIM manager takes them. -/
def arguments : SimRequest → List String
  | enter kind pin => [kind.name, pin]
  | reset pukKind puk newPin => [pukKind.name, puk, newPin]
  | change kind oldPin newPin => [kind.name, oldPin, newPin]

/-- The request as it stands in messages, with its credentials masked. -/
def described : SimRequest → String
  | enter kind _ => s!"EnterPin({kind.name}, ***)"
  | reset pukKind _ _ => s!"ResetPin({pukKind.name}, ***, ***)"
  | change kind _ _ => s!"ChangePin({kind.name}, ***, ***)"

def toJson (request : SimRequest) : Json :=
  .object [("method", .text request.method), ("args", .ofTexts request.arguments),
    ("debug", .text request.described)]

end SimRequest

inductive LockState where
  /-- Nothing is required. -/
  | clear
  | pinRequired (kind : CredentialKind)
  | pukRequired (kind : CredentialKind)
  /-- A PUK of this kind was taken, and the new PIN is awaited. -/
  | newPinRequired (kind : CredentialKind)
  /-- No attempts are left for this kind. -/
  | locked (kind : CredentialKind)
deriving DecidableEq

namespace LockState

def described : LockState → String
  | clear => "None"
  | pinRequired kind => s!"PinRequired({kind.described})"
  | pukRequired kind => s!"PukRequired({kind.described})"
  | newPinRequired kind => s!"NewPinRequired({kind.described})"
  | locked kind => s!"Locked({kind.described})"

def toJson : LockState → Json
  | clear => .ofTexts ["None"]
  | pinRequired kind => .ofTexts ["PinRequired", kind.name]
  | pukRequired kind => .ofTexts ["PukRequired", kind.name]
  | newPinRequired kind => .ofTexts ["NewPinRequired", kind.name]
  | locked kind => .ofTexts ["Locked", kind.name]

def awaitsNewPin : LockState → Bool
  | newPinRequired _ => true
  | _ => false

end LockState

structure SimLock where
  state : LockState := .clear
  /-- The kind of the credential submitted last. -/
  lastKind : Option CredentialKind := none
  pendingPuk : Option String := none
  /-- Cleared by a success. -/
  lastFault : Option CredentialFault := none
deriving DecidableEq

namespace SimLock

instance : Inhabited SimLock := ⟨{}⟩

/-- The state that the daemon's data call for; a PUK that is held for the required kind is kept. -/
def stateFor (state : LockState) (required : Option CredentialKind) (retries : Retries) :
    LockState :=
  match required with
  | none => .clear
  | some kind =>
    if kind.isPuk then
      if retries.get? kind = some 0 then .locked kind
      else if state = .newPinRequired kind then .newPinRequired kind
      else .pukRequired kind
    else .pinRequired kind

/-- Follows the daemon's data. -/
def sync (lock : SimLock) (required : Option CredentialKind) (retries : Retries) : SimLock :=
  let state := stateFor lock.state required retries
  { lock with
    state
    pendingPuk := if state.awaitsNewPin then lock.pendingPuk else none }

def unexpected {α : Type} (lock : SimLock) (reason : String) : Except Failure α :=
  .error (.unexpectedState s!"{reason} (state {lock.state.described})")

/-- Passes on a credential that its kind accepts. -/
def checked (kind : CredentialKind) (text : String) : Except Failure Unit :=
  (kind.validate text).mapError .invalidCredential

/-- Prepares the entry of the PIN that the SIM waits for. -/
def enter (lock : SimLock) (pin : String) : Except Failure (SimLock × SimRequest) :=
  match lock.state with
  | .pinRequired kind => do
    checked kind pin
    .ok ({ lock with lastKind := some kind }, .enter kind pin)
  | _ => lock.unexpected "no PIN is required"

/-- Takes the PUK that the SIM waits for and holds it. -/
def submitPuk (lock : SimLock) (puk : String) : Except Failure SimLock :=
  match lock.state with
  | .pukRequired kind => do
    checked kind puk
    .ok { lock with state := .newPinRequired kind, lastKind := some kind, pendingPuk := some puk }
  | _ => lock.unexpected "no PUK is required"

/-- Prepares the reset of a PIN from the PUK that is held. -/
def reset (lock : SimLock) (newPin : String) : Except Failure SimRequest :=
  match lock.state with
  | .newPinRequired pukKind =>
    match pukKind.resetTarget? with
    | none => lock.unexpected "PUK kind resets no PIN"
    | some target => do
      checked target newPin
      match lock.pendingPuk with
      | none => lock.unexpected "PUK is missing"
      | some puk => .ok (.reset pukKind puk newPin)
  | _ => lock.unexpected "no PUK has been collected"

/-- Prepares the change of a PIN, whatever the SIM waits for. -/
def change (lock : SimLock) (kind : CredentialKind) (oldPin newPin : String) :
    Except Failure (SimLock × SimRequest) :=
  if kind.isPin then do
    checked kind oldPin
    checked kind newPin
    .ok ({ lock with lastKind := some kind }, .change kind oldPin newPin)
  else .error (.unexpectedState s!"{kind.name} cannot be changed")

def succeed (lock : SimLock) (request : SimRequest) : SimLock :=
  let lock := { lock with lastFault := none }
  match request with
  | .enter kind _ => if lock.state = .pinRequired kind then { lock with state := .clear } else lock
  | .reset .. => { lock with state := .clear, pendingPuk := none }
  | .change .. => lock

def fail (lock : SimLock) (request : SimRequest) (fault : CredentialFault) : SimLock :=
  let lock := { lock with lastFault := some fault }
  match request with
  | .reset pukKind _ _ =>
    { lock with
      state := if lock.state = .newPinRequired pukKind then .pukRequired pukKind else lock.state
      pendingPuk := none }
  | _ => lock

/-- Takes the outcome of a request that was sent. The attempts left come from the daemon alone. -/
def complete (lock : SimLock) (request : SimRequest) : Outcome → SimLock
  | .ok () => lock.succeed request
  | .error failure => lock.fail request (.ofFailure failure)

/-- What is known of a value, or that there is none. -/
def describedOption (describe : α → String) : Option α → String
  | some value => s!"Some({describe value})"
  | none => "None"

/-- The lock as it stands in messages, with the PUK masked. -/
def described (lock : SimLock) : String :=
  "PinStateMachine \x7b state: " ++ lock.state.described ++
  ", attempt: PinAttempt \x7b last_pin_type: " ++
  describedOption CredentialKind.described lock.lastKind ++
  ", pending_puk: " ++ describedOption (fun _ ↦ Text.quoted "***") lock.pendingPuk ++
  ", last_error: " ++ describedOption CredentialFault.title lock.lastFault ++ " \x7d \x7d"

/-- The lock as a record, which says only whether a PUK is held. -/
def toJson (lock : SimLock) : Json :=
  .object [("state", lock.state.toJson),
    ("last_error", .ofOption (fun fault ↦ .text fault.message) lock.lastFault),
    ("last_pin_type", .ofOption (fun kind ↦ .text kind.name) lock.lastKind),
    ("pending_puk", .bool lock.pendingPuk.isSome)]

end SimLock

end Uplink
