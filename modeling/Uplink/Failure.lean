import Uplink.Sim.Credential
/-!
# Why an operation fails

One cause per constructor and one wording, `Failure.message`. A refused SIM call is further told
apart by whose fault it was: the credential itself, its form, or anything else.
-/

namespace Uplink

inductive Failure where
  /-- The message could not be exchanged. -/
  | bus (text : String)
  /-- A value is not what it has to be. -/
  | value (text : String)
  /-- The daemon answered with an error. -/
  | refused (name : String) (text : Option String)
  | timeout
  | unknownService (path : String)
  | unknownModem (path : String)
  | noSimManager (path : String)
  | noConnectionManager (path : String)
  | unexpectedState (reason : String)
  | invalidCredential (cause : CredentialError)
  | unsupportedArguments (method : String)
  | contextSetup (reason : String)
  | stopped
deriving DecidableEq

namespace Failure

def message : Failure → String
  | bus text => s!"D-Bus error: {text}"
  | value text => s!"variant error: {text}"
  | refused name none => s!"method call failed: {name}"
  | refused name (some text) => s!"method call failed: {name} ({text})"
  | timeout => "call timed out"
  | unknownService path => s!"unknown service: {path}"
  | unknownModem path => s!"unknown modem: {path}"
  | noSimManager path => s!"modem {path} has no SIM manager"
  | noConnectionManager path => s!"modem {path} has no connection manager"
  | unexpectedState reason => s!"unexpected credential state: {reason}"
  | invalidCredential cause => s!"invalid credential: {cause.message}"
  | unsupportedArguments method => s!"unsupported arguments for {method}"
  | contextSetup reason => s!"cellular context setup failed: {reason}"
  | stopped => "engine stopped"

/-- The word under which records list the failure. -/
def kind : Failure → String
  | bus _ => "Dbus"
  | value _ => "Variant"
  | refused .. => "MethodFailed"
  | timeout => "Timeout"
  | unknownService _ => "UnknownService"
  | unknownModem _ => "UnknownModem"
  | noSimManager _ => "NoSimManager"
  | noConnectionManager _ => "NoConnectionManager"
  | unexpectedState _ => "UnexpectedPinState"
  | invalidCredential _ => "InvalidPin"
  | unsupportedArguments _ => "UnsupportedArguments"
  | contextSetup _ => "ContextSetup"
  | stopped => "EngineStopped"

def toJson (failure : Failure) : Json :=
  .object [("error", .text failure.kind), ("message", .text failure.message)]

/-- A text that names no object. -/
def invalidPath : Failure := value "Invalid object path"

end Failure

/-- Whose fault a failed credential operation was. -/
inductive CredentialFault where
  | wrong | malformed | other
deriving DecidableEq

namespace CredentialFault

/-- By the name of the telephony daemon's error. -/
def ofErrorName : String → CredentialFault
  | "org.ofono.Error.IncorrectPassword" => wrong
  | "org.ofono.Error.Failed" => wrong
  | "org.ofono.Error.InvalidFormat" => malformed
  | "org.ofono.Error.InvalidArguments" => malformed
  | _ => other

def ofFailure : Failure → CredentialFault
  | .refused name _ => ofErrorName name
  | .invalidCredential _ => malformed
  | _ => other

def message : CredentialFault → String
  | wrong => "wrong credential"
  | malformed => "malformed credential"
  | other => "other error"

def title : CredentialFault → String
  | wrong => "WrongCredential"
  | malformed => "MalformedCredential"
  | other => "Other"

def toJson (fault : CredentialFault) : Json := .text fault.title

def ofJson? (json : Json) : Option CredentialFault :=
  json.choice?.bind <| Json.plain? [("WrongCredential", wrong), ("MalformedCredential", malformed),
    ("Other", other)]

end CredentialFault

/-- The outcome of an operation that answers nothing but that it was done. -/
abbrev Outcome := Except Failure Unit

end Uplink
