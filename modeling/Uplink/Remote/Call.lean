import Uplink.Failure
import Uplink.Wire.Notation
/-!
# Calls to remote objects

A call names the object, the interface and the method, the arguments, how long the caller is ready
to wait, and what kind of answer is expected. An answer of another kind is not accepted:
`Shape.read?` takes the values of a reply apart by the expected kind.
-/

namespace Uplink.Remote

open Wire (Value Properties Scalar)

inductive CallArgs where
  | none
  | texts (texts : List String)
  | path (path : ObjectPath)
  /-- A property and its new value. -/
  | property (key : String) (value : Value)

namespace CallArgs

def count : CallArgs → Nat
  | none => 0
  | texts items => items.length
  | path _ => 1
  | property .. => 2

/-- The text of a value that is a plain text, path or truth value. -/
def plainText? : Value → Option String
  | .scalar (.text text) => some text
  | .scalar (.path object) => some object.text
  | .scalar (.bool value) => some (if value then "true" else "false")
  | _ => .none

/-- The arguments as texts, unless there is a value among them that is not plain. -/
def rendered? : CallArgs → Option (List String)
  | none => some []
  | texts items => some items
  | path object => some [object.text]
  | property key value => (plainText? value).map fun text ↦ [key, text]

/-- The first argument, which is always a text. -/
def first? : CallArgs → Option String
  | none => .none
  | texts items => items.head?
  | path object => some object.text
  | property key _ => some key

/-- The arguments as the values of a message. -/
def body : CallArgs → List Value
  | none => []
  | texts items => items.map .text
  | path object => [.path object]
  | property key value => [.text key, .variant value]

def toJson : CallArgs → Json
  | none => .list []
  | texts items => .ofTexts items
  | path object => .list [.object [("o", .text object.text)]]
  | property key value => .list [.text key, value.toJson]

/-- Arguments that are left out are none. -/
def ofJson? : Json → Option CallArgs
  | .null => some none
  | .list [.object [("o", object)]] => (object.text?.bind ObjectPath.parse?).map path
  | .list [.text key, .object members] => (Value.ofJson? (.object members)).map (property key)
  | json => json.texts?.map texts

end CallArgs

/-- How long to wait for an answer. -/
inductive Patience where
  | default
  /-- For a call that is answered only when a connection came about or failed. -/
  | connect
deriving DecidableEq

namespace Patience

def name : Patience → String
  | default => "Default"
  | connect => "Connect"

end Patience

/-- What a reply has to hold. -/
inductive Shape where
  | nothing | path | properties | children
deriving DecidableEq

namespace Shape

/-- What is learnt from a reply of this shape. -/
abbrev Answer : Shape → Type
  | nothing => Unit
  | path => ObjectPath
  | properties => Properties
  | children => List (ObjectPath × Properties)

/-- The entries of a dictionary of variants, out of their variants. -/
def propertyMap? : Value → Option Properties
  | .dict .text .variant entries => (entries.mapM entry?).map .ofPairs
  | _ => none
where
  entry? : Scalar × Value → Option (String × Value)
    | (.text key, .variant value) => some (key, value)
    | _ => none

def child? : Value → Option (ObjectPath × Properties)
  | .struct [.scalar (.path object), held] => (propertyMap? held).map fun map ↦ (object, map)
  | _ => none

/-- Takes the values of a reply apart. -/
def read? : (shape : Shape) → List Value → Option shape.Answer
  | nothing, [] => some ()
  | path, [.scalar (.path object)] => some object
  | properties, [value] => propertyMap? value
  | children, [.array (.struct [.scalar .path, .dict .text .variant]) items] => items.mapM child?
  | _, _ => none

end Shape

structure Call where
  /-- The name of the object; on a live bus it is a path. -/
  object : String
  interface : String
  method : String
  args : CallArgs := .none
  patience : Patience := .default
  expects : Shape := .nothing

namespace Call

def getProperties (object interface : String) : Call :=
  { object, interface, method := "GetProperties", expects := .properties }

def setProperty (object interface key : String) (value : Value) : Call :=
  { object, interface, method := "SetProperty", args := .property key value }

end Call

end Uplink.Remote
