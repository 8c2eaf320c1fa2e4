import Uplink.Remote.Dialogue
/-!
# Rehearsed objects

Remote objects that exist on paper only: each keeps the calls made to it, answers out of what was
prepared, and refuses the next call to a method where that was asked for. A path is answered once
for each that was queued; children and properties are answered as often as they are asked for.
-/

namespace Uplink.Remote

open Wire (Value Properties)

/-- A call as it was made to an object. -/
structure RecordedCall where
  object : String
  method : String
  args : CallArgs
  patience : Patience

/-- What was prepared for one object, and the calls made to it. -/
structure RehearsedObject where
  properties : Properties := ∅
  /-- The methods whose next call is refused, with the names of the errors. -/
  refusals : SortedMap String String := ∅
  paths : List ObjectPath := []
  children : List (ObjectPath × Properties) := []
  calls : List RecordedCall := []

namespace RehearsedObject

instance : Inhabited RehearsedObject := ⟨{}⟩

def setProperty (object : RehearsedObject) (key : String) (value : Value) : RehearsedObject :=
  { object with properties := object.properties.set key value }

def refuseNext (object : RehearsedObject) (method error : String) : RehearsedObject :=
  { object with refusals := object.refusals.insert method error }

def queuePath (object : RehearsedObject) (path : ObjectPath) : RehearsedObject :=
  { object with paths := object.paths ++ [path] }

def addChild (object : RehearsedObject) (path : ObjectPath) (properties : Properties) :
    RehearsedObject :=
  { object with children := object.children ++ [(path, properties)] }

def methods (object : RehearsedObject) : List String := object.calls.map (·.method)

def lastCall? (object : RehearsedObject) : Option RecordedCall := object.calls.getLast?

/-- The answer that was prepared for a kind of reply. -/
def prepared (object : RehearsedObject) (method : String) :
    (shape : Shape) → Except Failure shape.Answer × RehearsedObject
  | .nothing => (.ok (), object)
  | .properties => (.ok object.properties, object)
  | .children => (.ok object.children, object)
  | .path =>
    match object.paths with
    | path :: paths => (.ok path, { object with paths })
    | [] =>
      (.error (.refused "org.freedesktop.DBus.Error.NoReply"
        (some s!"no reply queued for {method}")), object)

/-- Notes the call, then refuses or answers it. -/
def answer (object : RehearsedObject) (call : Call) :
    Except Failure call.expects.Answer × RehearsedObject :=
  let made : RecordedCall :=
    { object := call.object, method := call.method, args := call.args, patience := call.patience }
  let object := { object with calls := object.calls ++ [made] }
  match object.refusals.get? call.method with
  | some error =>
    (.error (.refused error none), { object with refusals := object.refusals.erase call.method })
  | none => object.prepared call.method call.expects

end RehearsedObject

/-- All objects of a rehearsal, and every call in the order in which they were made. -/
structure Rehearsal where
  objects : SortedMap String RehearsedObject := ∅
  log : List RecordedCall := []
  /-- Why objects cannot be reached, if they cannot. -/
  unreachable : Option Failure := none

namespace Rehearsal

/-- The object with this name; one that was not prepared is blank. -/
def object (rehearsal : Rehearsal) (name : String) : RehearsedObject :=
  (rehearsal.objects.get? name).getD {}

def put (rehearsal : Rehearsal) (name : String) (object : RehearsedObject) : Rehearsal :=
  { rehearsal with objects := rehearsal.objects.insert name object }

def modify (rehearsal : Rehearsal) (name : String) (change : RehearsedObject → RehearsedObject) :
    Rehearsal :=
  rehearsal.put name (change (rehearsal.object name))

def party : Party Rehearsal where
  answer call rehearsal :=
    let (answer, object) := (rehearsal.object call.object).answer call
    let made := object.lastCall?.toList
    (answer, { rehearsal.put call.object object with log := rehearsal.log ++ made })
  reach path rehearsal :=
    match rehearsal.unreachable with
    | some failure => (.error failure, rehearsal)
    | none => (.ok (), rehearsal.put path.text (rehearsal.object path.text))

/-- Follows a dialogue to its end. -/
def follow {α : Type} (rehearsal : Rehearsal) (dialogue : Dialogue α) :
    Except Failure α × Rehearsal :=
  dialogue.run party rehearsal

end Rehearsal

end Uplink.Remote
