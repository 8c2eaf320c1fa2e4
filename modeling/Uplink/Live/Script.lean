import Uplink.Live.Client
/-!
# Daemons that follow a script

What the two daemons answer on a bus that exists on paper only. A script says which objects there
are and what they answer, which of the next calls are refused or answered otherwise, and which
calls are left without an answer for now. Of the calls under way, the first by path, interface and
method is answered, and among equals the one that was made first.
-/

namespace Uplink.Live

open Wire (Value Properties Scalar)

/-- A method of an object, whatever its interface. -/
structure Endpoint where
  path : String
  method : String
deriving DecidableEq

structure Script where
  /-- The properties of objects, by path and interface. -/
  objects : List ((String × String) × Properties) := []
  children : List (Endpoint × List (ObjectPath × Properties)) := []
  /-- The next call of a method is refused with this error and text. -/
  refusals : List (Endpoint × String × Option String) := []
  /-- The next call of a method is answered with these values. -/
  replies : List (Endpoint × List Value) := []
  /-- The paths of contexts that are going to be created. -/
  paths : List ObjectPath := []
  /-- Methods whose calls are left without an answer. -/
  held : List Endpoint := []

/-- A measure added up over a list. -/
def total {α : Type} (measure : α → Nat) (items : List α) : Nat :=
  items.foldl (fun sum item ↦ sum + measure item) 0

namespace Script

/-- Adds the entries of another script; what it says of an object replaces what was said before. -/
def extend (script more : Script) : Script where
  objects :=
    script.objects.filter (fun entry ↦ (more.objects.lookup entry.1).isNone) ++ more.objects
  children :=
    script.children.filter (fun entry ↦ (more.children.lookup entry.1).isNone) ++ more.children
  refusals := script.refusals ++ more.refusals
  replies := script.replies ++ more.replies
  paths := script.paths ++ more.paths
  held := script.held ++ more.held

def hold (script : Script) (endpoint : Endpoint) : Script :=
  { script with held := endpoint :: script.held }

def release (script : Script) (endpoint : Endpoint) : Script :=
  { script with held := script.held.filter (· ≠ endpoint) }

/-- A property map as a value. -/
def propertiesValue (properties : Properties) : Value := .ofProperties properties.entries

def childrenValue (children : List (ObjectPath × Properties)) : Value :=
  .array (.struct [.scalar .path, .dict .text .variant])
    (children.map fun child ↦ .struct [.path child.1, propertiesValue child.2])

/-- The entry for a method, and the rest without it. -/
def takeFirst? {α : Type} (endpoint : Endpoint) :
    List (Endpoint × α) → Option (α × List (Endpoint × α))
  | [] => none
  | entry :: rest =>
    if entry.1 = endpoint then some (entry.2, rest)
    else (takeFirst? endpoint rest).map fun (found, others) ↦ (found, entry :: others)

/-- The last entry for a key, since later ones replace earlier ones. -/
def latest? {κ α : Type} [BEq κ] (key : κ) (entries : List (κ × α)) : Option α :=
  entries.reverse.lookup key

def endpoint (call : Remote.Call) : Endpoint := ⟨call.object, call.method⟩

/-- What a call is answered when nothing else was asked for. -/
def usual (script : Script) (call : Remote.Call) : Except Failure (List Value) × Script :=
  match call.method with
  | "GetProperties" =>
    match latest? (call.object, call.interface) script.objects with
    | some properties => (.ok [propertiesValue properties], script)
    | none =>
      (.error (.refused "org.freedesktop.DBus.Error.UnknownObject" (some "no such object")), script)
  | "GetModems" | "GetContexts" =>
    (.ok [childrenValue ((latest? (endpoint call) script.children).getD [])], script)
  | "AddContext" =>
    match script.paths with
    | path :: paths => (.ok [.path path], { script with paths })
    | [] => (.error (.refused "org.ofono.Error.Failed" none), script)
  | _ => (.ok [], script)

/-- Answers a call: a refusal comes first, then a reply that was prepared. -/
def answer (script : Script) (call : Remote.Call) : Except Failure (List Value) × Script :=
  match takeFirst? (endpoint call) script.refusals with
  | some ((error, text), refusals) => (.error (.refused error text), { script with refusals })
  | none =>
    match takeFirst? (endpoint call) script.replies with
    | some (body, replies) => (.ok body, { script with replies })
    | none => script.usual call

/-- A bound on how many calls the script's values can lead to. -/
def size (script : Script) : Nat :=
  total (fun entry ↦ (propertiesValue entry.2).size) script.objects +
    total (fun entry ↦ (childrenValue entry.2).size) script.children +
    total (fun entry ↦ Value.sizes entry.2) script.replies

end Script

end Uplink.Live
