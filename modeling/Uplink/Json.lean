/-!
# Stored records

The tree in which records are stored and read back. A record is stored as an object of named
members; reading also accepts the list of all members in order. Members that a record does not
know are ignored, an optional member may be left out of an object or be null, and a plain
alternative of a choice is stored as its name. Reading answers `none` for any tree of another
form.
-/

namespace Uplink

inductive Json where
  | null
  | bool (value : Bool)
  /-- An integer divided by a power of ten; a whole number has no decimals. -/
  | number (mantissa : Int) (decimals : Nat)
  | text (value : String)
  | list (items : List Json)
  | object (members : List (String × Json))

namespace Json

instance : Inhabited Json := ⟨null⟩

def nat (value : Nat) : Json := number value 0

def ofOption {α : Type} (store : α → Json) : Option α → Json
  | some value => store value
  | none => null

def ofTexts (texts : List String) : Json := list (texts.map text)

def bool? : Json → Option Bool
  | bool value => some value
  | _ => none

def text? : Json → Option String
  | text value => some value
  | _ => none

/-- A whole number below the bound. -/
def natBelow? (bound : Nat) : Json → Option Nat
  | number (.ofNat value) 0 => if value < bound then some value else none
  | _ => none

/-- A whole number whose distance from zero is below the bound, or that lies at the bound below
zero. -/
def intBelow? (bound : Int) : Json → Option Int
  | number value 0 => if -bound ≤ value ∧ value < bound then some value else none
  | _ => none

def octet? (json : Json) : Option UInt8 := (json.natBelow? UInt8.size).map Nat.toUInt8

def list? {α : Type} (read : Json → Option α) : Json → Option (List α)
  | list items => items.mapM read
  | _ => none

def texts? : Json → Option (List String) := list? text?

/-- Looks the members of a record up by name. -/
def record? (names : List String) : Json → Option (String → Option Json)
  | object members => some fun name ↦ members.lookup name
  | list items =>
    if items.length = names.length then some fun name ↦ (names.zip items).lookup name else none
  | _ => none

def required {α : Type} (read : Json → Option α) (member : Option Json) : Option α :=
  member.bind read

/-- A member that may be left out or null. -/
def optional {α : Type} (read : Json → Option α) : Option Json → Option (Option α)
  | none => some none
  | some null => some none
  | some json => (read json).map some

/-- The name of the chosen alternative, and what is stored with it. -/
def choice? : Json → Option (String × Option Json)
  | text name => some (name, none)
  | object [(name, payload)] => some (name, some payload)
  | _ => none

/-- The plain alternative with this name; it may be stored with a null. -/
def plain? {α : Type} (alternatives : List (String × α)) (choice : String × Option Json) :
    Option α :=
  match choice.2 with
  | none | some null => alternatives.lookup choice.1
  | some _ => none

/-- A choice between named plain alternatives and any other text under the name `Other`. -/
def namedOrOther? {α : Type} (alternatives : List (String × α)) (other : String → α) (json : Json) :
    Option α := do
  let choice ← json.choice?
  if choice.1 = "Other" then (choice.2.bind text?).map other else plain? alternatives choice

end Json

end Uplink
