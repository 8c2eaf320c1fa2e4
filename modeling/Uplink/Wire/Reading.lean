import Uplink.Wire.Properties
/-!
# Reading values

What a value means where a text, a truth value, a small number, a list or a dictionary is expected.
Every reading looks through the variant layers around the value, around the items of an array and
around the values of a dictionary, and answers `none` for a value of another shape, so that one
malformed property never spoils the rest of a report.
-/

namespace Uplink.Wire.Value

/-- The scalar inside the variant layers. -/
def scalar? (value : Value) : Option Scalar :=
  match value.peel with
  | .scalar held => some held
  | _ => none

/-- The text of a string or of an object path. -/
def text? (value : Value) : Option String := value.scalar?.bind Scalar.text?

/-- A text that is not empty. -/
def nonemptyText? (value : Value) : Option String := value.text?.filter (· ≠ "")

def bool? (value : Value) : Option Bool := value.scalar?.bind Scalar.bool?

/-- An unsigned number of up to 32 bits, if it fits into eight. -/
def octet? (value : Value) : Option UInt8 := value.scalar?.bind Scalar.octet?

def items? (value : Value) : Option (List Value) :=
  match value.peel with
  | .array _ items => some items
  | _ => none

/-- The texts in an array; items of another type are skipped. -/
def texts? (value : Value) : Option (List String) := value.items?.map (·.filterMap text?)

/-- The object paths in an array; items that hold no valid path are skipped. -/
def paths? (value : Value) : Option (List ObjectPath) :=
  value.items?.map (·.filterMap fun item ↦ item.scalar?.bind Scalar.path?)

/-- The entries of a dictionary keyed by texts or paths; entries with other keys are skipped. -/
def properties? (value : Value) : Option Properties :=
  match value.peel with
  | .dict _ _ entries =>
    some (.ofPairs (entries.filterMap fun entry ↦ entry.1.text?.map fun key ↦ (key, entry.2)))
  | _ => none

def ofTexts (texts : List String) : Value := .array (.scalar .text) (texts.map .text)

/-- A dictionary of variants, as the daemons report and accept properties. -/
def ofProperties (entries : List (String × Value)) : Value :=
  ofEntries .text .variant (entries.map fun entry ↦ (.text entry.1, .variant entry.2))

@[simp] theorem scalar?_variant (inner : Value) : (variant inner).scalar? = inner.scalar? := by
  simp [scalar?]

@[simp] theorem text?_text (text : String) : (Value.text text).text? = some text := by
  simp [text?, scalar?, peel, Scalar.text?]

@[simp] theorem bool?_bool (value : Bool) : (Value.bool value).bool? = some value := by
  simp [bool?, scalar?, peel, Scalar.bool?]

@[simp] theorem octet?_byte (value : UInt8) : (Value.byte value).octet? = some value := by
  simp [octet?, scalar?, peel, Scalar.octet?]

@[simp] theorem texts?_ofTexts (texts : List String) : (ofTexts texts).texts? = some texts := by
  have readBack : text? ∘ Value.text = some := funext text?_text
  simp only [texts?, items?, ofTexts, peel, Option.map_some, List.filterMap_map, readBack,
    List.filterMap_some]

end Uplink.Wire.Value
