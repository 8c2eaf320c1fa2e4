import Uplink.Json
import Uplink.Wire.Properties
/-!
# Writing values down

Values as records: an object whose one member is named by the type of the value and holds the
payload. Numbers of 64 bits are written as texts, in decimal digits for integers and in sixteen
hexadecimal digits for the bits of a floating-point number. A dictionary is the list of its
entries. When values are read, the member `wrap` stands for a value inside a number of variant
layers.
-/

namespace Uplink.Wire

/-- The bits of a floating-point number as sixteen digits. -/
def hexText (bits : UInt64) : String :=
  let digits := Nat.toDigits 16 bits.toNat
  String.ofList (List.replicate (16 - digits.length) '0' ++ digits)

def hexDigit? (c : Char) : Option Nat :=
  if '0' ≤ c ∧ c ≤ '9' then some (c.toNat - '0'.toNat)
  else if 'a' ≤ c ∧ c ≤ 'f' then some (c.toNat - 'a'.toNat + 10)
  else if 'A' ≤ c ∧ c ≤ 'F' then some (c.toNat - 'A'.toNat + 10)
  else none

def hexBits? (text : String) : Option UInt64 :=
  (text.toList.foldlM (fun bits c ↦ (hexDigit? c).map (bits * 16 + ·)) 0).map Nat.toUInt64

namespace Scalar

def toJson : Scalar → Json
  | byte value => .nat value.toNat
  | bool value => .bool value
  | int16 value => .number value.toInt 0
  | uint16 value => .nat value.toNat
  | int32 value => .number value.toInt 0
  | uint32 value => .nat value.toNat
  | int64 value => .text value.toInt.repr
  | uint64 value => .text value.toNat.repr
  | double bits => .text (hexText bits)
  | text value => .text value
  | path value => .text value.text
  | signature value => .text value

def ofJson? (type : ScalarType) (json : Json) : Option Scalar :=
  match type with
  | .byte => json.octet?.map byte
  | .bool => json.bool?.map bool
  | .int16 => (json.intBelow? 0x8000).map fun value ↦ int16 (.ofInt value)
  | .uint16 => (json.natBelow? UInt16.size).map fun value ↦ uint16 value.toUInt16
  | .int32 => (json.intBelow? 0x80000000).map fun value ↦ int32 (.ofInt value)
  | .uint32 => (json.natBelow? UInt32.size).map fun value ↦ uint32 value.toUInt32
  | .int64 => (json.text?.bind String.toInt?).map fun value ↦ int64 (.ofInt value)
  | .uint64 => (json.text?.bind String.toNat?).map fun value ↦ uint64 value.toUInt64
  | .double => (json.text?.bind hexBits?).map double
  | .text => json.text?.map text
  | .path => (json.text?.bind ObjectPath.parse?).map path
  | .signature => json.text?.map signature

end Scalar

namespace Value

mutual

def toJson (value : Value) : Json := .object [(value.signature.text, value.payload)]
termination_by (sizeOf value, 1)

/-- What stands under the type of the value. -/
def payload : Value → Json
  | scalar value => value.toJson
  | variant inner => inner.toJson
  | array _ items => .list (payloads items)
  | dict _ _ entries => .list (entryPayloads entries)
  | struct fields => .list (payloads fields)
termination_by value => (sizeOf value, 0)

def payloads : List Value → List Json
  | [] => []
  | value :: rest => value.payload :: payloads rest
termination_by values => (sizeOf values, 0)

def entryPayloads : List (Scalar × Value) → List Json
  | [] => []
  | (key, value) :: rest => .list [key.toJson, value.payload] :: entryPayloads rest
termination_by entries => (sizeOf entries, 0)

end

mutual

def ofJson? : Json → Option Value
  | .object [(name, held)] =>
    if name = "wrap" then
      match held with
      | .list [layers, inner] => do
        let layers ← layers.natBelow? UInt32.size
        let inner ← ofJson? inner
        some (wrap layers inner)
      | _ => none
    else do
      let signature ← Signature.parse? name
      ofPayload? signature held
  | _ => none
termination_by json => (sizeOf json, 0)

def ofPayload? (signature : Signature) (json : Json) : Option Value :=
  match signature, json with
  | .scalar type, json => (Scalar.ofJson? type json).map scalar
  | .variant, json => (ofJson? json).map variant
  | .array element, .list items => (ofPayloads? element items).map (array element)
  | .dict key value, .list entries => (ofEntryPayloads? key value entries).map (ofEntries key value)
  | .struct fields, .list items => (ofFields? fields items).map struct
  | _, _ => none
termination_by (sizeOf json, 1)

def ofPayloads? (element : Signature) : List Json → Option (List Value)
  | [] => some []
  | json :: rest => do
    let value ← ofPayload? element json
    let values ← ofPayloads? element rest
    some (value :: values)
termination_by items => (sizeOf items, 0)

def ofEntryPayloads? (key : ScalarType) (value : Signature) :
    List Json → Option (List (Scalar × Value))
  | [] => some []
  | .list [first, second] :: rest => do
    let name ← Scalar.ofJson? key first
    let held ← ofPayload? value second
    let entries ← ofEntryPayloads? key value rest
    some ((name, held) :: entries)
  | _ => none
termination_by items => (sizeOf items, 0)

def ofFields? : List Signature → List Json → Option (List Value)
  | [], [] => some []
  | signature :: signatures, json :: rest => do
    let value ← ofPayload? signature json
    let values ← ofFields? signatures rest
    some (value :: values)
  | _, _ => none
termination_by _ items => (sizeOf items, 0)

end

end Value

namespace Properties

def toJson (properties : Properties) : Json :=
  .object (properties.entries.map fun entry ↦ (entry.1, entry.2.toJson))

def ofJson? : Json → Option Properties
  | .object members =>
    let read (member : String × Json) : Option (String × Value) :=
      (Value.ofJson? member.2).map fun value ↦ (member.1, value)
    (members.mapM read).map ofPairs
  | _ => none

end Properties

end Uplink.Wire
