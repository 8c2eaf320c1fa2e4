import Uplink.ObjectPath
import Uplink.Wire.Signature
/-!
# Values on the bus

The dynamically typed values in which the daemons report and accept properties. A value can be
wrapped in any number of variant layers; `peel` takes the outer ones off. The entries of a
dictionary are a map listed in key order, where the last entry for a key wins, and `Value.ofEntries`
brings a list of entries into that form.
-/

namespace Uplink.Wire

inductive Scalar where
  | byte (value : UInt8)
  | bool (value : Bool)
  | int16 (value : Int16)
  | uint16 (value : UInt16)
  | int32 (value : Int32)
  | uint32 (value : UInt32)
  | int64 (value : Int64)
  | uint64 (value : UInt64)
  /-- The bits of a binary floating-point number. -/
  | double (bits : UInt64)
  | text (value : String)
  | path (value : ObjectPath)
  | signature (value : String)
deriving DecidableEq

namespace Scalar

def type : Scalar → ScalarType
  | byte _ => .byte
  | bool _ => .bool
  | int16 _ => .int16
  | uint16 _ => .uint16
  | int32 _ => .int32
  | uint32 _ => .uint32
  | int64 _ => .int64
  | uint64 _ => .uint64
  | double _ => .double
  | text _ => .text
  | path _ => .path
  | signature _ => .signature

/-- The lowest word whose bits stand for a number with a minus sign. -/
def signBit : Nat := 0x8000000000000000

/-- Where a floating-point number stands in the order of all of them, from its bits: a set sign bit
reverses the order of the rest. -/
def doubleRank (bits : UInt64) : Int :=
  if bits.toNat < signBit then .ofNat bits.toNat else .ofNat signBit - 1 - .ofNat bits.toNat

/-- Numbers are ordered by value and texts by code point; `false` comes before `true`. -/
def rank : Scalar → Int × String
  | byte value => (value.toNat, "")
  | bool value => (if value then 1 else 0, "")
  | int16 value => (value.toInt, "")
  | uint16 value => (value.toNat, "")
  | int32 value => (value.toInt, "")
  | uint32 value => (value.toNat, "")
  | int64 value => (value.toInt, "")
  | uint64 value => (value.toNat, "")
  | double bits => (doubleRank bits, "")
  | text value => (0, value)
  | path value => (0, value.text)
  | signature value => (0, value)

def before (a b : Scalar) : Bool :=
  decide (a.rank.1 < b.rank.1) || (a.rank.1 == b.rank.1 && decide (a.rank.2 < b.rank.2))

/-- The text of a string or of an object path. -/
def text? : Scalar → Option String
  | text value => some value
  | path value => some value.text
  | _ => none

/-- The path in an object path, or in a string that holds one. -/
def path? : Scalar → Option ObjectPath
  | path value => some value
  | text value => ObjectPath.parse? value
  | _ => none

def bool? : Scalar → Option Bool
  | bool value => some value
  | _ => none

/-- An unsigned number of up to 32 bits, if it fits into eight. -/
def octet? : Scalar → Option UInt8
  | byte value => some value
  | uint16 value => if value.toNat < 256 then some value.toUInt8 else none
  | uint32 value => if value.toNat < 256 then some value.toUInt8 else none
  | _ => none

end Scalar

inductive Value where
  | scalar (value : Scalar)
  | variant (inner : Value)
  | array (element : Signature) (items : List Value)
  | dict (key : ScalarType) (value : Signature) (entries : List (Scalar × Value))
  | struct (fields : List Value)

namespace Value

abbrev text (value : String) : Value := scalar (.text value)
abbrev bool (value : Bool) : Value := scalar (.bool value)
abbrev byte (value : UInt8) : Value := scalar (.byte value)
abbrev path (value : ObjectPath) : Value := scalar (.path value)

mutual

def signature : Value → Signature
  | scalar value => .scalar value.type
  | variant _ => .variant
  | array element _ => .array element
  | dict key value _ => .dict key value
  | struct fields => .struct (signatures fields)

def signatures : List Value → List Signature
  | [] => []
  | value :: rest => value.signature :: signatures rest

end

/-- The value without its outer variant layers. -/
def peel : Value → Value
  | variant inner => inner.peel
  | value => value

/-- The value inside so many further variant layers. -/
def wrap (layers : Nat) (value : Value) : Value := layers.repeat variant value

def insertEntry (key : Scalar) (value : Value) : List (Scalar × Value) → List (Scalar × Value)
  | [] => [(key, value)]
  | (other, held) :: rest =>
    if key.before other then (key, value) :: (other, held) :: rest
    else if other.before key then (other, held) :: insertEntry key value rest
    else (key, value) :: rest

/-- The dictionary with these entries, the last of those with one key. -/
def ofEntries (key : ScalarType) (value : Signature) (entries : List (Scalar × Value)) : Value :=
  dict key value (entries.foldl (fun sorted entry ↦ insertEntry entry.1 entry.2 sorted) [])

@[simp] theorem peel_variant (inner : Value) : (variant inner).peel = inner.peel := by
  rw [peel]

@[simp] theorem peel_peel (value : Value) : value.peel.peel = value.peel := by
  induction value using peel.induct with
  | case1 inner ih => rw [peel_variant, ih]
  | case2 value h => simp [peel]

theorem peel_wrap (layers : Nat) (value : Value) : (wrap layers value).peel = value.peel := by
  induction layers with
  | zero => rfl
  | succ layers ih => rw [wrap, Nat.repeat, peel_variant]; exact ih

end Value

end Uplink.Wire
