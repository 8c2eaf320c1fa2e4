/-!
# Types of values on the bus

The types a message can carry and the one-letter codes that spell them: the scalar types, the
variant, and the containers built from them. A dictionary is keyed by a scalar type. The text of a
type is read back by `Signature.parse?`, which refuses text that holds anything but one type.
-/

namespace Uplink.Wire

inductive ScalarType where
  | byte | bool | int16 | uint16 | int32 | uint32 | int64 | uint64 | double
  | text | path | signature
deriving DecidableEq

namespace ScalarType

def code : ScalarType → Char
  | byte => 'y'
  | bool => 'b'
  | int16 => 'n'
  | uint16 => 'q'
  | int32 => 'i'
  | uint32 => 'u'
  | int64 => 'x'
  | uint64 => 't'
  | double => 'd'
  | text => 's'
  | path => 'o'
  | signature => 'g'

def ofCode? : Char → Option ScalarType
  | 'y' => some byte
  | 'b' => some bool
  | 'n' => some int16
  | 'q' => some uint16
  | 'i' => some int32
  | 'u' => some uint32
  | 'x' => some int64
  | 't' => some uint64
  | 'd' => some double
  | 's' => some text
  | 'o' => some path
  | 'g' => some signature
  | _ => none

@[simp] theorem ofCode?_code (type : ScalarType) : ofCode? type.code = some type := by
  cases type <;> rfl

end ScalarType

inductive Signature where
  | scalar (type : ScalarType)
  | variant
  | array (element : Signature)
  | dict (key : ScalarType) (value : Signature)
  | struct (fields : List Signature)

namespace Signature

mutual

def codes : Signature → List Char
  | scalar type => [type.code]
  | variant => ['v']
  | array element => 'a' :: element.codes
  | dict key value => ['a', '\x7b', key.code] ++ value.codes ++ ['\x7d']
  | struct fields => ['('] ++ codesAll fields ++ [')']

def codesAll : List Signature → List Char
  | [] => []
  | field :: rest => field.codes ++ codesAll rest

end

def text (signature : Signature) : String := String.ofList signature.codes

mutual

/-- One type from the front of the codes, and what follows it; `depth` bounds the nesting. -/
def take? (depth : Nat) (codes : List Char) : Option (Signature × List Char) :=
  match depth, codes with
  | 0, _ => none
  | _ + 1, [] => none
  | _ + 1, 'v' :: rest => some (variant, rest)
  | depth + 1, 'a' :: '\x7b' :: key :: rest => do
    let key ← ScalarType.ofCode? key
    match ← take? depth rest with
    | (value, '\x7d' :: rest) => some (dict key value, rest)
    | _ => none
  | depth + 1, 'a' :: rest => do
    let (element, rest) ← take? depth rest
    some (array element, rest)
  | depth + 1, '(' :: rest => do
    let (fields, rest) ← takeFields? depth rest
    some (struct fields, rest)
  | _ + 1, code :: rest => (ScalarType.ofCode? code).map fun type ↦ (scalar type, rest)

/-- The field types up to the closing parenthesis, and what follows it. -/
def takeFields? (depth : Nat) (codes : List Char) : Option (List Signature × List Char) :=
  match depth, codes with
  | 0, _ => none
  | _ + 1, ')' :: rest => some ([], rest)
  | depth + 1, codes => do
    let (field, rest) ← take? depth codes
    let (fields, rest) ← takeFields? depth rest
    some (field :: fields, rest)

end

def parse? (text : String) : Option Signature :=
  match take? (2 * text.length + 2) text.toList with
  | some (signature, []) => some signature
  | _ => none

end Signature

end Uplink.Wire
