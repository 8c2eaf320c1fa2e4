import Uplink.Wire.Value
/-!
# What can be sent

Texts on the bus end with a NUL, so a text that holds one cannot be sent, wherever in a value it
stands.
-/

namespace Uplink.Wire

def hasNoNul (text : String) : Bool := text.toList.all (·.toNat ≠ 0)

def Scalar.isSendable : Scalar → Bool
  | .text held => hasNoNul held
  | .signature held => hasNoNul held
  | _ => true

namespace Value

mutual

def isSendable : Value → Bool
  | scalar value => value.isSendable
  | variant inner => inner.isSendable
  | array _ items => areSendable items
  | dict _ _ entries => entriesAreSendable entries
  | struct fields => areSendable fields

def areSendable : List Value → Bool
  | [] => true
  | value :: rest => value.isSendable && areSendable rest

def entriesAreSendable : List (Scalar × Value) → Bool
  | [] => true
  | (key, value) :: rest => key.isSendable && value.isSendable && entriesAreSendable rest

end

mutual

/-- How many values there are in this one, itself included. -/
def size : Value → Nat
  | scalar _ => 1
  | variant inner => inner.size + 1
  | array _ items => sizes items + 1
  | dict _ _ entries => entrySizes entries + 1
  | struct fields => sizes fields + 1

def sizes : List Value → Nat
  | [] => 0
  | value :: rest => value.size + sizes rest

def entrySizes : List (Scalar × Value) → Nat
  | [] => 0
  | (_, value) :: rest => value.size + 1 + entrySizes rest

end

end Value

end Uplink.Wire
