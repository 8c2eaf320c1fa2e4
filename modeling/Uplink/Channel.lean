/-!
# Channels that keep the latest version

A sender publishes versions of a value, and a receiver is woken by a version that it has not seen,
or by the end of the sender. Versions that are published between two looks coalesce: a look shows
the latest one.
-/

namespace Uplink

/-- What wakes a receiver. -/
inductive Notice where
  | news
  | senderGone
deriving DecidableEq

structure Channel (α : Type) where
  /-- Every version published so far, in order; the first one has number one. -/
  published : List α
  senderGone : Bool
  /-- The number of the latest version that the receiver has seen. -/
  seen : Nat
  seen_le : seen ≤ published.length

namespace Channel

variable {α : Type}

/-- A channel over which nothing was published yet. -/
def empty : Channel α := ⟨[], false, 0, Nat.zero_le _⟩

instance : Inhabited (Channel α) := ⟨empty⟩

def version (channel : Channel α) : Nat := channel.published.length

/-- A sender that is gone publishes nothing. -/
def publish (channel : Channel α) (value : α) : Channel α :=
  if channel.senderGone then channel
  else { channel with
    published := channel.published ++ [value]
    seen_le := by
      rw [List.length_append]
      exact Nat.le_add_right_of_le channel.seen_le }

def dropSender (channel : Channel α) : Channel α := { channel with senderGone := true }

/-- A version that was not seen goes before the end of the sender. -/
def notice? (channel : Channel α) : Option Notice :=
  if channel.seen < channel.version then some .news
  else if channel.senderGone then some .senderGone
  else none

/-- The latest version with its number, if any was published. -/
def latest? (channel : Channel α) : Option (Nat × α) :=
  channel.published.getLast?.map fun value ↦ (channel.version, value)

/-- The receiver has now seen the latest version. -/
def markSeen (channel : Channel α) : Channel α :=
  { channel with seen := channel.version, seen_le := Nat.le_refl _ }

end Channel

end Uplink
