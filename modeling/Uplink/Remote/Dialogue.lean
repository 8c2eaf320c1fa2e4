import Uplink.Remote.Call
/-!
# Dialogues with remote objects

A procedure that makes calls one after the other and goes on with what it learns. A dialogue is
plain data: it says which call comes next and what is done with the answer, so the same procedure
is followed against a scripted object and on a live connection. `Dialogue.run` follows it to the
end with a party that answers every call out of a state of its own.
-/

namespace Uplink.Remote

/-- A procedure that ends with a value or a failure. -/
inductive Dialogue (α : Type) where
  | done (result : Except Failure α)
  | call (call : Call) (next : Except Failure call.expects.Answer → Dialogue α)
  /-- Gets hold of an object before the first call to it. -/
  | reach (object : ObjectPath) (next : Outcome → Dialogue α)

/-- Someone who answers calls out of a state. -/
structure Party (σ : Type) where
  answer : (call : Call) → σ → Except Failure call.expects.Answer × σ
  reach : ObjectPath → σ → Outcome × σ

namespace Dialogue

variable {α β σ : Type}

def bind : Dialogue α → (α → Dialogue β) → Dialogue β
  | done (.ok value), next => next value
  | done (.error failure), _ => done (.error failure)
  | call made after, next => call made fun answer ↦ (after answer).bind next
  | reach object after, next => reach object fun outcome ↦ (after outcome).bind next

instance : Monad Dialogue where
  pure value := done (.ok value)
  bind := bind

def fail (failure : Failure) : Dialogue α := done (.error failure)

/-- One call, whose failure ends the dialogue. -/
def ask (made : Call) : Dialogue made.expects.Answer := call made done

/-- Gets hold of an object, and ends the dialogue if that fails. -/
def opened (object : ObjectPath) : Dialogue Unit := reach object done

/-- A value that may be a failure. -/
def lift (result : Except Failure α) : Dialogue α := done result

/-- Follows the dialogue to its end. -/
def run (party : Party σ) : Dialogue α → σ → Except Failure α × σ
  | done result, state => (result, state)
  | call made next, state =>
    let (answer, state) := party.answer made state
    (next answer).run party state
  | reach object next, state =>
    let (outcome, state) := party.reach object state
    (next outcome).run party state

end Dialogue

end Uplink.Remote
