import Uplink.Sim.Lock
import Uplink.Modem.Roster
/-!
# What an operation of a SIM lock can do

One statement for each operation: when it goes through, and what it leaves behind. Preparing a
request changes nothing but the kind that was submitted last, and preparing a reset changes
nothing at all. A completion touches the state and the PUK only for a reset, and for the entry of
the PIN that is still waited for; `SimLock.Ignores` says when it changes nothing at all.
-/

namespace Uplink

theorem bind_eq_ok_iff {α β : Type} {result : Except Failure α} {next : α → Except Failure β}
    {value : β} :
    (result >>= next) = .ok value ↔ ∃ held, result = .ok held ∧ next held = .ok value := by
  cases result with
  | error failure => simp [bind, Except.bind]
  | ok held => simp [bind, Except.bind]

namespace SimLock

theorem checked_eq_ok_iff {kind : CredentialKind} {text : String} :
    checked kind text = .ok () ↔ kind.Accepts text := by
  unfold checked CredentialKind.Accepts
  cases kind.validate text with
  | error cause =>
    constructor <;> intro h <;> cases h
  | ok done => exact ⟨fun _ ↦ rfl, fun _ ↦ rfl⟩

/-- A checked credential is passed on to what comes next. -/
theorem checked_bind_eq_ok_iff {α : Type} {kind : CredentialKind} {text : String}
    {next : Except Failure α} {result : α} :
    (checked kind text >>= fun _ ↦ next) = .ok result ↔ kind.Accepts text ∧ next = .ok result := by
  rw [bind_eq_ok_iff, ← checked_eq_ok_iff]
  exact ⟨fun ⟨_, hcheck, hnext⟩ ↦ ⟨hcheck, hnext⟩, fun ⟨hcheck, hnext⟩ ↦ ⟨(), hcheck, hnext⟩⟩

theorem enter_eq_ok_iff {lock lock' : SimLock} {pin : String} {request : SimRequest} :
    lock.enter pin = .ok (lock', request) ↔
      ∃ kind, lock.state = .pinRequired kind ∧ kind.Accepts pin ∧
        lock' = { lock with lastKind := some kind } ∧ request = .enter kind pin := by
  cases hstate : lock.state with
  | pinRequired kind =>
    simp only [enter, hstate, checked_bind_eq_ok_iff]
    simp [eq_comm]
  | _ => simp [enter, hstate, unexpected]

theorem submitPuk_eq_ok_iff {lock lock' : SimLock} {puk : String} :
    lock.submitPuk puk = .ok lock' ↔
      ∃ kind, lock.state = .pukRequired kind ∧ kind.Accepts puk ∧
        lock' = { lock with
          state := .newPinRequired kind, lastKind := some kind, pendingPuk := some puk } := by
  cases hstate : lock.state with
  | pukRequired kind =>
    simp only [submitPuk, hstate, checked_bind_eq_ok_iff]
    simp [eq_comm]
  | _ => simp [submitPuk, hstate, unexpected]

theorem reset_eq_ok_iff {lock : SimLock} {newPin : String} {request : SimRequest} :
    lock.reset newPin = .ok request ↔
      ∃ pukKind target puk, lock.state = .newPinRequired pukKind ∧
        pukKind.resetTarget? = some target ∧ target.Accepts newPin ∧
        lock.pendingPuk = some puk ∧ request = .reset pukKind puk newPin := by
  cases hstate : lock.state with
  | newPinRequired pukKind =>
    cases htarget : pukKind.resetTarget? with
    | none => simp [reset, hstate, htarget, unexpected]
    | some target =>
      simp only [reset, hstate, htarget, checked_bind_eq_ok_iff]
      cases hpuk : lock.pendingPuk with
      | none => simp [unexpected]
      | some puk => simp [eq_comm, htarget]
  | _ => simp [reset, hstate, unexpected]

theorem change_eq_ok_iff {lock lock' : SimLock} {kind : CredentialKind} {oldPin newPin : String}
    {request : SimRequest} :
    lock.change kind oldPin newPin = .ok (lock', request) ↔
      kind.isPin = true ∧ kind.Accepts oldPin ∧ kind.Accepts newPin ∧
        lock' = { lock with lastKind := some kind } ∧ request = .change kind oldPin newPin := by
  cases hpin : kind.isPin with
  | false => simp [change, hpin]
  | true =>
    simp only [change, hpin, if_true, checked_bind_eq_ok_iff]
    simp [eq_comm]

/-- Whether a completion finds nothing to change: the fault is the one that is noted already, and
what the request was prepared for is no longer waited for. -/
def Ignores (lock : SimLock) (request : SimRequest) (outcome : Outcome) : Prop :=
  lock.lastFault = outcome.fault? ∧
    match request, outcome with
    | .enter kind _, .ok () => lock.state ≠ .pinRequired kind
    | .reset .., .ok () => lock.state = .clear ∧ lock.pendingPuk = none
    | .reset pukKind _ _, .error _ =>
      lock.state ≠ .newPinRequired pukKind ∧ lock.pendingPuk = none
    | _, _ => True

theorem complete_eq_self_iff {lock : SimLock} {request : SimRequest} {outcome : Outcome} :
    lock.complete request outcome = lock ↔ lock.Ignores request outcome := by
  obtain ⟨state, lastKind, pendingPuk, lastFault⟩ := lock
  cases outcome with
  | ok done =>
    cases request with
    | enter kind pin =>
      by_cases hstate : state = .pinRequired kind
      · simp [complete, succeed, Ignores, hstate]
      · simp [complete, succeed, Ignores, Outcome.fault?, hstate, eq_comm]
    | reset pukKind puk newPin =>
      simp only [complete, succeed, Ignores, Outcome.fault?, mk.injEq, true_and]
      constructor
      · rintro ⟨rfl, rfl, rfl⟩
        exact ⟨rfl, rfl, rfl⟩
      · rintro ⟨rfl, rfl, rfl⟩
        exact ⟨rfl, rfl, rfl⟩
    | change kind oldPin newPin => simp [complete, succeed, Ignores, Outcome.fault?, eq_comm]
  | error failure =>
    cases request with
    | enter kind pin => simp [complete, fail, Ignores, Outcome.fault?, eq_comm]
    | reset pukKind puk newPin =>
      by_cases hstate : state = .newPinRequired pukKind
      · simp [complete, fail, Ignores, hstate]
      · simp [complete, fail, Ignores, Outcome.fault?, hstate, eq_comm, and_comm]
    | change kind oldPin newPin => simp [complete, fail, Ignores, Outcome.fault?, eq_comm]

/-- A lock that waits for nothing takes only the fault from a completion. -/
theorem complete_of_clear {lock : SimLock} (hstate : lock.state = .clear)
    (hpuk : lock.pendingPuk = none) (request : SimRequest) (outcome : Outcome) :
    lock.complete request outcome = { lock with lastFault := outcome.fault? } := by
  obtain ⟨state, lastKind, pendingPuk, lastFault⟩ := lock
  simp only at hstate hpuk
  subst hstate hpuk
  cases outcome <;> cases request <;> simp [complete, succeed, fail, Outcome.fault?]

end SimLock

end Uplink
