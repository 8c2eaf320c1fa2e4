import Mathlib.Data.List.Induction
import Mathlib.Tactic.Common
import Uplink.Proofs.Sim.Lock
/-!
# The PUK that waits for a new PIN

A session is everything that happens to one lock: reports of the daemon, what the user types in,
and the ends of the calls that were prepared, in any order. A PUK is held in no state but that in
which the new PIN is awaited. The converse has one exception, which is exact: the reset for another
kind of PUK fails meanwhile. From then on, until the state changes, the new PIN is awaited without
a PUK, and no reset can be prepared.
-/

namespace Uplink

/-- A lock and the requests that it prepared, in that order. -/
structure SimSession where
  lock : SimLock := {}
  prepared : List SimRequest := []

namespace SimSession

/-- What can happen to a lock. The end of a call names the place of its request among those that
were prepared. -/
inductive Operation where
  | sync (required : Option CredentialKind) (retries : Retries)
  | enter (pin : String)
  | submitPuk (puk : String)
  | reset (newPin : String)
  | change (kind : CredentialKind) (oldPin newPin : String)
  | finish (place : Nat) (outcome : Outcome)

def prepare (session : SimSession) (result : SimLock × SimRequest) : SimSession where
  lock := result.1
  prepared := session.prepared ++ [result.2]

def withLock (session : SimSession) (lock : SimLock) : SimSession := { session with lock }

def perform (session : SimSession) : Operation → Except Failure SimSession
  | .sync required retries => .ok (session.withLock (session.lock.sync required retries))
  | .enter pin => (session.lock.enter pin).map session.prepare
  | .submitPuk puk => (session.lock.submitPuk puk).map session.withLock
  | .reset newPin =>
    (session.lock.reset newPin).map fun request ↦ session.prepare (session.lock, request)
  | .change kind oldPin newPin => (session.lock.change kind oldPin newPin).map session.prepare
  | .finish place outcome =>
    match session.prepared[place]? with
    | some request => .ok (session.withLock (session.lock.complete request outcome))
    | none => .ok session

/-- An operation that is refused changes nothing. -/
def after (session : SimSession) (operation : Operation) : SimSession :=
  match session.perform operation with
  | .ok session => session
  | .error _ => session

/-- The session after these operations. -/
def run (operations : List Operation) : SimSession := operations.foldl after {}

@[simp] theorem run_concat (operations : List Operation) (operation : Operation) :
    run (operations ++ [operation]) = (run operations).after operation := by
  simp [run]

/-- Whether the operation is the failure of a reset for a kind of PUK other than the one for which
the new PIN is awaited. -/
def DropsPuk (session : SimSession) : Operation → Prop
  | .finish place (.error _) =>
    ∃ pukKind puk newPin kind, session.prepared[place]? = some (.reset pukKind puk newPin) ∧
      session.lock.state = .newPinRequired kind ∧ kind ≠ pukKind
  | _ => False

/-- Whether a PUK was dropped and the state has been the same ever since. -/
def PukLost (operations : List Operation) : Prop :=
  ∃ before operation since, operations = before ++ operation :: since ∧
    (run before).DropsPuk operation ∧
    ∀ start, start <+: since →
      (run (before ++ operation :: start)).lock.state = (run before).lock.state

end SimSession

theorem LockState.awaitsNewPin_iff {state : LockState} :
    state.awaitsNewPin = true ↔ ∃ kind, state = .newPinRequired kind := by
  cases state <;> simp [awaitsNewPin]

namespace SimLock

/-- The new PIN is awaited, but there is no PUK to go with it. -/
def LacksPuk (lock : SimLock) : Prop :=
  lock.state.awaitsNewPin = true ∧ lock.pendingPuk = none

/-- A PUK is held for nothing but the new PIN. -/
def HoldsForNewPin (lock : SimLock) : Prop :=
  lock.pendingPuk.isSome = true → lock.state.awaitsNewPin = true

/-- A PUK is asked for, and a new PIN awaited, only for a kind that resets one. -/
def WaitsForPukKind (lock : SimLock) : Prop :=
  ∀ kind, lock.state = .pukRequired kind ∨ lock.state = .newPinRequired kind → kind.isPuk = true

theorem waitsForPukKind_sync (lock : SimLock) (required : Option CredentialKind)
    (retries : Retries) : (lock.sync required retries).WaitsForPukKind := by
  intro kind hstate
  cases required with
  | none => simp [sync, stateFor] at hstate
  | some asked =>
    simp only [sync, stateFor] at hstate
    split at hstate
    next hpuk =>
      split at hstate
      · simp at hstate
      · split at hstate
        · simp only [reduceCtorEq, LockState.newPinRequired.injEq, false_or] at hstate
          exact hstate ▸ hpuk
        · simp only [LockState.pukRequired.injEq, reduceCtorEq, or_false] at hstate
          exact hstate ▸ hpuk
    next => simp at hstate

theorem waitsForPukKind_complete {lock : SimLock} (h : lock.WaitsForPukKind)
    (request : SimRequest) (outcome : Outcome) :
    (lock.complete request outcome).WaitsForPukKind := by
  intro kind hstate
  cases outcome with
  | ok done =>
    cases request with
    | enter asked pin =>
      by_cases hasked : lock.state = .pinRequired asked
      · simp [complete, succeed, hasked] at hstate
      · exact h kind (by simpa [complete, succeed, hasked] using hstate)
    | reset pukKind puk newPin => simp [complete, succeed] at hstate
    | change asked oldPin newPin => exact h kind hstate
  | error failure =>
    cases request with
    | enter asked pin => exact h kind hstate
    | reset pukKind puk newPin =>
      by_cases hasked : lock.state = .newPinRequired pukKind
      · simp only [complete, fail, hasked, if_true, LockState.pukRequired.injEq, reduceCtorEq,
          or_false] at hstate
        exact hstate ▸ h pukKind (.inr hasked)
      · exact h kind (by simpa [complete, fail, hasked] using hstate)
    | change asked oldPin newPin => exact h kind hstate

/-- The daemon's data never start the wait for a new PIN; they can only let it go on. -/
theorem state_of_awaitsNewPin_sync {lock : SimLock} {required : Option CredentialKind}
    {retries : Retries} (h : (lock.sync required retries).state.awaitsNewPin = true) :
    (lock.sync required retries).state = lock.state := by
  simp only [sync, stateFor] at h ⊢
  cases required with
  | none => simp [LockState.awaitsNewPin] at h
  | some kind =>
    by_cases hpuk : kind.isPuk = true
    · by_cases hnone : retries.get? kind = some 0
      · simp [hpuk, hnone, LockState.awaitsNewPin] at h
      · by_cases hstate : lock.state = .newPinRequired kind
        · simp [hpuk, hnone, hstate]
        · simp [hpuk, hnone, hstate, LockState.awaitsNewPin] at h
    · simp [hpuk, LockState.awaitsNewPin] at h

theorem holdsForNewPin_sync (lock : SimLock) (required : Option CredentialKind)
    (retries : Retries) : (lock.sync required retries).HoldsForNewPin := by
  intro hpuk
  by_contra hstate
  simp only [sync] at hpuk hstate
  simp [hstate] at hpuk

theorem lacksPuk_sync_iff {lock : SimLock} {required : Option CredentialKind}
    {retries : Retries} :
    (lock.sync required retries).LacksPuk ↔
      lock.LacksPuk ∧ (lock.sync required retries).state = lock.state := by
  constructor
  · rintro ⟨hstate, hpuk⟩
    have hsame := state_of_awaitsNewPin_sync hstate
    refine ⟨⟨hsame ▸ hstate, ?_⟩, hsame⟩
    simp only [sync] at hpuk hstate
    simpa [hstate] using hpuk
  · rintro ⟨⟨hstate, hpuk⟩, hsame⟩
    refine ⟨hsame.symm ▸ hstate, ?_⟩
    simp [sync, hpuk]

theorem holdsForNewPin_complete {lock : SimLock} (h : lock.HoldsForNewPin) (request : SimRequest)
    (outcome : Outcome) : (lock.complete request outcome).HoldsForNewPin := by
  cases outcome with
  | ok done =>
    cases request with
    | enter kind pin =>
      by_cases hstate : lock.state = .pinRequired kind
      · have hpuk : ¬ lock.pendingPuk.isSome = true := by
          intro hpuk
          simpa [hstate, LockState.awaitsNewPin] using h hpuk
        simp [HoldsForNewPin, complete, succeed, hstate, hpuk]
      · simpa [HoldsForNewPin, complete, succeed, hstate] using h
    | reset pukKind puk newPin => simp [HoldsForNewPin, complete, succeed]
    | change kind oldPin newPin => simpa [HoldsForNewPin, complete, succeed] using h
  | error failure =>
    cases request with
    | enter kind pin => simpa [HoldsForNewPin, complete, fail] using h
    | reset pukKind puk newPin => simp [HoldsForNewPin, complete, fail]
    | change kind oldPin newPin => simpa [HoldsForNewPin, complete, fail] using h

/-- A completion leaves the lock without a PUK if it drops the PUK of another kind, or if the PUK
was missing before and the state stays. -/
theorem lacksPuk_complete_iff {lock : SimLock} {request : SimRequest} {outcome : Outcome} :
    (lock.complete request outcome).LacksPuk ↔
      (∃ failure pukKind puk newPin kind, outcome = .error failure ∧
        request = .reset pukKind puk newPin ∧ lock.state = .newPinRequired kind ∧
        kind ≠ pukKind) ∨
      lock.LacksPuk ∧ (lock.complete request outcome).state = lock.state := by
  cases outcome with
  | ok done =>
    cases request with
    | enter kind pin =>
      by_cases hstate : lock.state = .pinRequired kind <;>
        simp [LacksPuk, complete, succeed, hstate, LockState.awaitsNewPin]
    | reset pukKind puk newPin =>
      have hclear : LockState.clear = lock.state → ¬ lock.state.awaitsNewPin = true := by
        intro hstate
        simp [← hstate, LockState.awaitsNewPin]
      simp only [LacksPuk, complete, succeed, LockState.awaitsNewPin]
      grind
    | change kind oldPin newPin => simp [LacksPuk, complete, succeed]
  | error failure =>
    cases request with
    | enter kind pin => simp [LacksPuk, complete, fail]
    | reset pukKind puk newPin =>
      cases hstate : lock.state with
      | newPinRequired kind =>
        by_cases hkind : kind = pukKind
        · simp [LacksPuk, complete, fail, hstate, hkind, LockState.awaitsNewPin]
        · simp [LacksPuk, complete, fail, hstate, hkind, LockState.awaitsNewPin]
      | _ => simp [LacksPuk, complete, fail, hstate, LockState.awaitsNewPin]
    | change kind oldPin newPin => simp [LacksPuk, complete, fail]

end SimLock

namespace SimSession

/-- What an operation does to the state and to the PUK: it follows the daemon, takes a PUK, ends a
call, or leaves both alone. -/
theorem after_cases (session : SimSession) (operation : Operation) :
    (∃ required retries, operation = .sync required retries ∧
      (session.after operation).lock = session.lock.sync required retries) ∨
    (∃ kind puk, operation = .submitPuk puk ∧ session.lock.state = .pukRequired kind ∧
      (session.after operation).lock.state = .newPinRequired kind ∧
      (session.after operation).lock.pendingPuk = some puk) ∨
    (∃ place outcome request, operation = .finish place outcome ∧
      session.prepared[place]? = some request ∧
      (session.after operation).lock = session.lock.complete request outcome) ∨
    ¬ session.DropsPuk operation ∧ (session.after operation).lock.state = session.lock.state ∧
      (session.after operation).lock.pendingPuk = session.lock.pendingPuk := by
  cases operation with
  | sync required retries => exact .inl ⟨required, retries, rfl, rfl⟩
  | enter pin =>
    refine .inr (.inr (.inr ⟨id, ?_⟩))
    cases hresult : session.lock.enter pin with
    | error failure => simp [after, perform, hresult, Except.map]
    | ok result =>
      obtain ⟨kind, -, -, hlock, -⟩ := SimLock.enter_eq_ok_iff.1 hresult
      simp [after, perform, hresult, Except.map, prepare, hlock]
  | submitPuk puk =>
    cases hresult : session.lock.submitPuk puk with
    | error failure =>
      exact .inr (.inr (.inr ⟨id, by simp [after, perform, hresult, Except.map]⟩))
    | ok lock =>
      obtain ⟨kind, hstate, -, hlock⟩ := SimLock.submitPuk_eq_ok_iff.1 hresult
      refine .inr (.inl ⟨kind, puk, rfl, hstate, ?_⟩)
      simp [after, perform, hresult, Except.map, withLock, hlock]
  | reset newPin =>
    refine .inr (.inr (.inr ⟨id, ?_⟩))
    cases hresult : session.lock.reset newPin <;>
      simp [after, perform, hresult, Except.map, prepare]
  | change kind oldPin newPin =>
    refine .inr (.inr (.inr ⟨id, ?_⟩))
    cases hresult : session.lock.change kind oldPin newPin with
    | error failure => simp [after, perform, hresult, Except.map]
    | ok result =>
      obtain ⟨-, -, -, hlock, -⟩ := SimLock.change_eq_ok_iff.1 hresult
      simp [after, perform, hresult, Except.map, prepare, hlock]
  | finish place outcome =>
    cases hrequest : session.prepared[place]? with
    | none =>
      refine .inr (.inr (.inr ⟨?_, by simp [after, perform, hrequest]⟩))
      cases outcome <;> simp [DropsPuk, hrequest]
    | some request =>
      refine .inr (.inr (.inl ⟨place, outcome, request, rfl, hrequest, ?_⟩))
      simp [after, perform, hrequest, withLock]

theorem holdsForNewPin_run (operations : List Operation) :
    (run operations).lock.HoldsForNewPin := by
  induction operations using List.reverseRecOn with
  | nil => simp [run, SimLock.HoldsForNewPin]
  | append_singleton operations operation ih =>
    rw [run_concat]
    rcases after_cases (run operations) operation with
      ⟨required, retries, -, hlock⟩ | ⟨kind, puk, -, -, hstate, hpuk⟩ |
      ⟨place, outcome, request, -, -, hlock⟩ | ⟨-, hstate, hpuk⟩
    · rw [hlock]
      exact SimLock.holdsForNewPin_sync _ required retries
    · intro _
      rw [hstate]
      rfl
    · rw [hlock]
      exact SimLock.holdsForNewPin_complete ih request outcome
    · rw [SimLock.HoldsForNewPin, hstate, hpuk]
      exact ih

theorem lacksPuk_after_iff {session : SimSession} {operation : Operation} :
    (session.after operation).lock.LacksPuk ↔
      session.DropsPuk operation ∨
        session.lock.LacksPuk ∧ (session.after operation).lock.state = session.lock.state := by
  rcases after_cases session operation with
    ⟨required, retries, rfl, hlock⟩ | ⟨kind, puk, rfl, hbefore, hstate, hpuk⟩ |
    ⟨place, outcome, request, rfl, hrequest, hlock⟩ | ⟨hdrop, hstate, hpuk⟩
  · rw [hlock, SimLock.lacksPuk_sync_iff]
    simp [DropsPuk]
  · simp [SimLock.LacksPuk, hpuk, hbefore, DropsPuk, LockState.awaitsNewPin]
  · rw [hlock, SimLock.lacksPuk_complete_iff]
    cases outcome <;> simp [DropsPuk, hrequest]
  · simp [SimLock.LacksPuk, hstate, hpuk, hdrop]

theorem state_after_of_dropsPuk {session : SimSession} {operation : Operation}
    (h : session.DropsPuk operation) :
    (session.after operation).lock.state = session.lock.state := by
  rcases after_cases session operation with
    ⟨required, retries, rfl, -⟩ | ⟨kind, puk, rfl, -⟩ |
    ⟨place, outcome, request, rfl, hrequest, hlock⟩ | ⟨hdrop, hstate, -⟩
  · exact h.elim
  · exact h.elim
  · cases outcome with
    | ok done => exact h.elim
    | error failure =>
      obtain ⟨pukKind, puk, newPin, kind, hprepared, hstate, hkind⟩ := h
      obtain rfl : request = .reset pukKind puk newPin := by simpa [hrequest] using hprepared
      simp [hlock, SimLock.complete, SimLock.fail, hstate, hkind]
  · exact hstate

/-- The loss of a PUK is either new, or lasts because the state is still the same. -/
theorem pukLost_concat {operations : List Operation} {operation : Operation} :
    PukLost (operations ++ [operation]) ↔
      (run operations).DropsPuk operation ∨
        PukLost operations ∧
          (run (operations ++ [operation])).lock.state = (run operations).lock.state := by
  constructor
  · rintro ⟨before, dropping, since, hsplit, hdrop, hstay⟩
    rcases List.eq_nil_or_concat since with rfl | ⟨since, last, rfl⟩
    · obtain ⟨rfl, hlast⟩ := List.append_inj' hsplit rfl
      obtain rfl : operation = dropping := by simpa using hlast
      exact .inl hdrop
    · rw [List.concat_eq_append] at hsplit hstay
      rw [← List.cons_append, ← List.append_assoc] at hsplit
      obtain ⟨rfl, hlast⟩ := List.append_inj' hsplit rfl
      obtain rfl : operation = last := by simpa using hlast
      refine .inr ⟨⟨before, dropping, since, rfl, hdrop, ?_⟩, ?_⟩
      · intro start hstart
        exact hstay start (hstart.trans (List.prefix_append since _))
      · have hnow := hstay (since ++ [operation]) (List.prefix_refl _)
        have hthen := hstay since (List.prefix_append since _)
        rw [← List.cons_append, ← List.append_assoc] at hnow
        exact hnow.trans hthen.symm
  · rintro (hdrop | ⟨⟨before, dropping, since, rfl, hdrop, hstay⟩, hsame⟩)
    · refine ⟨operations, operation, [], rfl, hdrop, ?_⟩
      intro start hstart
      rw [List.prefix_nil.1 hstart, run_concat]
      exact state_after_of_dropsPuk hdrop
    · refine ⟨before, dropping, since ++ [operation], by simp, hdrop, ?_⟩
      intro start hstart
      rcases List.prefix_concat_iff.1 hstart with rfl | hstart
      · rw [← List.cons_append, ← List.append_assoc]
        exact hsame.trans (hstay since (List.prefix_refl since))
      · exact hstay start hstart

theorem lacksPuk_run_iff (operations : List Operation) :
    (run operations).lock.LacksPuk ↔ PukLost operations := by
  induction operations using List.reverseRecOn with
  | nil => simp [run, SimLock.LacksPuk, LockState.awaitsNewPin, PukLost]
  | append_singleton operations operation ih =>
    rw [pukLost_concat, run_concat, lacksPuk_after_iff, ih]

theorem waitsForPukKind_run (operations : List Operation) :
    (run operations).lock.WaitsForPukKind := by
  induction operations using List.reverseRecOn with
  | nil => simp [run, SimLock.WaitsForPukKind]
  | append_singleton operations operation ih =>
    rw [run_concat]
    rcases after_cases (run operations) operation with
      ⟨required, retries, -, hlock⟩ | ⟨kind, puk, -, hbefore, hstate, -⟩ |
      ⟨place, outcome, request, -, -, hlock⟩ | ⟨-, hstate, -⟩
    · rw [hlock]
      exact SimLock.waitsForPukKind_sync _ required retries
    · intro other hother
      rw [hstate] at hother
      obtain rfl : kind = other := by simpa using hother
      exact ih kind (.inl hbefore)
    · rw [hlock]
      exact SimLock.waitsForPukKind_complete ih request outcome
    · rw [SimLock.WaitsForPukKind, hstate]
      exact ih

/-- A PUK is held only while the new PIN is awaited. There it is held, and every PIN of the right
form can be reset with it, exactly if no failed reset for another kind has dropped it since. -/
theorem pendingPuk_held_iff (operations : List Operation) :
    let lock := (run operations).lock
    (lock.pendingPuk.isSome = true → ∃ kind, lock.state = .newPinRequired kind) ∧
    ((lock.pendingPuk.isSome = true ↔ ∃ kind, lock.state = .newPinRequired kind) ↔
      ¬ PukLost operations) ∧
    ∀ kind, lock.state = .newPinRequired kind →
      ∃ target, kind.resetTarget? = some target ∧
        ∀ newPin, target.Accepts newPin →
          ((∃ request, lock.reset newPin = .ok request) ↔ ¬ PukLost operations) := by
  intro lock
  have hholds := holdsForNewPin_run operations
  rw [SimLock.HoldsForNewPin, LockState.awaitsNewPin_iff] at hholds
  have hlacks := lacksPuk_run_iff operations
  rw [SimLock.LacksPuk, LockState.awaitsNewPin_iff] at hlacks
  refine ⟨hholds, ?_, ?_⟩
  · rw [← hlacks, not_and, ← ne_eq, Option.ne_none_iff_isSome]
    exact ⟨Iff.mpr, fun h ↦ ⟨hholds, h⟩⟩
  · intro kind hstate
    obtain ⟨target, htarget⟩ :=
      CredentialKind.isPuk_iff.1 (waitsForPukKind_run operations kind (.inr hstate))
    refine ⟨target, htarget, fun newPin haccepts ↦ ?_⟩
    rw [← hlacks]
    constructor
    · rintro ⟨request, hreset⟩ ⟨-, hpuk⟩
      obtain ⟨-, -, puk, -, -, -, hheld, -⟩ := SimLock.reset_eq_ok_iff.1 hreset
      exact Option.some_ne_none puk (hheld.symm.trans hpuk)
    · intro hkept
      obtain ⟨puk, hpuk⟩ := Option.ne_none_iff_exists'.1 fun hpuk ↦ hkept ⟨⟨kind, hstate⟩, hpuk⟩
      exact ⟨.reset kind puk newPin,
        SimLock.reset_eq_ok_iff.2 ⟨kind, target, puk, hstate, htarget, haccepts, hpuk, rfl⟩⟩

theorem pendingPuk_held_typed :
    let operations := [Operation.sync (some .puk) ∅, .submitPuk "12345678"]
    (run operations).lock.state = .newPinRequired .puk ∧
      CredentialKind.puk.resetTarget? = some .pin ∧ CredentialKind.pin.Accepts "1234" ∧
      ((∃ request, (run operations).lock.reset "1234" = .ok request) ↔ ¬ PukLost operations) := by
  intro operations
  have hstate : (run operations).lock.state = .newPinRequired .puk := by decide +kernel
  have haccepts : CredentialKind.pin.Accepts "1234" := by decide +kernel
  obtain ⟨target, htarget, hreset⟩ := (pendingPuk_held_iff operations).2.2 .puk hstate
  obtain rfl : .pin = target := Option.some.inj htarget
  exact ⟨hstate, htarget, haccepts, hreset "1234" haccepts⟩

/-- A PUK is typed in and a reset prepared; then the SIM asks for the second PUK, which is typed in
as well, and the reset for the first one fails. -/
def overtakenReset : List Operation :=
  [.sync (some .puk) ∅, .submitPuk "12345678", .reset "1234", .sync (some .puk2) ∅,
    .submitPuk "87654321", .finish 0 (.error .timeout)]

/-- The new PIN for the second PUK is awaited, but that PUK is gone. -/
theorem pendingPuk_dropped :
    ¬ ∀ operations, (run operations).lock.pendingPuk.isSome = true ↔
      ∃ kind, (run operations).lock.state = .newPinRequired kind := by
  intro h
  have hstate : (run overtakenReset).lock.state = .newPinRequired .puk2 := by decide +kernel
  have hpuk : (run overtakenReset).lock.pendingPuk.isSome = false := by decide +kernel
  exact Bool.false_ne_true (hpuk.symm.trans ((h overtakenReset).2 ⟨.puk2, hstate⟩))

end SimSession

end Uplink
