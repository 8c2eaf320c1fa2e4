import Mathlib.Data.List.Forall2
import Uplink.Proofs.Sim.PendingPuk
/-!
# Credentials stay secret

What can be seen of a lock is whether an operation is refused and why, what the lock waits for, the
kind that was submitted last, the last fault, whether a PUK is held, and the texts that stand for
the lock and for its requests in messages. Of a credential these show its length and whether it is
decimal, and nothing else: two sessions that do the same with credentials of the same form look
alike at every step. The proof relates the two sessions by what may be different in them, which is
the credentials that are held or were prepared.
-/

namespace Uplink

/-- Whether a check of credentials cannot tell the two texts apart. -/
structure SameForm (text text' : String) : Prop where
  bytes : text.utf8ByteSize = text'.utf8ByteSize
  decimal : CredentialKind.isDecimal text = CredentialKind.isDecimal text'

theorem SameForm.validate_eq {text text' : String} (h : SameForm text text')
    (kind : CredentialKind) : kind.validate text = kind.validate text' := by
  unfold CredentialKind.validate
  rw [h.bytes, h.decimal]

theorem SameForm.checked_eq {text text' : String} (h : SameForm text text')
    (kind : CredentialKind) : SimLock.checked kind text = SimLock.checked kind text' := by
  unfold SimLock.checked
  rw [h.validate_eq]

/-- Whether two results fail for the same reason, or succeed with what is related. -/
inductive Concordant {α β : Type} (R : α → β → Prop) : Except Failure α → Except Failure β → Prop
  | ok {result : α} {result' : β} (h : R result result') : Concordant R (.ok result) (.ok result')
  | error (failure : Failure) : Concordant R (.error failure) (.error failure)

namespace Concordant

variable {α β α' β' : Type} {R : α → β → Prop} {S : α' → β' → Prop}

theorem map {result : Except Failure α} {result' : Except Failure β}
    (h : Concordant R result result') {next : α → α'} {next' : β → β'}
    (hnext : ∀ held held', R held held' → S (next held) (next' held')) :
    Concordant S (result.map next) (result'.map next') := by
  cases h with
  | ok hheld => exact .ok (hnext _ _ hheld)
  | error failure => exact .error failure

/-- What goes on after the same check goes on alike. -/
theorem check {result : Except Failure α} {result' : Except Failure β} {text text' : String}
    (hform : SameForm text text') (kind : CredentialKind) (h : Concordant R result result') :
    Concordant R (SimLock.checked kind text >>= fun _ ↦ result)
      (SimLock.checked kind text' >>= fun _ ↦ result') := by
  rw [hform.checked_eq kind]
  cases SimLock.checked kind text' with
  | error failure => exact .error failure
  | ok done => exact h

end Concordant

/-- Requests that differ in their credentials only. -/
inductive SimRequest.Resembles : SimRequest → SimRequest → Prop
  | enter (kind : CredentialKind) (pin pin' : String) :
    Resembles (.enter kind pin) (.enter kind pin')
  | reset (pukKind : CredentialKind) (puk newPin puk' newPin' : String) :
    Resembles (.reset pukKind puk newPin) (.reset pukKind puk' newPin')
  | change (kind : CredentialKind) (oldPin newPin oldPin' newPin' : String) :
    Resembles (.change kind oldPin newPin) (.change kind oldPin' newPin')

theorem SimRequest.Resembles.described_eq {request request' : SimRequest}
    (h : request.Resembles request') : request.described = request'.described := by
  cases h <;> rfl

namespace SimLock

/-- Locks that differ in the PUK that they hold only. -/
structure Resembles (lock lock' : SimLock) : Prop where
  state : lock.state = lock'.state
  lastKind : lock.lastKind = lock'.lastKind
  lastFault : lock.lastFault = lock'.lastFault
  holdsPuk : lock.pendingPuk.isSome = lock'.pendingPuk.isSome

variable {lock lock' : SimLock}

/-- What a lock and the request that it prepared look like. -/
def PreparesAlike (result result' : SimLock × SimRequest) : Prop :=
  result.1.Resembles result'.1 ∧ result.2.Resembles result'.2

theorem Resembles.described_eq (h : lock.Resembles lock') : lock.described = lock'.described := by
  have hpuk (puk puk' : Option String) (hsame : puk.isSome = puk'.isSome) :
      describedOption (fun _ ↦ Text.quoted "***") puk =
        describedOption (fun _ ↦ Text.quoted "***") puk' := by
    cases puk <;> cases puk' <;> first | rfl | cases hsame
  unfold described
  rw [h.state, h.lastKind, h.lastFault, hpuk _ _ h.holdsPuk]

theorem Resembles.unexpected (h : lock.Resembles lock') {α β : Type} (R : α → β → Prop)
    (reason : String) : Concordant R (lock.unexpected reason) (lock'.unexpected reason) := by
  unfold SimLock.unexpected
  rw [h.state]
  exact .error _

theorem Resembles.sync (h : lock.Resembles lock') (required : Option CredentialKind)
    (retries : Retries) : (lock.sync required retries).Resembles (lock'.sync required retries) := by
  unfold SimLock.sync
  rw [h.state]
  refine ⟨rfl, h.lastKind, h.lastFault, ?_⟩
  dsimp only
  split
  · exact h.holdsPuk
  · rfl

theorem Resembles.enter (h : lock.Resembles lock') {pin pin' : String} (hpin : SameForm pin pin') :
    Concordant PreparesAlike (lock.enter pin) (lock'.enter pin') := by
  unfold SimLock.enter
  rw [← h.state]
  split
  next kind _ =>
    apply Concordant.check hpin
    exact .ok ⟨⟨rfl, rfl, h.lastFault, h.holdsPuk⟩, .enter kind pin pin'⟩
  next => exact h.unexpected _ _

theorem Resembles.submitPuk (h : lock.Resembles lock') {puk puk' : String}
    (hpuk : SameForm puk puk') :
    Concordant Resembles (lock.submitPuk puk) (lock'.submitPuk puk') := by
  unfold SimLock.submitPuk
  rw [← h.state]
  split
  next kind _ =>
    apply Concordant.check hpuk
    exact .ok ⟨rfl, rfl, h.lastFault, rfl⟩
  next => exact h.unexpected _ _

theorem Resembles.reset (h : lock.Resembles lock') {newPin newPin' : String}
    (hpin : SameForm newPin newPin') :
    Concordant SimRequest.Resembles (lock.reset newPin) (lock'.reset newPin') := by
  unfold SimLock.reset
  rw [← h.state]
  split
  next pukKind _ =>
    split
    · exact h.unexpected _ _
    next target _ =>
      apply Concordant.check hpin
      have hpuk := h.holdsPuk
      cases hheld : lock.pendingPuk <;> cases hheld' : lock'.pendingPuk
      all_goals rw [hheld, hheld'] at hpuk
      · exact h.unexpected _ _
      · cases hpuk
      · cases hpuk
      · exact .ok (.reset pukKind _ newPin _ newPin')
  next => exact h.unexpected _ _

theorem Resembles.change (h : lock.Resembles lock') (kind : CredentialKind)
    {oldPin newPin oldPin' newPin' : String} (hold : SameForm oldPin oldPin')
    (hnew : SameForm newPin newPin') :
    Concordant PreparesAlike (lock.change kind oldPin newPin)
      (lock'.change kind oldPin' newPin') := by
  unfold SimLock.change
  split
  · apply Concordant.check hold
    apply Concordant.check hnew
    exact .ok ⟨⟨h.state, rfl, h.lastFault, h.holdsPuk⟩, .change kind oldPin newPin oldPin' newPin'⟩
  · exact .error _

theorem Resembles.succeed (h : lock.Resembles lock') {request request' : SimRequest}
    (hrequest : request.Resembles request') :
    (lock.succeed request).Resembles (lock'.succeed request') := by
  cases hrequest with
  | enter kind pin pin' =>
    unfold SimLock.succeed
    dsimp only
    rw [← h.state]
    split
    all_goals exact ⟨rfl, h.lastKind, rfl, h.holdsPuk⟩
  | reset => exact ⟨rfl, h.lastKind, rfl, rfl⟩
  | change => exact ⟨h.state, h.lastKind, rfl, h.holdsPuk⟩

theorem Resembles.fail (h : lock.Resembles lock') {request request' : SimRequest}
    (hrequest : request.Resembles request') (fault : CredentialFault) :
    (lock.fail request fault).Resembles (lock'.fail request' fault) := by
  cases hrequest with
  | enter => exact ⟨h.state, h.lastKind, rfl, h.holdsPuk⟩
  | reset pukKind =>
    have hstate := h.state
    exact ⟨by simp only [SimLock.fail, hstate], h.lastKind, rfl, rfl⟩
  | change => exact ⟨h.state, h.lastKind, rfl, h.holdsPuk⟩

theorem Resembles.complete (h : lock.Resembles lock') {request request' : SimRequest}
    (hrequest : request.Resembles request') (outcome : Outcome) :
    (lock.complete request outcome).Resembles (lock'.complete request' outcome) := by
  cases outcome with
  | ok done => exact h.succeed hrequest
  | error failure => exact h.fail hrequest (.ofFailure failure)

end SimLock

namespace SimSession

/-- Sessions that differ in the PUK that is held and in the credentials of their requests only. -/
structure Resembles (session session' : SimSession) : Prop where
  lock : session.lock.Resembles session'.lock
  prepared : List.Forall₂ SimRequest.Resembles session.prepared session'.prepared

/-- Operations that are the same but for credentials, which have the same form. -/
inductive Operation.Alike : Operation → Operation → Prop
  | sync (required : Option CredentialKind) (retries : Retries) :
    Alike (.sync required retries) (.sync required retries)
  | enter {pin pin' : String} (hpin : SameForm pin pin') : Alike (.enter pin) (.enter pin')
  | submitPuk {puk puk' : String} (hpuk : SameForm puk puk') :
    Alike (.submitPuk puk) (.submitPuk puk')
  | reset {newPin newPin' : String} (hpin : SameForm newPin newPin') :
    Alike (.reset newPin) (.reset newPin')
  | change (kind : CredentialKind) {oldPin newPin oldPin' newPin' : String}
    (hold : SameForm oldPin oldPin') (hnew : SameForm newPin newPin') :
    Alike (.change kind oldPin newPin) (.change kind oldPin' newPin')
  | finish (place : Nat) (outcome : Outcome) :
    Alike (.finish place outcome) (.finish place outcome)

/-- What can be seen of an operation and of the lock after it. -/
structure Observation where
  refused : Option Failure
  message : Option String
  state : LockState
  lastKind : Option CredentialKind
  lastFault : Option CredentialFault
  holdsPuk : Bool
  lock : String
  requests : List String

def refusal (session : SimSession) (operation : Operation) : Option Failure :=
  match session.perform operation with
  | .ok _ => none
  | .error failure => some failure

def observe (session : SimSession) (operation : Operation) : Observation :=
  let after := session.after operation
  { refused := session.refusal operation
    message := (session.refusal operation).map Failure.message
    state := after.lock.state
    lastKind := after.lock.lastKind
    lastFault := after.lock.lastFault
    holdsPuk := after.lock.pendingPuk.isSome
    lock := after.lock.described
    requests := after.prepared.map SimRequest.described }

/-- What can be seen at every step. -/
def observations : SimSession → List Operation → List Observation
  | _, [] => []
  | session, operation :: operations =>
    session.observe operation :: observations (session.after operation) operations

variable {session session' : SimSession} {operation operation' : Operation}

theorem Resembles.withLock (h : session.Resembles session') {lock lock' : SimLock}
    (hlock : lock.Resembles lock') : (session.withLock lock).Resembles (session'.withLock lock') :=
  ⟨hlock, h.prepared⟩

theorem Resembles.prepare (h : session.Resembles session') {result result' : SimLock × SimRequest}
    (hresult : SimLock.PreparesAlike result result') :
    (session.prepare result).Resembles (session'.prepare result') :=
  ⟨hresult.1, List.rel_append h.prepared (.cons hresult.2 .nil)⟩

theorem rel_getElem? {requests requests' : List SimRequest}
    (h : List.Forall₂ SimRequest.Resembles requests requests') (place : Nat) :
    Option.Rel SimRequest.Resembles requests[place]? requests'[place]? := by
  induction h generalizing place with
  | nil => exact .none
  | cons hfirst _ ih =>
    cases place with
    | zero => exact .some hfirst
    | succ place => exact ih place

theorem Resembles.finish (h : session.Resembles session') (place : Nat) (outcome : Outcome) :
    Concordant Resembles (session.perform (.finish place outcome))
      (session'.perform (.finish place outcome)) := by
  have hplace := rel_getElem? h.prepared place
  unfold SimSession.perform
  dsimp only
  generalize session.prepared[place]? = request at hplace ⊢
  generalize session'.prepared[place]? = request' at hplace ⊢
  cases hplace with
  | some hrequest => exact .ok (h.withLock (h.lock.complete hrequest outcome))
  | none => exact .ok h

/-- Alike operations go through or are refused alike. -/
theorem Resembles.perform (h : session.Resembles session') (halike : operation.Alike operation') :
    Concordant Resembles (session.perform operation) (session'.perform operation') := by
  cases halike with
  | sync required retries => exact .ok (h.withLock (h.lock.sync required retries))
  | enter hpin => exact (h.lock.enter hpin).map fun _ _ ↦ h.prepare
  | submitPuk hpuk => exact (h.lock.submitPuk hpuk).map fun _ _ ↦ h.withLock
  | reset hpin => exact (h.lock.reset hpin).map fun _ _ hrequest ↦ h.prepare ⟨h.lock, hrequest⟩
  | change kind hold hnew => exact (h.lock.change kind hold hnew).map fun _ _ ↦ h.prepare
  | finish place outcome => exact h.finish place outcome

theorem Resembles.after (h : session.Resembles session') (halike : operation.Alike operation') :
    (session.after operation).Resembles (session'.after operation') := by
  have hperform := h.perform halike
  unfold SimSession.after
  generalize session.perform operation = result at hperform ⊢
  generalize session'.perform operation' = result' at hperform ⊢
  cases hperform with
  | ok hafter => exact hafter
  | error failure => exact h

theorem Resembles.refusal_eq (h : session.Resembles session')
    (halike : operation.Alike operation') :
    session.refusal operation = session'.refusal operation' := by
  have hperform := h.perform halike
  unfold refusal
  generalize session.perform operation = result at hperform ⊢
  generalize session'.perform operation' = result' at hperform ⊢
  cases hperform <;> rfl

theorem Resembles.observe_eq (h : session.Resembles session')
    (halike : operation.Alike operation') :
    session.observe operation = session'.observe operation' := by
  have hafter := h.after halike
  have hrequests : (session.after operation).prepared.map SimRequest.described =
      (session'.after operation').prepared.map SimRequest.described := by
    have hmap := List.rel_map (P := Eq) (fun _ _ hrequest ↦ hrequest.described_eq) hafter.prepared
    rwa [List.forall₂_eq_eq_eq] at hmap
  unfold observe
  dsimp only
  rw [h.refusal_eq halike, hafter.lock.state, hafter.lock.lastKind, hafter.lock.lastFault,
    hafter.lock.holdsPuk, hafter.lock.described_eq, hrequests]

theorem Resembles.observations_eq (h : session.Resembles session')
    {operations operations' : List Operation}
    (halike : List.Forall₂ Operation.Alike operations operations') :
    session.observations operations = session'.observations operations' := by
  induction halike generalizing session session' with
  | nil => rfl
  | cons hfirst _ ih =>
    unfold observations
    rw [h.observe_eq hfirst, ih (h.after hfirst)]

/-- Sessions in which the same is done with credentials of the same form cannot be told apart: at
every step both go through or are refused for the same reason, and the lock and the requests look
the same. -/
theorem secrets_unobservable {operations operations' : List Operation}
    (h : List.Forall₂ Operation.Alike operations operations') :
    observations {} operations = observations {} operations' :=
  Resembles.observations_eq ⟨⟨rfl, rfl, rfl, rfl⟩, .nil⟩ h

/-- A PUK is taken and the reset is refused by the SIM; then a change of PIN is refused, because
what was typed in is no PIN. -/
def refusedReset (puk newPin typed : String) : List Operation :=
  [.sync (some .puk) ∅, .submitPuk puk, .reset newPin,
    .finish 0 (.error (.refused "org.ofono.Error.IncorrectPassword" none)),
    .change .pin newPin typed]

/-- Other credentials go out, but nothing of it shows. -/
theorem secrets_unobservable_refused :
    let operations := refusedReset "12345678" "1234" "12é"
    let operations' := refusedReset "87654321" "4711" "é21"
    (run operations).prepared ≠ (run operations').prepared ∧
      observations {} operations = observations {} operations' := by
  intro operations operations'
  refine ⟨by decide +kernel, secrets_unobservable ?_⟩
  have hpuk : SameForm "12345678" "87654321" := ⟨by decide, by decide⟩
  have hpin : SameForm "1234" "4711" := ⟨by decide, by decide⟩
  have htyped : SameForm "12é" "é21" := ⟨by decide, by decide⟩
  exact .cons (.sync _ _) (.cons (.submitPuk hpuk) (.cons (.reset hpin)
    (.cons (.finish _ _) (.cons (.change .pin hpin htyped) .nil))))

end SimSession

end Uplink
