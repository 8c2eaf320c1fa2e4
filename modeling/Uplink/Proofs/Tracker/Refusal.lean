import Uplink.Proofs.Modem.HeldPuk
import Uplink.Proofs.Modem.Locality
/-!
# Commands that are refused

A command is refused if its modem is not tracked or has no SIM manager, if its lock is not in the
state that the command is for, or if a credential is not of the form of its kind. Nothing else is a
reason to refuse it, and the answer names a reason that there is. A refused command asks for nothing
and leaves everything as it was, be it checked in one step or in several.
-/

namespace Uplink

namespace SimLock

variable {lock : SimLock} {command : SimCommand} {failure : Failure}

/-- Whether the lock is in the state that the command is for. A PIN can be changed in every state,
and a PUK in none. -/
def Fits (lock : SimLock) : SimCommand → Prop
  | .enter .. => ∃ kind, lock.state = .pinRequired kind
  | .submitPuk .. => ∃ kind, lock.state = .pukRequired kind
  | .reset .. => ∃ kind puk, lock.held? = some (kind, puk)
  | .change _ kind _ _ => kind.isPin = true

/-- The credentials that come with the command, each with the kind that it has to be of here. -/
def credentials (lock : SimLock) : SimCommand → List (CredentialKind × String)
  | .enter _ pin =>
    match lock.state with
    | .pinRequired kind => [(kind, pin)]
    | _ => []
  | .submitPuk _ puk =>
    match lock.state with
    | .pukRequired kind => [(kind, puk)]
    | _ => []
  | .reset _ newPin =>
    match lock.state with
    | .newPinRequired kind => kind.resetTarget?.toList.map fun target ↦ (target, newPin)
    | _ => []
  | .change _ kind oldPin newPin => [(kind, oldPin), (kind, newPin)]

/-- What a lock can have against a command. -/
inductive Objects (lock : SimLock) (command : SimCommand) : Failure → Prop
  | state {reason : String} (h : ¬ lock.Fits command) :
    Objects lock command (.unexpectedState reason)
  | credential {kind : CredentialKind} {text : String} {cause : CredentialError}
    (hgiven : (kind, text) ∈ lock.credentials command)
    (hinvalid : kind.validate text = .error cause) :
    Objects lock command (.invalidCredential cause)

theorem checked_eq_error_iff {kind : CredentialKind} {text : String} :
    checked kind text = .error failure ↔
      ∃ cause, kind.validate text = .error cause ∧ failure = .invalidCredential cause := by
  unfold checked
  cases kind.validate text with
  | error cause => simp [Except.mapError, eq_comm]
  | ok done => simp [Except.mapError]

/-- A credential that is refused was given with the command. -/
theorem objects_of_checked {kind : CredentialKind} {text : String}
    (hgiven : (kind, text) ∈ lock.credentials command)
    (h : checked kind text = .error failure) : lock.Objects command failure := by
  obtain ⟨cause, hinvalid, rfl⟩ := checked_eq_error_iff.1 h
  exact .credential hgiven hinvalid

/-- Where a credential is checked first, it is refused, or what comes next is. -/
theorem checked_bind_eq_error {α : Type} {kind : CredentialKind} {text : String}
    {next : Except Failure α} (h : (checked kind text >>= fun _ ↦ next) = .error failure) :
    checked kind text = .error failure ∨ next = .error failure := by
  cases hchecked : checked kind text with
  | error refused =>
    rw [hchecked] at h
    cases h
    exact .inl rfl
  | ok done =>
    rw [hchecked] at h
    exact .inr h

/-- Where nothing is left to fail after the check, it is the credential that is refused. -/
theorem objects_of_checked_ok {α : Type} {kind : CredentialKind} {text : String} {value : α}
    (hgiven : (kind, text) ∈ lock.credentials command)
    (h : (checked kind text >>= fun _ ↦ .ok value) = .error failure) :
    lock.Objects command failure := by
  rcases checked_bind_eq_error h with hrefused | hnext
  · exact objects_of_checked hgiven hrefused
  · cases hnext

theorem map_eq_error_iff {α β : Type} {result : Except Failure α} {f : α → β} :
    result.map f = .error failure ↔ result = .error failure := by
  cases result <;> simp [Except.map]

/-- A lock refuses a command only for what it has against it. -/
theorem objects_of_attempt (hwaits : lock.WaitsForPukKind)
    (h : lock.attempt command = .error failure) : lock.Objects command failure := by
  cases command with
  | enter modem pin =>
    rw [attempt, map_eq_error_iff, SimLock.enter] at h
    split at h
    next kind hstate => exact objects_of_checked_ok (by simp [credentials, hstate]) h
    next hother =>
      cases h
      refine .state ?_
      rintro ⟨kind, hstate⟩
      exact hother kind hstate
  | submitPuk modem puk =>
    rw [attempt, map_eq_error_iff, SimLock.submitPuk] at h
    split at h
    next kind hstate => exact objects_of_checked_ok (by simp [credentials, hstate]) h
    next hother =>
      cases h
      refine .state ?_
      rintro ⟨kind, hstate⟩
      exact hother kind hstate
  | reset modem newPin =>
    rw [attempt, map_eq_error_iff, SimLock.reset] at h
    split at h
    next kind hstate =>
      obtain ⟨target, htarget⟩ := CredentialKind.isPuk_iff.1 (hwaits kind (.inr hstate))
      rw [htarget] at h
      rcases checked_bind_eq_error h with hrefused | hnext
      · exact objects_of_checked (by simp [credentials, hstate, htarget]) hrefused
      · split at hnext
        next hpuk =>
          cases hnext
          refine .state ?_
          rintro ⟨held, puk, hheld⟩
          rw [(held?_eq_some_iff.1 hheld).2] at hpuk
          cases hpuk
        next => cases hnext
    next hother =>
      cases h
      refine .state ?_
      rintro ⟨kind, puk, hheld⟩
      exact hother kind (held?_eq_some_iff.1 hheld).1
  | change modem kind oldPin newPin =>
    rw [attempt, map_eq_error_iff, SimLock.change] at h
    split at h
    next hpin =>
      rcases checked_bind_eq_error h with hrefused | hnext
      · exact objects_of_checked (by simp [credentials]) hrefused
      · exact objects_of_checked_ok (by simp [credentials]) hnext
    next hpin =>
      cases h
      exact .state hpin

/-- A lock that carries out a command has nothing against it. -/
theorem not_objects_of_attempt {result : SimLock × Option SimRequest}
    (h : lock.attempt command = .ok result) (failure : Failure) :
    ¬ lock.Objects command failure := by
  have hplain : lock.Fits command ∧ ∀ pair ∈ lock.credentials command, pair.1.Accepts pair.2 := by
    cases command with
    | enter modem pin =>
      cases henter : lock.enter pin with
      | error refused => simp [attempt, henter, Except.map] at h
      | ok prepared =>
        obtain ⟨kind, hstate, haccepts, -⟩ := enter_eq_ok_iff.1 henter
        exact ⟨⟨kind, hstate⟩, by simp [credentials, hstate, haccepts]⟩
    | submitPuk modem puk =>
      cases hsubmit : lock.submitPuk puk with
      | error refused => simp [attempt, hsubmit, Except.map] at h
      | ok taken =>
        obtain ⟨kind, hstate, haccepts, -⟩ := submitPuk_eq_ok_iff.1 hsubmit
        exact ⟨⟨kind, hstate⟩, by simp [credentials, hstate, haccepts]⟩
    | reset modem newPin =>
      cases hreset : lock.reset newPin with
      | error refused => simp [attempt, hreset, Except.map] at h
      | ok request =>
        obtain ⟨kind, target, puk, hstate, htarget, haccepts, hpuk, -⟩ := reset_eq_ok_iff.1 hreset
        exact ⟨⟨kind, puk, held?_eq_some_iff.2 ⟨hstate, hpuk⟩⟩,
          by simp [credentials, hstate, htarget, haccepts]⟩
    | change modem kind oldPin newPin =>
      cases hchange : lock.change kind oldPin newPin with
      | error refused => simp [attempt, hchange, Except.map] at h
      | ok prepared =>
        obtain ⟨hpin, hold, hnew, -⟩ := change_eq_ok_iff.1 hchange
        exact ⟨hpin, by simp [credentials, hold, hnew]⟩
  rintro (hfits | ⟨hgiven, hinvalid⟩)
  · exact hfits hplain.1
  · cases hinvalid.symm.trans (hplain.2 _ hgiven)

end SimLock

theorem Modem.Agrees.waitsForPukKind {modem : Modem} (h : modem.Agrees) :
    modem.lock.WaitsForPukKind := by
  intro kind hstate
  have hagrees := h.state
  rcases hstate with hstate | hstate
  · rw [hstate] at hagrees
    exact hagrees.2.1
  · rw [hstate] at hagrees
    exact hagrees.2.1

namespace ModemRoster

variable {roster : ModemRoster} {command : SimCommand} {failure : Failure}

/-- The reasons to refuse a command, each with the answer that names it. -/
inductive Refuses (roster : ModemRoster) (command : SimCommand) : Failure → Prop
  | untracked (h : roster.find? command.modem = none) :
    Refuses roster command (.unknownModem command.modem)
  | bare {modem : Modem} (hfind : roster.find? command.modem = some modem)
    (h : modem.hasSimManager = false) : Refuses roster command (.noSimManager command.modem)
  | lock {modem : Modem} {failure : Failure} (hfind : roster.find? command.modem = some modem)
    (h : modem.lock.Objects command failure) : Refuses roster command failure

theorem refuses_of_attempt (hagrees : roster.All Modem.Agrees)
    (h : roster.attempt command = .error failure) : roster.Refuses command failure := by
  unfold attempt simModem at h
  split at h
  next hnone =>
    cases h
    exact .untracked (Option.map_eq_none_iff.2 hnone)
  next entry hentry =>
    have hmodem := find?_of_entry hentry
    cases hattached : entry.modem.hasSimManager with
    | false =>
      rw [hattached] at h
      cases h
      exact .bare hmodem hattached
    | true =>
      rw [hattached, if_pos rfl] at h
      dsimp only [bind, Except.bind] at h
      refine .lock hmodem (SimLock.objects_of_attempt (hagrees.find? hmodem).waitsForPukKind ?_)
      cases hlock : entry.modem.lock.attempt command with
      | error refused =>
        rw [hlock] at h
        cases h
        rfl
      | ok result =>
        rw [hlock] at h
        cases h

theorem not_refuses_of_attempt {result : Entry × SimLock × Option SimRequest}
    (h : roster.attempt command = .ok result) (failure : Failure) :
    ¬ roster.Refuses command failure := by
  obtain ⟨entry, lock, prepared⟩ := result
  obtain ⟨⟨hentry, hattached⟩, hlock⟩ := attempt_eq_ok_iff.1 h
  have hmodem := find?_of_entry hentry
  intro hrefuses
  cases hrefuses with
  | untracked hnone => cases hnone.symm.trans hmodem
  | bare hfind hbare =>
    obtain rfl := Option.some.inj (hfind.symm.trans hmodem)
    cases hbare.symm.trans hattached
  | lock hfind hobjects =>
    obtain rfl := Option.some.inj (hfind.symm.trans hmodem)
    exact SimLock.not_objects_of_attempt hlock _ hobjects

end ModemRoster

namespace Tracker

variable {tracker : Tracker}

/-- A command is an attempt on the lock of its modem: it is refused if the attempt fails, and is
followed by a call if the attempt comes to a request. -/
theorem Reachable.commanded_eq (h : tracker.Reachable) (number : Nat) (command : SimCommand) :
    tracker.handle (.commanded number command) =
      match tracker.modems.attempt command with
      | .ok (entry, lock, some request) =>
        { tracker := { tracker with modems := tracker.modems.setLock entry lock }
          actions := [.simCall ⟨number, command.modem, request⟩] }
      | .ok (entry, lock, none) =>
        { tracker := tracker.withModems (tracker.modems.setLock entry lock)
          replies := [⟨number, .ok ()⟩] }
      | .error failure => tracker.refused number failure := by
  change tracker.command number command = _
  rw [command_eq, h.keyed.carryOut_eq]
  cases tracker.modems.attempt command with
  | error failure => rfl
  | ok result =>
    obtain ⟨entry, lock, prepared⟩ := result
    cases prepared <;> rfl

/-- A command is answered with a failure exactly if there is a reason to refuse it, and the failure
names one. It then asks for nothing, and the tracker is exactly what it was. -/
theorem refused_iff (h : tracker.Reachable) (number : Nat) (command : SimCommand) :
    let step := tracker.handle (.commanded number command)
    ((∃ failure, ⟨number, .error failure⟩ ∈ step.replies) ↔
      ∃ failure, tracker.modems.Refuses command failure) ∧
    ∀ failure, ⟨number, .error failure⟩ ∈ step.replies →
      tracker.modems.Refuses command failure ∧ step.replies = [⟨number, .error failure⟩] ∧
        step.actions = [] ∧ step.tracker = tracker := by
  intro step
  have hstep : step = _ := h.commanded_eq number command
  cases hattempt : tracker.modems.attempt command with
  | error refused =>
    rw [hattempt] at hstep
    have hrefuses := ModemRoster.refuses_of_attempt (h.all Modem.stable_agrees) hattempt
    have hreplies : step.replies = [⟨number, .error refused⟩] := by
      rw [hstep]
      rfl
    refine ⟨iff_of_true ⟨refused, by simp [hreplies]⟩ ⟨refused, hrefuses⟩, fun failure hmem ↦ ?_⟩
    obtain rfl : failure = refused := by simpa [hreplies] using hmem
    refine ⟨hrefuses, hreplies, ?_, ?_⟩
    all_goals rw [hstep]; rfl
  | ok result =>
    have hnone (failure : Failure) : ⟨number, .error failure⟩ ∉ step.replies := by
      rw [hattempt] at hstep
      rw [hstep]
      obtain ⟨entry, lock, prepared⟩ := result
      cases prepared <;> simp
    refine ⟨iff_of_false ?_ ?_, fun failure hmem ↦ absurd hmem (hnone failure)⟩
    · rintro ⟨failure, hmem⟩
      exact hnone failure hmem
    · rintro ⟨failure, hrefuses⟩
      exact ModemRoster.not_refuses_of_attempt hattempt failure hrefuses

/-- A PIN is to be changed to one that is not all digits, while the SIM waits for the old one. -/
theorem refused_iff_malformed :
    let tracker := run lockedSim
    let step := tracker.handle (.commanded 0 (.change "/modem" .pin "1234" "12a4"))
    tracker.modems.Refuses (.change "/modem" .pin "1234" "12a4") (.invalidCredential .nonDecimal) ∧
      step.replies = [⟨0, .error (.invalidCredential .nonDecimal)⟩] ∧ step.actions = [] ∧
      step.tracker = tracker := by
  intro tracker step
  have hreachable : tracker.Reachable := reachable_run lockedSim
  have hanswered : ⟨0, .error (.invalidCredential .nonDecimal)⟩ ∈ step.replies :=
    List.mem_singleton.2 rfl
  exact (refused_iff hreachable 0 (.change "/modem" .pin "1234" "12a4")).2 _ hanswered

end Tracker

end Uplink
