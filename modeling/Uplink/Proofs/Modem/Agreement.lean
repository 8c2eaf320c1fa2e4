import Uplink.Proofs.Modem.Course
/-!
# The lock agrees with the daemon

Three parts of a modem's record speak of the same thing: what the SIM waits for, how many attempts
are left, and the state of the lock. The first two come from the daemon; the lock follows them at
each report, and moves on its own when a PUK is typed in and when a call ends. It never says
anything that the other two do not bear out, so that a PUK is never taken or used when no attempts
are left.
-/

namespace Uplink

open Wire (Value Properties)

/-- Whether a lock can be in this state when the daemon asks for this credential and has reported
these attempts. -/
def LockState.Agrees (required : Option CredentialKind) (retries : Retries) : LockState → Prop
  | clear => True
  | pinRequired kind => required = some kind ∧ kind.isPuk = false
  | pukRequired kind => required = some kind ∧ kind.isPuk = true ∧ retries.get? kind ≠ some 0
  | newPinRequired kind => required = some kind ∧ kind.isPuk = true ∧ retries.get? kind ≠ some 0
  | locked kind => required = some kind ∧ kind.isPuk = true ∧ retries.get? kind = some 0

namespace LockState

variable {state : LockState} {required : Option CredentialKind} {retries : Retries}

theorem Agrees.eq_clear (h : state.Agrees none retries) : state = .clear := by
  cases state with
  | clear => rfl
  | _ => cases h.1

end LockState

namespace SimLock

variable {lock : SimLock} {required : Option CredentialKind} {retries : Retries}

theorem agrees_stateFor (state : LockState) (required : Option CredentialKind)
    (retries : Retries) : (stateFor state required retries).Agrees required retries := by
  unfold stateFor
  cases required with
  | none => trivial
  | some kind =>
    dsimp only
    split
    next hpuk =>
      split
      next hlocked => exact ⟨rfl, hpuk, hlocked⟩
      next hleft => split <;> exact ⟨rfl, hpuk, hleft⟩
    next hpin => exact ⟨rfl, by simpa using hpin⟩

theorem agrees_submitPuk (h : lock.state.Agrees required retries) {lock' : SimLock} {puk : String}
    (hsubmit : lock.submitPuk puk = .ok lock') : lock'.state.Agrees required retries := by
  obtain ⟨kind, hstate, -, rfl⟩ := submitPuk_eq_ok_iff.1 hsubmit
  rw [hstate] at h
  exact h

/-- The end of a call only clears the state, or waits for the PUK anew. -/
theorem agrees_complete (h : lock.state.Agrees required retries) (request : SimRequest)
    (outcome : Outcome) : (lock.complete request outcome).state.Agrees required retries := by
  cases outcome with
  | ok done =>
    cases request with
    | enter kind pin =>
      unfold complete succeed
      dsimp only
      split
      · trivial
      · exact h
    | reset pukKind puk newPin => trivial
    | change kind oldPin newPin => exact h
  | error failure =>
    cases request with
    | reset pukKind puk newPin =>
      unfold complete fail
      dsimp only
      split
      next hstate =>
        rw [hstate] at h
        exact h
      next => exact h
    | enter kind pin => exact h
    | change kind oldPin newPin => exact h

end SimLock

/-- Whether the lock of a modem agrees with what is known from the daemon, which never asks for no
credential in so many words. -/
structure Modem.Agrees (modem : Modem) : Prop where
  state : modem.lock.state.Agrees modem.required modem.retries
  named : modem.required ≠ some .none

theorem CredentialKind.required?_ne_none (value : Value) : required? value ≠ some .none := by
  intro h
  obtain ⟨-, hnamed⟩ := Option.filter_eq_some_iff.1 h
  exact absurd rfl (of_decide_eq_true hnamed)

namespace Counted

variable {counted changed : Counted}

theorem agrees_setRequired (counted : Counted) {required : Option CredentialKind}
    (hnamed : required ≠ some .none) : (counted.setRequired required).modem.Agrees where
  state := SimLock.agrees_stateFor _ required _
  named := hnamed

theorem agrees_report (counted : Counted) (properties : Properties) :
    (counted.report properties).modem.Agrees := by
  apply agrees_setRequired
  intro h
  obtain ⟨value, -, hvalue⟩ := Option.bind_eq_some_iff.1 h
  exact CredentialKind.required?_ne_none value hvalue

theorem agrees_setProperty? (h : counted.modem.Agrees) {key : String} {value : Value}
    (hchange : counted.setProperty? key value = some changed) : changed.modem.Agrees := by
  unfold setProperty? at hchange
  split at hchange
  · obtain rfl := Option.some.inj hchange
    exact ⟨h.state, h.named⟩
  · obtain rfl := Option.some.inj hchange
    exact counted.agrees_setRequired (CredentialKind.required?_ne_none value)
  · obtain rfl := Option.some.inj hchange
    exact ⟨SimLock.agrees_stateFor _ _ _, h.named⟩
  · obtain rfl := Option.some.inj hchange
    exact ⟨h.state, h.named⟩
  · cases hchange

end Counted

theorem Modem.stable_agrees : Modem.Stable Modem.Agrees where
  announce path := ⟨trivial, nofun⟩
  describe {modem described} h hsame := by
    constructor
    · rw [← hsame.lock, ← hsame.required, ← hsame.retries]
      exact h.state
    · rw [← hsame.required]
      exact h.named
  attach h _ := ⟨h.state, h.named⟩
  detach _ := ⟨trivial, nofun⟩
  report _ _ properties := Counted.agrees_report _ properties
  change h _ hchange := Counted.agrees_setProperty? h hchange
  note h _ hnote := by
    refine ⟨?_, h.named⟩
    rcases hnote with ⟨kind, rfl⟩ | ⟨puk, hsubmit⟩
    · exact h.state
    · exact SimLock.agrees_submitPuk h.state hsubmit
  complete h request outcome := ⟨SimLock.agrees_complete h.state request outcome, h.named⟩

namespace Tracker

variable {tracker : Tracker}

theorem Reachable.find?_agrees (h : tracker.Reachable) {path : String} {modem : Modem}
    (hfind : tracker.modems.find? path = some modem) : modem.Agrees :=
  (h.all Modem.stable_agrees).find? hfind

/-- In every state that the tracker can get into, the lock of each modem agrees with the credential
that the daemon asks for and with the attempts that it has reported. A PUK is taken, and a reset
prepared, only for a kind of which attempts are left. -/
theorem lock_agrees (h : tracker.Reachable) :
    (∀ path modem, tracker.modems.find? path = some modem →
      modem.lock.state.Agrees modem.required modem.retries ∧
      (modem.required = none → modem.lock.state = .clear) ∧
      modem.required ≠ some .none) ∧
    (∀ path puk modems, tracker.modems.submitPuk path puk = .ok modems →
      ∃ modem kind, tracker.modems.find? path = some modem ∧
        modem.lock.state = .pukRequired kind ∧ modem.retries.get? kind ≠ some 0) ∧
    ∀ path newPin request, tracker.modems.reset path newPin = .ok request →
      ∃ modem kind puk, tracker.modems.find? path = some modem ∧
        request = .reset kind puk newPin ∧ modem.retries.get? kind ≠ some 0 := by
  refine ⟨fun path modem hfind ↦ ?_, fun path puk modems hsubmit ↦ ?_,
    fun path newPin request hreset ↦ ?_⟩
  · have hagrees := h.find?_agrees hfind
    refine ⟨hagrees.state, fun hnone ↦ ?_, hagrees.named⟩
    have hstate := hagrees.state
    rw [hnone] at hstate
    exact hstate.eq_clear
  · obtain ⟨entry, lock, ⟨hfind, -⟩, hlock, -⟩ := ModemRoster.submitPuk_eq_ok_iff.1 hsubmit
    obtain ⟨kind, hstate, -, -⟩ := SimLock.submitPuk_eq_ok_iff.1 hlock
    have hmodem := ModemRoster.find?_of_entry hfind
    have hagrees := (h.find?_agrees hmodem).state
    rw [hstate] at hagrees
    exact ⟨entry.modem, kind, hmodem, hstate, hagrees.2.2⟩
  · obtain ⟨entry, ⟨hfind, -⟩, hlock⟩ := ModemRoster.reset_eq_ok_iff.1 hreset
    obtain ⟨kind, target, puk, hstate, -, -, -, rfl⟩ := SimLock.reset_eq_ok_iff.1 hlock
    have hmodem := ModemRoster.find?_of_entry hfind
    have hagrees := (h.find?_agrees hmodem).state
    rw [hstate] at hagrees
    exact ⟨entry.modem, kind, puk, hmodem, rfl, hagrees.2.2⟩

/-- A SIM waits for its PUK, and no attempts are left. -/
def blockedSim : List Event :=
  [.modemAdded onlyModem (.ofPairs [("Interfaces", .ofTexts [Modem.simManagerInterface])]),
    .simFetched ⟨onlyModem, 1⟩
      (.ofPairs [("PinRequired", .text "puk"), ("Retries", .ofProperties [("puk", .byte 0)])])]

/-- Its lock says so, and takes no PUK. -/
theorem lock_agrees_blocked :
    let tracker := run blockedSim
    tracker.Reachable ∧
      (∃ modem, tracker.modems.find? "/modem" = some modem ∧ modem.lock.state = .locked .puk ∧
        modem.required = some .puk ∧ modem.retries.get? .puk = some 0) ∧
      ∀ puk modems, tracker.modems.submitPuk "/modem" puk ≠ .ok modems := by
  intro tracker
  have hreachable : tracker.Reachable := reachable_run blockedSim
  have hlocked : (tracker.modems.find? "/modem").map (·.lock.state) = some (.locked .puk) := by
    decide +kernel
  obtain ⟨modem, hmodem, hstate⟩ := Option.map_eq_some_iff.1 hlocked
  obtain ⟨hagrees, hsubmit, -⟩ := lock_agrees hreachable
  have hblocked := (hagrees "/modem" modem hmodem).1
  rw [hstate] at hblocked
  refine ⟨hreachable, ⟨modem, hmodem, hstate, hblocked.1, hblocked.2.2⟩, fun puk modems htaken ↦ ?_⟩
  obtain ⟨other, kind, hother, hwaits, -⟩ := hsubmit "/modem" puk modems htaken
  obtain rfl := Option.some.inj (hmodem.symm.trans hother)
  rw [hstate] at hwaits
  cases hwaits

end Tracker

end Uplink
