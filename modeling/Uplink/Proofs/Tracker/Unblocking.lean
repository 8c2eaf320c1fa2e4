import Uplink.Proofs.Sim.Form
import Uplink.Proofs.Tracker.Refusal
/-!
# Unblocking a PIN

A SIM that waits for a PUK gets it by the command made for that, and by no other: the PUK is held,
goes out with the new PIN, and once that call succeeds the SIM waits for nothing. The command that
enters a PIN is refused all the while, whatever is typed in.
-/

namespace Uplink

namespace SimLock

variable {lock : SimLock} {kind target : CredentialKind} {puk newPin : String}

theorem enter_of_pukRequired (hstate : lock.state = .pukRequired kind) (pin : String) :
    lock.enter pin = lock.unexpected "no PIN is required" := by
  unfold enter
  rw [hstate]

/-- The lock once it has taken this PUK of this kind. -/
def holding (lock : SimLock) (kind : CredentialKind) (puk : String) : SimLock :=
  { lock with state := .newPinRequired kind, lastKind := some kind, pendingPuk := some puk }

theorem held?_holding (lock : SimLock) (kind : CredentialKind) (puk : String) :
    (lock.holding kind puk).held? = some (kind, puk) := rfl

theorem attempt_submitPuk (hstate : lock.state = .pukRequired kind) (hpuk : kind.Accepts puk)
    (modem : String) :
    lock.attempt (.submitPuk modem puk) = .ok (lock.holding kind puk, none) := by
  have hsubmit : lock.submitPuk puk = .ok (lock.holding kind puk) :=
    submitPuk_eq_ok_iff.2 ⟨kind, hstate, hpuk, rfl⟩
  rw [attempt, hsubmit]
  rfl

theorem attempt_reset (hheld : lock.held? = some (kind, puk))
    (htarget : kind.resetTarget? = some target) (hpin : target.Accepts newPin) (modem : String) :
    lock.attempt (.reset modem newPin) = .ok (lock, some (.reset kind puk newPin)) := by
  obtain ⟨hstate, hpuk⟩ := held?_eq_some_iff.1 hheld
  have hreset : lock.reset newPin = .ok (.reset kind puk newPin) :=
    reset_eq_ok_iff.2 ⟨kind, target, puk, hstate, htarget, hpin, hpuk, rfl⟩
  rw [attempt, hreset]
  rfl

end SimLock

namespace Tracker

variable {tracker : Tracker} {path puk : String} {modem : Modem} {kind : CredentialKind}

/-- A PIN cannot be entered where a PUK is asked for. -/
theorem Reachable.enter_refused (h : tracker.Reachable)
    (hmodem : tracker.modems.find? path = some modem) (hattached : modem.hasSimManager = true)
    (hstate : modem.lock.state = .pukRequired kind) (number : Nat) (pin : String) :
    tracker.handle (.commanded number (.enter path pin)) =
      tracker.refused number
        (.unexpectedState s!"no PIN is required (state {modem.lock.state.described})") := by
  obtain ⟨entry, hentry, rfl⟩ := ModemRoster.find?_eq_some_iff.1 hmodem
  have hfound := ModemRoster.simModem_eq_ok_iff.2 ⟨hentry, hattached⟩
  have hattempt : tracker.modems.attempt (.enter path pin) =
      entry.modem.lock.unexpected "no PIN is required" := by
    unfold ModemRoster.attempt SimLock.attempt
    dsimp only [SimCommand.modem]
    rw [hfound]
    dsimp only [bind, Except.bind]
    rw [SimLock.enter_of_pukRequired hstate]
    rfl
  rw [h.commanded_eq, hattempt]
  rfl

/-- A PUK of the right form is taken on the spot. -/
theorem Reachable.submitPuk_taken (h : tracker.Reachable) {entry : ModemRoster.Entry}
    (hentry : tracker.modems.entries.find? path = some entry)
    (hattached : entry.modem.hasSimManager = true)
    (hstate : entry.modem.lock.state = .pukRequired kind) (hpuk : kind.Accepts puk)
    (number : Nat) :
    tracker.handle (.commanded number (.submitPuk path puk)) =
      { tracker := tracker.withModems
          (tracker.modems.setLock entry (entry.modem.lock.holding kind puk))
        replies := [⟨number, .ok ()⟩] } := by
  have hattempt := ModemRoster.attempt_eq_ok_iff.2
    ⟨⟨hentry, hattached⟩, SimLock.attempt_submitPuk hstate hpuk path⟩
  rw [h.commanded_eq, hattempt]

/-- A new PIN goes out with the PUK that is held, and nothing changes until the call has ended. -/
theorem Reachable.reset_asked (h : tracker.Reachable) {entry : ModemRoster.Entry}
    (hentry : tracker.modems.entries.find? path = some entry)
    (hattached : entry.modem.hasSimManager = true)
    (hheld : entry.modem.lock.held? = some (kind, puk)) {target : CredentialKind} {newPin : String}
    (htarget : kind.resetTarget? = some target) (hpin : target.Accepts newPin) (number : Nat) :
    tracker.handle (.commanded number (.reset path newPin)) =
      { tracker, actions := [.simCall ⟨number, path, .reset kind puk newPin⟩] } := by
  have hattempt := ModemRoster.attempt_eq_ok_iff.2
    ⟨⟨hentry, hattached⟩, SimLock.attempt_reset hheld htarget hpin path⟩
  have hsame : tracker.modems.setLock entry entry.modem.lock = tracker.modems :=
    ModemRoster.put_eq_self (h.keyed.holds hentry)
  rw [h.commanded_eq, hattempt]
  dsimp only
  rw [hsame]
  rfl

/-- Where a PUK is asked for, the command to enter a PIN takes none: it is refused and changes
nothing. The command to submit a PUK takes every PUK of the right form without a call and holds it;
the reset that follows is the one call with this PUK and the new PIN, and its success leaves nothing
that is waited for. -/
theorem unblocked_by_submitPuk (h : tracker.Reachable)
    (hmodem : tracker.modems.find? path = some modem) (hattached : modem.hasSimManager = true)
    (hstate : modem.lock.state = .pukRequired kind) :
    (∀ number pin, tracker.handle (.commanded number (.enter path pin)) =
      tracker.refused number
        (.unexpectedState s!"no PIN is required (state {modem.lock.state.described})")) ∧
    ∃ target, kind.resetTarget? = some target ∧
      ∀ first second puk newPin, kind.HasForm puk → target.Accepts newPin →
        let taken := tracker.handle (.commanded first (.submitPuk path puk))
        let asked := taken.tracker.handle (.commanded second (.reset path newPin))
        let call : SimCall := ⟨second, path, .reset kind puk newPin⟩
        let ended := asked.tracker.handle (.callFinished call (.ok ()))
        (taken.actions = [] ∧ taken.replies = [⟨first, .ok ()⟩] ∧
          taken.tracker.modems.held? path = some (kind, puk)) ∧
        (asked.actions = [.simCall call] ∧ asked.replies = []) ∧
        ended.actions = [] ∧ ended.replies = [⟨second, .ok ()⟩] ∧
        ∃ after, ended.tracker.modems.find? path = some after ∧ after.lock.state = .clear ∧
          after.lock.pendingPuk = none := by
  refine ⟨h.enter_refused hmodem hattached hstate, ?_⟩
  have hagrees := (h.find?_agrees hmodem).state
  rw [hstate] at hagrees
  obtain ⟨-, hpuk, -⟩ := hagrees
  obtain ⟨target, htarget⟩ := CredentialKind.isPuk_iff.1 hpuk
  refine ⟨target, htarget, fun first second puk newPin hform hpin ↦ ?_⟩
  intro taken asked call ended
  obtain ⟨entry, hentry, rfl⟩ := ModemRoster.find?_eq_some_iff.1 hmodem
  have haccepts : kind.Accepts puk := (CredentialKind.accepts_iff_hasForm (.inr hpuk)).2 hform
  have htaken : taken = _ := h.submitPuk_taken hentry hattached hstate haccepts first
  let waiting : ModemRoster.Entry :=
    { entry with modem := { entry.modem with lock := entry.modem.lock.holding kind puk } }
  have hwaiting : taken.tracker.modems.entries.find? path = some waiting := by
    rw [htaken]
    change (tracker.modems.put waiting).entries.find? path = _
    rw [ModemRoster.find?_put, if_pos (h.keyed path entry hentry)]
  have hheld : waiting.modem.lock.held? = some (kind, puk) :=
    entry.modem.lock.held?_holding kind puk
  have hreachable : taken.tracker.Reachable := .handled _ h
  have hasked : asked = _ :=
    hreachable.reset_asked hwaiting hattached hheld htarget hpin second
  have hended : ended.tracker.modems.find? path = some { waiting.modem with
      lock := waiting.modem.lock.complete (.reset kind puk newPin) (.ok ()) } := by
    change (asked.tracker.modems.complete path (.reset kind puk newPin) (.ok ())).find? path = _
    rw [hasked, ModemRoster.find?_complete hreachable.keyed, if_pos rfl,
      ModemRoster.find?_of_entry hwaiting]
    rfl
  refine ⟨⟨?_, ?_, ?_⟩, ⟨?_, ?_⟩, rfl, rfl, _, hended, rfl, rfl⟩
  · rw [htaken]
  · rw [htaken]
  · exact (ModemRoster.held?_of_entry hwaiting).trans hheld
  · rw [hasked]
  · rw [hasked]

/-- A SIM waits for its PUK. -/
def blockedPin : Tracker :=
  run [.modemAdded onlyModem (.ofPairs [("Interfaces", .ofTexts [Modem.simManagerInterface])]),
    .simFetched ⟨onlyModem, 1⟩ (.ofPairs [("PinRequired", .text "puk")])]

theorem blockedPin_waits :
    ∃ modem, blockedPin.modems.find? "/modem" = some modem ∧ modem.hasSimManager = true ∧
      modem.lock.state = .pukRequired .puk := by
  have hwaits : (blockedPin.modems.find? "/modem").map
      (fun modem ↦ (modem.hasSimManager, modem.lock.state)) =
        some (true, .pukRequired .puk) := by decide +kernel
  obtain ⟨modem, hmodem, hboth⟩ := Option.map_eq_some_iff.1 hwaits
  exact ⟨modem, hmodem, congrArg Prod.fst hboth, congrArg Prod.snd hboth⟩

theorem hasForm_typed : CredentialKind.HasForm .puk "12345678" :=
  (CredentialKind.accepts_iff_hasForm (.inr rfl)).1 (by decide)

/-- Its PIN is set anew by the PUK. -/
theorem unblocked_by_submitPuk_reset :
    let taken := blockedPin.handle (.commanded 0 (.submitPuk "/modem" "12345678"))
    let asked := taken.tracker.handle (.commanded 1 (.reset "/modem" "1234"))
    let call : SimCall := ⟨1, "/modem", .reset .puk "12345678" "1234"⟩
    let ended := asked.tracker.handle (.callFinished call (.ok ()))
    taken.tracker.modems.held? "/modem" = some (.puk, "12345678") ∧
      asked.actions = [.simCall call] ∧
      ∃ after, ended.tracker.modems.find? "/modem" = some after ∧ after.lock.state = .clear := by
  intro taken asked call ended
  obtain ⟨modem, hmodem, hattached, hstate⟩ := blockedPin_waits
  obtain ⟨-, target, htarget, hunblocks⟩ :=
    unblocked_by_submitPuk (reachable_run _) hmodem hattached hstate
  obtain rfl : .pin = target := Option.some.inj htarget
  obtain ⟨⟨-, -, hheld⟩, ⟨hactions, -⟩, -, -, after, hafter, hclear, -⟩ :=
    hunblocks 0 1 "12345678" "1234" hasForm_typed (by decide)
  exact ⟨hheld, hactions, after, hafter, hclear⟩

/-- The PUK cannot be given by the command that enters a PIN. -/
theorem enter_takes_no_puk :
    ¬ ∀ (tracker : Tracker) (path : String) (modem : Modem) (kind : CredentialKind)
      (number : Nat) (puk : String), tracker.Reachable →
      tracker.modems.find? path = some modem → modem.hasSimManager = true →
      modem.lock.state = .pukRequired kind → kind.HasForm puk →
      let step := tracker.handle (.commanded number (.enter path puk))
      step.replies = [⟨number, .ok ()⟩] ∧ step.actions = [] ∧
        step.tracker.modems.held? path = some (kind, puk) := by
  intro h
  obtain ⟨modem, hmodem, hattached, hstate⟩ := blockedPin_waits
  obtain ⟨-, -, hheld⟩ := h blockedPin "/modem" modem .puk 0 "12345678" (reachable_run _) hmodem
    hattached hstate hasForm_typed
  revert hheld
  decide +kernel

end Tracker

end Uplink
