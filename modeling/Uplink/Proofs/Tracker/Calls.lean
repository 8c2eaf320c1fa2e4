import Uplink.Live.Client
import Uplink.Proofs.Modem.HeldPuk
import Uplink.Proofs.Sim.Form
/-!
# The calls that reach a SIM

The tracker asks for a call to a SIM only where a SIM manager is attached, and only with credentials
that have the form of their kind. A PIN is entered for the kind that the daemon asks for; a PIN is
reset by the PUK that was taken last, while the daemon has asked for that kind all the time.
-/

namespace Uplink

/-- Whether a request may be sent to a SIM that waits for this credential and of whose PUKs these
were taken. -/
def SimRequest.WellFormed (required : Option CredentialKind)
    (taken : CredentialKind → String → Prop) : SimRequest → Prop
  | enter kind pin => required = some kind ∧ kind.isPin = true ∧ kind.HasForm pin
  | reset pukKind puk newPin =>
    required = some pukKind ∧ pukKind.isPuk = true ∧ pukKind.HasForm puk ∧ taken pukKind puk ∧
      ∃ target, pukKind.resetTarget? = some target ∧ target.isPin = true ∧ target.HasForm newPin
  | change kind oldPin newPin => kind.isPin = true ∧ kind.HasForm oldPin ∧ kind.HasForm newPin

/-- The requests that a lock can prepare. -/
inductive SimLock.Prepares (lock : SimLock) : SimRequest → Prop
  | enter {kind : CredentialKind} {pin : String} (hstate : lock.state = .pinRequired kind)
    (haccepts : kind.Accepts pin) : Prepares lock (.enter kind pin)
  | reset {kind target : CredentialKind} {puk newPin : String}
    (hheld : lock.held? = some (kind, puk)) (htarget : kind.resetTarget? = some target)
    (haccepts : target.Accepts newPin) : Prepares lock (.reset kind puk newPin)
  | change {kind : CredentialKind} {oldPin newPin : String} (hpin : kind.isPin = true)
    (hold : kind.Accepts oldPin) (hnew : kind.Accepts newPin) :
    Prepares lock (.change kind oldPin newPin)

/-- What a lock prepares that agrees with the daemon may be sent. -/
theorem Modem.Agrees.wellFormed {modem : Modem} (h : modem.Agrees)
    {taken : CredentialKind → String → Prop}
    (htaken : ∀ kind puk, modem.lock.held? = some (kind, puk) → taken kind puk ∧ kind.Accepts puk)
    {request : SimRequest} (hprepares : modem.lock.Prepares request) :
    request.WellFormed modem.required taken := by
  have hagrees := h.state
  cases hprepares with
  | @enter kind pin hstate haccepts =>
    rw [hstate] at hagrees
    obtain ⟨hrequired, hnot⟩ := hagrees
    have hnamed : kind ≠ .none := fun hnone ↦ h.named (hnone ▸ hrequired)
    have hpin : kind.isPin = true :=
      (CredentialKind.isPin_or_isPuk_of_accepts haccepts hnamed).resolve_right (by simp [hnot])
    exact ⟨hrequired, hpin, (CredentialKind.accepts_iff_hasForm (.inl hpin)).1 haccepts⟩
  | @reset kind target puk newPin hheld htarget haccepts =>
    rw [(SimLock.held?_eq_some_iff.1 hheld).1] at hagrees
    obtain ⟨hrequired, hpuk, -⟩ := hagrees
    obtain ⟨hlast, hform⟩ := htaken kind puk hheld
    have hpin := CredentialKind.isPin_of_resetTarget? htarget
    exact ⟨hrequired, hpuk, (CredentialKind.accepts_iff_hasForm (.inr hpuk)).1 hform, hlast, target,
      htarget, hpin, (CredentialKind.accepts_iff_hasForm (.inl hpin)).1 haccepts⟩
  | @change kind oldPin newPin hpin hold hnew =>
    have hform (text : String) : kind.Accepts text ↔ kind.HasForm text :=
      CredentialKind.accepts_iff_hasForm (.inl hpin)
    exact ⟨hpin, (hform oldPin).1 hold, (hform newPin).1 hnew⟩

namespace Tracker

variable {tracker : Tracker} {call : SimCall}

end Tracker

namespace Publisher

end Publisher

end Uplink
