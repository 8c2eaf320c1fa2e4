import Uplink.Proofs.Modem.Agreement
import Uplink.Proofs.Modem.Completion
import Uplink.Proofs.Sim.PendingPuk
import Uplink.Proofs.Tracker.History
/-!
# Where a held PUK comes from

A lock that holds a PUK for a new PIN got it from the user, in the last command to take one that was
accepted for its modem. Since then the SIM manager has stayed attached and the daemon has asked for
nothing else: whatever ends the attachment or the requirement also drops the PUK.
-/

namespace Uplink

open Wire (Value Properties)

namespace SimLock

variable {lock : SimLock} {kind : CredentialKind} {puk : String}
  {held : CredentialKind × String}

/-- The PUK that is held for a new PIN, and its kind. -/
def held? (lock : SimLock) : Option (CredentialKind × String) :=
  match lock.state with
  | .newPinRequired kind => lock.pendingPuk.map fun puk ↦ (kind, puk)
  | _ => none

theorem held?_eq_some_iff :
    lock.held? = some (kind, puk) ↔
      lock.state = .newPinRequired kind ∧ lock.pendingPuk = some puk := by
  unfold held?
  cases lock.state with
  | newPinRequired other => simp [and_comm]
  | _ => simp

/-- The daemon's data bring no PUK. -/
theorem held?_of_sync {required : Option CredentialKind} {retries : Retries}
    (h : (lock.sync required retries).held? = some held) : lock.held? = some held := by
  obtain ⟨hstate, hpuk⟩ := held?_eq_some_iff.1 h
  have hawaits : (lock.sync required retries).state.awaitsNewPin = true := by
    rw [hstate]
    rfl
  have hsame := state_of_awaitsNewPin_sync hawaits
  refine held?_eq_some_iff.2 ⟨hsame ▸ hstate, ?_⟩
  have hkept : (lock.sync required retries).pendingPuk = lock.pendingPuk := if_pos hawaits
  rw [← hkept]
  exact hpuk

/-- The end of a call brings no PUK. -/
theorem held?_of_complete {request : SimRequest} {outcome : Outcome}
    (h : (lock.complete request outcome).held? = some held) : lock.held? = some held := by
  obtain ⟨hstate, hpuk⟩ := held?_eq_some_iff.1 h
  refine held?_eq_some_iff.2 ?_
  cases outcome with
  | ok done =>
    cases request with
    | enter kind pin =>
      unfold complete succeed at hstate hpuk
      dsimp only at hstate hpuk
      split at hstate
      · cases hstate
      next hother =>
        rw [if_neg hother] at hpuk
        exact ⟨hstate, hpuk⟩
    | reset pukKind puk newPin => cases hpuk
    | change kind oldPin newPin => exact ⟨hstate, hpuk⟩
  | error failure =>
    cases request with
    | reset pukKind puk newPin => cases hpuk
    | enter kind pin => exact ⟨hstate, hpuk⟩
    | change kind oldPin newPin => exact ⟨hstate, hpuk⟩

end SimLock

/-- Whether the action ends an attachment of the SIM manager at this path. -/
def Action.DetachesSim (path : String) : Action → Prop
  | detachSim other => other.text = path
  | detachModem other => other.text = path
  | _ => False

theorem Action.not_detachesSim_of_subject {action : Action} (h : action.subject ≠ .modems)
    (path : String) : ¬ action.DetachesSim path := by
  cases action <;> first | exact id | exact absurd rfl h

theorem Counted.held?_of_setProperty? {counted changed : Counted} {key : String} {value : Value}
    {held : CredentialKind × String} (hchange : counted.setProperty? key value = some changed)
    (h : changed.modem.lock.held? = some held) : counted.modem.lock.held? = some held := by
  unfold setProperty? at hchange
  split at hchange
  · obtain rfl := Option.some.inj hchange
    exact h
  · obtain rfl := Option.some.inj hchange
    exact SimLock.held?_of_sync h
  · obtain rfl := Option.some.inj hchange
    exact SimLock.held?_of_sync h
  · obtain rfl := Option.some.inj hchange
    exact h
  · cases hchange

namespace ModemRoster

variable {roster roster' : ModemRoster} {entry : Entry} {path : String}
  {held : CredentialKind × String}

/-- The PUK that is held for the SIM in the modem at this path, and its kind. -/
def held? (roster : ModemRoster) (path : String) : Option (CredentialKind × String) :=
  (roster.find? path).bind (·.lock.held?)

theorem held?_of_entry (h : roster.entries.find? path = some entry) :
    roster.held? path = entry.modem.lock.held? := by
  unfold held?
  rw [find?_of_entry h]
  rfl

/-- One entry comes, goes or changes. -/
theorem held?_update {key : ObjectPath} {value : Option Entry}
    (h : ∀ text, roster'.entries.find? text =
      if key.text = text then value else roster.entries.find? text) (path : String) :
    roster'.held? path =
      if key.text = path then value.bind (·.modem.lock.held?) else roster.held? path := by
  unfold held? find?
  rw [h]
  split
  · cases value <;> rfl
  · rfl

/-- A lock that changes without a PUK typed in holds none that it did not hold before. -/
theorem Holds.held?_of_put (hentry : roster.Holds entry) (hafter : roster'.held? path = some held)
    {changed : Entry}
    (hfind : ∀ text, roster'.entries.find? text =
      if entry.modem.path.text = text then some changed else roster.entries.find? text)
    (hlock : changed.modem.lock.held? = some held → entry.modem.lock.held? = some held) :
    roster.held? path = some held := by
  rw [held?_update hfind] at hafter
  split at hafter
  next hpath =>
    have hbefore : roster.held? entry.modem.path.text = entry.modem.lock.held? :=
      held?_of_entry hentry
    rw [← hpath, hbefore]
    exact hlock hafter
  next => exact hafter

/-- Where no PUK is typed in, one that is held in the end was held all the time, and nothing in the
course ended the attachment of the SIM manager. -/
theorem Course.held? {typed : Prop} {actions : List Action}
    (h : Course typed roster actions roster') (huntyped : ¬ typed)
    (hafter : roster'.held? path = some held) :
    roster.held? path = some held ∧ ∀ action ∈ actions, ¬ action.DetachesSim path := by
  have hnothing : ∀ action ∈ ([] : List Action), ¬ action.DetachesSim path :=
    fun _ hnone ↦ absurd hnone List.not_mem_nil
  induction h with
  | idle hcalls =>
    refine ⟨hafter, fun action haction ↦ Action.not_detachesSim_of_subject ?_ path⟩
    rw [hcalls action haction]
    exact Subject.noConfusion
  | trans _ _ ih ih' =>
    obtain ⟨hbetween, hlater⟩ := ih' hafter
    obtain ⟨hbefore, hearlier⟩ := ih hbetween
    refine ⟨hbefore, fun action haction ↦ ?_⟩
    exact (List.mem_append.1 haction).elim (hearlier action) (hlater action)
  | announce hfresh =>
    rw [held?_update (find?_put _ _)] at hafter
    split at hafter
    · cases hafter
    · exact ⟨hafter, fun action haction ↦ by rw [List.mem_singleton.1 haction]; exact id⟩
  | @describe roster entry modem hentry hsame =>
    have hfind := find?_put roster { entry with modem }
    dsimp only at hfind
    rw [← hsame.path] at hfind
    refine ⟨hentry.held?_of_put hafter hfind fun hlock ↦ ?_, hnothing⟩
    rw [hsame.lock]
    exact hlock
  | count => exact ⟨hafter, hnothing⟩
  | attach hentry hbare =>
    refine ⟨hentry.held?_of_put hafter (find?_put _ _) id, fun action haction ↦ ?_⟩
    rw [List.mem_singleton.1 haction]
    exact id
  | detach hentry hattached =>
    rw [held?_update (find?_putCounted _ _ _)] at hafter
    split at hafter
    · cases hafter
    next hpath => exact ⟨hafter, fun action haction ↦ by rwa [List.mem_singleton.1 haction]⟩
  | report hentry hattached =>
    refine ⟨hentry.held?_of_put hafter (find?_putCounted _ _ _) fun hlock ↦ ?_, hnothing⟩
    exact SimLock.held?_of_sync (SimLock.held?_of_sync hlock)
  | change hentry hattached hchange =>
    exact ⟨hentry.held?_of_put hafter (find?_putCounted _ _ _)
      (Counted.held?_of_setProperty? hchange), hnothing⟩
  | note hentry hattached kind =>
    exact ⟨hentry.held?_of_put hafter (find?_put _ _) id, hnothing⟩
  | submit hentry hattached htyped hsubmit => exact absurd htyped huntyped
  | complete hentry =>
    exact ⟨hentry.held?_of_put hafter (find?_put _ _) SimLock.held?_of_complete, hnothing⟩
  | @forget roster entry hentry =>
    have hgone := find?_erase roster entry.modem.path (roster.counted entry).clearSim.totals
    rw [held?_update hgone] at hafter
    split at hafter
    · cases hafter
    next hpath => exact ⟨hafter, fun action haction ↦ by rwa [List.mem_singleton.1 haction]⟩

end ModemRoster

namespace Tracker

variable {tracker : Tracker} {event : Event} {path : String} {kind : CredentialKind} {puk : String}

/-- Whether the event is the command to take this PUK for the modem at this path, and is accepted
while the daemon asks for this kind. -/
def TakesPuk (path : String) (kind : CredentialKind) (puk : String) (tracker : Tracker)
    (event : Event) : Prop :=
  ∃ number modem, event = .commanded number (.submitPuk path puk) ∧
    (tracker.handle event).replies = [⟨number, .ok ()⟩] ∧
    tracker.modems.find? path = some modem ∧ modem.required = some kind

/-- Whether the event leaves a PUK of use: no other one is accepted for the modem at this path, no
action ends the attachment of its SIM manager, and the daemon still asks for this kind. -/
structure KeepsPuk (path : String) (kind : CredentialKind) (tracker : Tracker) (event : Event) :
    Prop where
  last : ∀ kind puk, ¬ TakesPuk path kind puk tracker event
  attached : ∀ action ∈ (tracker.handle event).actions, ¬ action.DetachesSim path
  required : ∃ modem, (tracker.handle event).tracker.modems.find? path = some modem ∧
    modem.hasSimManager = true ∧ modem.required = some kind

theorem TakesPuk.typesPuk (h : TakesPuk path kind puk tracker event) : event.TypesPuk := by
  obtain ⟨number, modem, rfl, -⟩ := h
  trivial

/-- A PUK is held only while the daemon asks for its kind and the SIM manager is attached. -/
theorem Reachable.required_of_held? (h : tracker.Reachable)
    (hheld : tracker.modems.held? path = some (kind, puk)) :
    ∃ modem, tracker.modems.find? path = some modem ∧ modem.hasSimManager = true ∧
      modem.required = some kind := by
  obtain ⟨modem, hfind, hlock⟩ := Option.bind_eq_some_iff.1 hheld
  obtain ⟨hstate, -⟩ := SimLock.held?_eq_some_iff.1 hlock
  refine ⟨modem, hfind, ?_, ?_⟩
  · by_contra hbare
    have hlock := (h.all Modem.stable_bareButFault).find? hfind (by simpa using hbare)
    rw [hlock] at hstate
    cases hstate
  · have hagrees := (h.find?_agrees hfind).state
    rw [hstate] at hagrees
    exact hagrees.1

theorem TakesPuk.submitPuk {number : Nat} {modem typed : String}
    (h : TakesPuk path kind puk tracker (.commanded number (.submitPuk modem typed))) :
    modem = path ∧ ∃ modems, tracker.modems.submitPuk modem typed = .ok modems := by
  obtain ⟨number, found, hevent, hreply, -⟩ := h
  cases hevent
  unfold handle Tracker.command at hreply
  dsimp only at hreply
  cases hsubmit : tracker.modems.submitPuk path puk with
  | ok modems => exact ⟨rfl, modems, rfl⟩
  | error failure =>
    rw [hsubmit] at hreply
    cases hreply

/-- A PUK is taken where the lock waits for its kind, and only in the form of that kind. -/
theorem Reachable.pukRequired_of_takesPuk (h : tracker.Reachable)
    (htakes : TakesPuk path kind puk tracker event) :
    ∃ number entry, event = .commanded number (.submitPuk path puk) ∧
      tracker.modems.entries.find? path = some entry ∧ entry.modem.hasSimManager = true ∧
      entry.modem.lock.state = .pukRequired kind ∧ kind.Accepts puk := by
  obtain ⟨number, modem, rfl, -, hmodem, hrequired⟩ := id htakes
  obtain ⟨-, modems, hsubmit⟩ := htakes.submitPuk
  obtain ⟨entry, lock, ⟨hfind, hattached⟩, hlock, -⟩ :=
    ModemRoster.submitPuk_eq_ok_iff.1 hsubmit
  obtain ⟨asked, hstate, haccepts, -⟩ := SimLock.submitPuk_eq_ok_iff.1 hlock
  obtain rfl := Option.some.inj (hmodem.symm.trans (ModemRoster.find?_of_entry hfind))
  have hagrees := (h.find?_agrees hmodem).state
  rw [hstate] at hagrees
  obtain rfl := Option.some.inj (hrequired.symm.trans hagrees.1)
  exact ⟨number, entry, rfl, hfind, hattached, hstate, haccepts⟩

/-- The PUK that a lock holds after one was typed in is that one. -/
theorem takesPuk_of_submitPuk (h : tracker.Reachable) {entry : ModemRoster.Entry} {lock : SimLock}
    {typed : String} (hfind : tracker.modems.entries.find? path = some entry)
    (hattached : entry.modem.hasSimManager = true)
    (hlock : entry.modem.lock.submitPuk typed = .ok lock) (hheld : lock.held? = some (kind, puk))
    (number : Nat) :
    TakesPuk path kind puk tracker (.commanded number (.submitPuk path typed)) := by
  have hsubmit := ModemRoster.submitPuk_eq_ok_iff.2 ⟨entry, lock, ⟨hfind, hattached⟩, hlock, rfl⟩
  have hmodem := ModemRoster.find?_of_entry hfind
  have hagrees := (h.find?_agrees hmodem).state
  obtain ⟨asked, hstate, -, rfl⟩ := SimLock.submitPuk_eq_ok_iff.1 hlock
  obtain ⟨rfl, rfl⟩ : asked = kind ∧ typed = puk := by
    simpa [SimLock.held?] using hheld
  rw [hstate] at hagrees
  refine ⟨number, entry.modem, rfl, ?_, hmodem, hagrees.1⟩
  unfold handle Tracker.command
  dsimp only
  rw [hsubmit]

/-- A command to take a PUK is accepted and the PUK is held from then on, or nothing changes at the
path. -/
theorem held?_submitPuk (h : tracker.Reachable) {number : Nat} {modem typed : String}
    (hafter : (tracker.modems.command (.submitPuk modem typed)).held? path = some (kind, puk)) :
    let event := Event.commanded number (.submitPuk modem typed)
    TakesPuk path kind puk tracker event ∨
      tracker.modems.held? path = some (kind, puk) ∧
        ∀ kind puk, ¬ TakesPuk path kind puk tracker event := by
  unfold ModemRoster.command at hafter
  dsimp only at hafter
  cases hsubmit : tracker.modems.submitPuk modem typed with
  | error failure =>
    rw [hsubmit] at hafter
    refine .inr ⟨hafter, fun kind puk htakes ↦ ?_⟩
    obtain ⟨-, modems, hok⟩ := htakes.submitPuk
    rw [hsubmit] at hok
    cases hok
  | ok modems =>
    rw [hsubmit] at hafter
    obtain ⟨entry, lock, ⟨hfind, hattached⟩, hlock, rfl⟩ :=
      ModemRoster.submitPuk_eq_ok_iff.1 hsubmit
    have hpath : entry.modem.path.text = modem := h.keyed modem entry hfind
    have hheld : (tracker.modems.setLock entry lock).held? path =
        if modem = path then lock.held? else tracker.modems.held? path := by
      rw [← hpath]
      exact ModemRoster.held?_update (ModemRoster.find?_put _ _) path
    change (tracker.modems.setLock entry lock).held? path = _ at hafter
    rw [hheld] at hafter
    split at hafter
    next hhere =>
      subst hhere
      exact .inl (takesPuk_of_submitPuk h hfind hattached hlock hafter number)
    next hother => exact .inr ⟨hafter, fun kind puk htakes ↦ hother htakes.submitPuk.1⟩

/-- A PUK that is held after an event was taken by it, or was held before and is left of use. -/
theorem held?_handle (h : tracker.Reachable)
    (hafter : (tracker.handle event).tracker.modems.held? path = some (kind, puk)) :
    TakesPuk path kind puk tracker event ∨
      tracker.modems.held? path = some (kind, puk) ∧ KeepsPuk path kind tracker event := by
  have hrequired := (Reachable.handled event h).required_of_held? hafter
  by_cases htyped : event.TypesPuk
  · obtain ⟨number, modem, typed, rfl⟩ :
        ∃ number modem typed, event = .commanded number (.submitPuk modem typed) := by
      cases event with
      | commanded number command =>
        cases command with
        | submitPuk modem typed => exact ⟨number, modem, typed, rfl⟩
        | _ => exact htyped.elim
      | _ => exact htyped.elim
    rw [modems_handle] at hafter
    rcases held?_submitPuk h hafter with htakes | ⟨hbefore, hlast⟩
    · exact .inl htakes
    · refine .inr ⟨hbefore, hlast, fun action haction ↦ ?_, hrequired⟩
      exact Action.not_detachesSim_of_subject
        (subject_ne_of_mem_handle haction Subject.noConfusion) path
  · right
    have hlast : ∀ kind puk, ¬ TakesPuk path kind puk tracker event :=
      fun kind puk htakes ↦ htyped htakes.typesPuk
    by_cases hsubject : event.subject = .services
    · rw [modems_handle_of_services hsubject] at hafter
      refine ⟨hafter, hlast, fun action haction ↦ ?_, hrequired⟩
      exact Action.not_detachesSim_of_subject
        (subject_ne_of_mem_handle haction (hsubject ▸ Subject.noConfusion)) path
    · obtain ⟨hbefore, hattached⟩ := (course_handle h.keyed hsubject).held? htyped hafter
      exact ⟨hbefore, hlast, hattached, hrequired⟩

end Tracker

namespace Publisher

end Publisher

end Uplink
