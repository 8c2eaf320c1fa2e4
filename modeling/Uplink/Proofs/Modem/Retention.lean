import Uplink.Proofs.Modem.Reading
import Uplink.Proofs.Tracker.Continuation
import Uplink.Proofs.Tracker.Unblocking
/-!
# How long a PUK is held

A PUK that was taken is held until the daemon asks for something else, reports that no attempts are
left for it, or takes the SIM away, or until a reset ends. Nothing else touches it: not a report
that asks for it once more, not another property of the SIM or of its modem, not a command that is
refused, not the end of any other call, and nothing that is about another modem. As long as it is
held, every new PIN of the right form goes out with it.
-/

namespace Uplink

open Wire (Value Properties)

/-! ## The lock -/

/-- Whether the request resets a PIN by a PUK. -/
def SimRequest.IsReset : SimRequest → Prop
  | reset .. => True
  | _ => False

namespace SimLock

variable {lock lock' : SimLock} {kind : CredentialKind} {puk : String}

/-- The daemon's data leave the PUK alone exactly if they go on asking for it. -/
theorem held?_sync_iff (h : lock.held? = some (kind, puk)) (hpuk : kind.isPuk = true)
    (required : Option CredentialKind) (retries : Retries) :
    (lock.sync required retries).held? = some (kind, puk) ↔
      required = some kind ∧ retries.get? kind ≠ some 0 := by
  obtain ⟨hstate, hpending⟩ := held?_eq_some_iff.1 h
  constructor
  · intro hafter
    have hagrees := agrees_stateFor lock.state required retries
    have hsame : stateFor lock.state required retries = .newPinRequired kind :=
      (held?_eq_some_iff.1 hafter).1
    rw [hsame] at hagrees
    exact ⟨hagrees.1, hagrees.2.2⟩
  · rintro ⟨rfl, hleft⟩
    have hsame : stateFor lock.state (some kind) retries = .newPinRequired kind := by
      unfold stateFor
      dsimp only
      rw [if_pos hpuk, if_neg hleft, if_pos hstate]
    refine held?_eq_some_iff.2 ⟨hsame, ?_⟩
    unfold sync
    rw [hsame]
    exact hpending

/-- A call that ends leaves the PUK alone exactly if it is no reset. -/
theorem held?_complete_iff (h : lock.held? = some (kind, puk)) (request : SimRequest)
    (outcome : Outcome) :
    (lock.complete request outcome).held? = some (kind, puk) ↔ ¬ request.IsReset := by
  have hstate := (held?_eq_some_iff.1 h).1
  cases request with
  | enter other pin =>
    refine iff_of_true ?_ id
    cases outcome with
    | error failure => exact h
    | ok done =>
      have hother : lock.state ≠ .pinRequired other := by
        rw [hstate]
        exact nofun
      unfold complete succeed
      dsimp only
      rw [if_neg hother]
      exact h
  | reset pukKind typed newPin =>
    refine iff_of_false (fun hafter ↦ ?_) (fun hnot ↦ hnot trivial)
    have hpending := (held?_eq_some_iff.1 hafter).2
    cases outcome <;> cases hpending
  | change other oldPin newPin =>
    refine iff_of_true ?_ id
    cases outcome <;> exact h

/-- A lock that holds a PUK still holds it after every command that it carries out. -/
theorem held?_attempt (h : lock.held? = some (kind, puk)) {command : SimCommand}
    {prepared : Option SimRequest} (hattempt : lock.attempt command = .ok (lock', prepared)) :
    lock'.held? = some (kind, puk) := by
  have hstate := (held?_eq_some_iff.1 h).1
  cases command with
  | enter modem pin =>
    simp [attempt, SimLock.enter, hstate, unexpected, Except.map] at hattempt
  | submitPuk modem typed =>
    simp [attempt, SimLock.submitPuk, hstate, unexpected, Except.map] at hattempt
  | reset modem newPin =>
    cases hreset : lock.reset newPin with
    | error failure => simp [attempt, hreset, Except.map] at hattempt
    | ok request =>
      obtain ⟨rfl, -⟩ : lock = lock' ∧ some request = prepared := by
        simpa [attempt, hreset, Except.map] using hattempt
      exact h
  | change modem other oldPin newPin =>
    cases hchange : lock.change other oldPin newPin with
    | error failure => simp [attempt, hchange, Except.map] at hattempt
    | ok result =>
      obtain ⟨changed, request⟩ := result
      obtain ⟨-, -, -, rfl, -⟩ := change_eq_ok_iff.1 hchange
      obtain ⟨rfl, -⟩ : { lock with lastKind := some other } = lock' ∧ _ := by
        simpa [attempt, hchange, Except.map] using hattempt
      exact h

end SimLock

/-! ## The modem -/

/-- A PUK is held only while the daemon asks for its kind and has left attempts for it. -/
theorem Modem.Agrees.of_held? {modem : Modem} {kind : CredentialKind} {puk : String}
    (h : modem.Agrees) (hheld : modem.lock.held? = some (kind, puk)) :
    modem.required = some kind ∧ kind.isPuk = true ∧ modem.retries.get? kind ≠ some 0 := by
  have hstate := h.state
  rw [(SimLock.held?_eq_some_iff.1 hheld).1] at hstate
  exact hstate

/-- Whether a report of a modem says that its SIM manager is not there. -/
def Wire.Properties.DropsSim (properties : Properties) : Prop :=
  ∃ interfaces, properties.get? "Interfaces" = some interfaces ∧ interfaces.offersSim = false

/-- Whether a full report of a SIM asks for this kind of credential and leaves attempts for it. -/
def Wire.Properties.AsksFor (properties : Properties) (kind : CredentialKind) : Prop :=
  (properties.get? "PinRequired" >>= CredentialKind.required?) = some kind ∧
    ((properties.get? "Retries").elim ∅ Retries.ofValue).get? kind ≠ some 0

namespace Counted

variable {counted changed : Counted} {kind : CredentialKind} {puk : String}

theorem held?_report_iff (h : counted.modem.lock.held? = some (kind, puk))
    (hpuk : kind.isPuk = true) (hrequired : counted.modem.required = some kind)
    (properties : Properties) :
    (counted.report properties).modem.lock.held? = some (kind, puk) ↔
      properties.AsksFor kind := by
  -- The attempts left are taken first, while the earlier requirement still stands.
  let retries : Retries := (properties.get? "Retries").elim ∅ Retries.ofValue
  let between := counted.modem.lock.sync counted.modem.required retries
  have hbetween : between.held? = some (kind, puk) ↔ retries.get? kind ≠ some 0 := by
    rw [SimLock.held?_sync_iff h hpuk]
    simp [hrequired]
  constructor
  · intro hafter
    have hheld : between.held? = some (kind, puk) := SimLock.held?_of_sync hafter
    exact (SimLock.held?_sync_iff hheld hpuk _ _).1 hafter
  · intro hasks
    exact (SimLock.held?_sync_iff (hbetween.2 hasks.2) hpuk _ _).2 hasks

/-- One property of a SIM lets the PUK go only if it asks for something else or leaves nothing. -/
theorem held?_setProperty?_iff (h : counted.modem.lock.held? = some (kind, puk))
    (hagrees : counted.modem.Agrees) {key : String} {value : Value}
    (hchange : counted.setProperty? key value = some changed) :
    changed.modem.lock.held? = some (kind, puk) ↔
      ¬ (key = "PinRequired" ∧ CredentialKind.required? value ≠ some kind ∨
        key = "Retries" ∧ (Retries.ofValue value).get? kind = some 0) := by
  obtain ⟨hrequired, hpuk, hleft⟩ := hagrees.of_held? h
  unfold setProperty? at hchange
  split at hchange
  · obtain rfl := Option.some.inj hchange
    exact iff_of_true h (by simp)
  · obtain rfl := Option.some.inj hchange
    refine (SimLock.held?_sync_iff h hpuk _ _).trans ?_
    simp [hleft]
  · obtain rfl := Option.some.inj hchange
    refine (SimLock.held?_sync_iff h hpuk _ _).trans ?_
    simp [hrequired]
  · obtain rfl := Option.some.inj hchange
    exact iff_of_true h (by simp)
  · cases hchange

end Counted

/-! ## The tracked modems -/

namespace ModemRoster

variable {roster : ModemRoster} {entry : Entry} {path : ObjectPath}
  {held : CredentialKind × String} {kind : CredentialKind} {puk : String}

theorem held?_put_self (roster : ModemRoster) (entry : Entry) :
    (roster.put entry).held? entry.modem.path.text = entry.modem.lock.held? :=
  held?_of_entry (by rw [find?_put, if_pos rfl])

theorem held?_putCounted_self (roster : ModemRoster) (entry : Entry) (counted : Counted) :
    (roster.putCounted entry counted).held? entry.modem.path.text = counted.modem.lock.held? := by
  rw [held?_update (find?_putCounted roster entry counted), if_pos rfl]
  rfl

theorem OnlyAt.held?_eq {roster' : ModemRoster} {changed other : String}
    (h : OnlyAt changed roster roster') (hother : other ≠ changed) :
    roster'.held? other = roster.held? other := by
  unfold held? find?
  rw [h other hother]

/-- A report about a modem lets the PUK go only if the SIM manager is not there any more. -/
theorem held?_amend_iff (hattached : entry.modem.hasSimManager = true)
    (hheld : entry.modem.lock.held? = some held) (found : String → Option Value) :
    (roster.amend entry found).1.held? entry.modem.path.text = some held ↔
      ¬ ∃ interfaces, found "Interfaces" = some interfaces ∧ interfaces.offersSim = false := by
  have hattached' : (entry.amended found).modem.hasSimManager = true := hattached
  have hkept (later : ModemRoster) :
      (later.put (entry.amended found)).held? entry.modem.path.text = some held :=
    (held?_put_self later (entry.amended found)).trans hheld
  cases hfound : found "Interfaces" with
  | none =>
    rw [amend_of_none hfound]
    exact iff_of_true (hkept roster) (by simp)
  | some interfaces =>
    rw [amend_of_some hfound]
    cases hoffers : interfaces.offersSim with
    | true =>
      rw [setSimManager_same hattached']
      exact iff_of_true (hkept roster.count) (by simp [hoffers])
    | false =>
      rw [setSimManager_detach hattached']
      refine iff_of_false (fun hafter ↦ ?_) (fun hnot ↦ hnot ⟨interfaces, rfl, hoffers⟩)
      cases (held?_putCounted_self _ (entry.amended found).detach _).symm.trans hafter

theorem Holds.held?_change_iff (hentry : roster.Holds entry)
    (hattached : entry.modem.hasSimManager = true) (hheld : entry.modem.lock.held? = some held)
    (key : String) (value : Value) :
    (roster.change entry.modem.path key value).1.held? entry.modem.path.text = some held ↔
      ¬ (key = "Interfaces" ∧ value.offersSim = false) := by
  rw [change_eq_amend hentry, held?_amend_iff hattached hheld]
  simp

theorem Holds.held?_add_iff (hkeyed : roster.Keyed) (hentry : roster.Holds entry)
    (hattached : entry.modem.hasSimManager = true) (hheld : entry.modem.lock.held? = some held)
    (properties : Properties) :
    (roster.add entry.modem.path properties).1.held? entry.modem.path.text = some held ↔
      ¬ properties.DropsSim := by
  rw [hkeyed.add_eq_amend, hentry]
  exact held?_amend_iff hattached hheld properties.get?

theorem Holds.refresh_eq_add (hentry : roster.Holds entry) (properties : Properties) :
    roster.refresh entry.modem.path properties = roster.add entry.modem.path properties := by
  unfold refresh contains SortedMap.contains
  rw [hentry]
  rfl

theorem Holds.held?_remove? (hentry : roster.Holds entry) :
    ((roster.remove? entry.modem.path).getD roster).held? entry.modem.path.text = none := by
  unfold remove?
  rw [hentry, Option.map_some, Option.getD_some, held?_update (find?_erase roster _ _), if_pos rfl]
  rfl

/-- The reply to a fetch lets the PUK go only if it is taken and asks for something else. -/
theorem Holds.held?_completeFetch?_iff (hentry : roster.Holds entry)
    (hheld : entry.modem.lock.held? = some (kind, puk)) (hagrees : entry.modem.Agrees)
    {ticket : Ticket} (hpath : ticket.path = entry.modem.path) (properties : Properties) :
    ((roster.completeFetch? ticket properties).getD roster).held? entry.modem.path.text =
        some (kind, puk) ↔
      ¬ ((roster.completeFetch? ticket properties).isSome = true ∧ ¬ properties.AsksFor kind) := by
  obtain ⟨hrequired, hpuk, -⟩ := hagrees.of_held? hheld
  cases hfetch : roster.completeFetch? ticket properties with
  | none => exact iff_of_true ((held?_of_entry hentry).trans hheld) (by simp)
  | some roster' =>
    obtain ⟨fetched, hfetched, -, rfl⟩ := completeFetch?_eq_some_iff.1 hfetch
    rw [hpath, attached?_eq_some_iff, hentry, Option.some.injEq] at hfetched
    obtain rfl := hfetched.1
    rw [Option.getD_some, held?_putCounted_self]
    refine (Counted.held?_report_iff hheld hpuk hrequired properties).trans ?_
    simp

theorem Holds.held?_changeSim?_iff (hentry : roster.Holds entry)
    (hattached : entry.modem.hasSimManager = true)
    (hheld : entry.modem.lock.held? = some (kind, puk)) (hagrees : entry.modem.Agrees)
    (key : String) (value : Value) :
    ((roster.changeSim? entry.modem.path key value).getD roster).held? entry.modem.path.text =
        some (kind, puk) ↔
      ¬ (key = "PinRequired" ∧ CredentialKind.required? value ≠ some kind ∨
        key = "Retries" ∧ (Retries.ofValue value).get? kind = some 0) := by
  have hfound : roster.attached? entry.modem.path = some entry :=
    attached?_eq_some_iff.2 ⟨hentry, hattached⟩
  cases hchange : (roster.counted entry).setProperty? key value with
  | none =>
    have hsame : roster.changeSim? entry.modem.path key value = none := by
      unfold changeSim?
      rw [hfound]
      dsimp only [bind, Option.bind]
      rw [hchange]
    rw [hsame]
    refine iff_of_true ((held?_of_entry hentry).trans hheld) ?_
    rintro (⟨rfl, -⟩ | ⟨rfl, -⟩) <;> cases hchange
  | some changed =>
    have hchanged : roster.changeSim? entry.modem.path key value =
        some (roster.putCounted entry changed) :=
      changeSim?_eq_some_iff.2 ⟨entry, changed, hfound, hchange, rfl⟩
    rw [hchanged, Option.getD_some, held?_putCounted_self]
    exact Counted.held?_setProperty?_iff hheld hagrees hchange

theorem Holds.held?_command (hkeyed : roster.Keyed) (hentry : roster.Holds entry)
    (hheld : entry.modem.lock.held? = some (kind, puk)) {command : SimCommand}
    (hpath : command.modem = entry.modem.path.text) :
    (roster.command command).held? entry.modem.path.text = some (kind, puk) := by
  rw [hkeyed.command_eq]
  split
  next taken lock prepared hattempt =>
    obtain ⟨⟨htaken, -⟩, hlock⟩ := attempt_eq_ok_iff.1 hattempt
    rw [hpath] at htaken
    obtain rfl := Option.some.inj (hentry.symm.trans htaken)
    exact (held?_put_self roster _).trans (SimLock.held?_attempt hheld hlock)
  next => exact (held?_of_entry hentry).trans hheld

theorem Holds.held?_complete_iff (hkeyed : roster.Keyed) (hentry : roster.Holds entry)
    (hheld : entry.modem.lock.held? = some (kind, puk)) (request : SimRequest)
    (outcome : Outcome) :
    (roster.complete entry.modem.path.text request outcome).held? entry.modem.path.text =
        some (kind, puk) ↔
      ¬ request.IsReset := by
  have hmodem : roster.find? entry.modem.path.text = some entry.modem := find?_of_entry hentry
  unfold held?
  rw [find?_complete hkeyed, if_pos rfl, hmodem]
  exact SimLock.held?_complete_iff hheld request outcome

end ModemRoster

/-! ## The tracker -/

namespace Tracker

variable {tracker : Tracker} {event : Event} {path : String} {kind : CredentialKind} {puk : String}

/-- Whether the event ends the use of a PUK of this kind that is held for the SIM in the modem at
this path: the SIM manager or the modem goes, the daemon asks for something else or leaves no
attempts, or a reset ends. -/
def EndsPuk (path : String) (kind : CredentialKind) (tracker : Tracker) : Event → Prop
  | .modemsListed modems => ∃ modem ∈ modems, modem.1.text = path ∧ modem.2.DropsSim
  | .modemAdded modem properties => modem.text = path ∧ properties.DropsSim
  | .modemRefreshed modem properties => modem.text = path ∧ properties.DropsSim
  | .modemRemoved modem => modem.text = path
  | .modemChanged modem key value =>
    modem.text = path ∧ key = "Interfaces" ∧ value.offersSim = false
  | .simFetched ticket properties =>
    ticket.path.text = path ∧
      (tracker.modems.completeFetch? ticket properties).isSome = true ∧ ¬ properties.AsksFor kind
  | .simChanged modem key value =>
    modem.text = path ∧
      (key = "PinRequired" ∧ CredentialKind.required? value ≠ some kind ∨
        key = "Retries" ∧ (Retries.ofValue value).get? kind = some 0)
  | .callFinished call _ => call.modem = path ∧ call.request.IsReset
  | _ => False

/-- Whether the PUK is held for the SIM in the modem at this path, and every valid new PIN goes out
with it. -/
def ResetsWith (path : String) (kind : CredentialKind) (puk : String) (tracker : Tracker) : Prop :=
  tracker.modems.held? path = some (kind, puk) ∧
    ∃ target, kind.resetTarget? = some target ∧ ∀ newPin, target.Accepts newPin →
      tracker.modems.reset path newPin = .ok (.reset kind puk newPin)

/-- A PUK is held by a modem whose SIM manager is attached and whose lock agrees with the daemon. -/
theorem Reachable.holds_of_held? (h : tracker.Reachable)
    (hheld : tracker.modems.held? path = some (kind, puk)) :
    ∃ entry, tracker.modems.Holds entry ∧ entry.modem.path.text = path ∧
      entry.modem.hasSimManager = true ∧ entry.modem.lock.held? = some (kind, puk) ∧
      entry.modem.Agrees := by
  obtain ⟨modem, hmodem, hattached, -⟩ := h.required_of_held? hheld
  obtain ⟨entry, hentry, rfl⟩ := ModemRoster.find?_eq_some_iff.1 hmodem
  rw [ModemRoster.held?_of_entry hentry] at hheld
  exact ⟨entry, h.keyed.holds hentry, h.keyed path entry hentry, hattached, hheld,
    h.find?_agrees hmodem⟩

theorem Reachable.resetsWith_iff (h : tracker.Reachable) :
    ResetsWith path kind puk tracker ↔ tracker.modems.held? path = some (kind, puk) := by
  refine ⟨And.left, fun hheld ↦ ⟨hheld, ?_⟩⟩
  obtain ⟨entry, hentry, rfl, hattached, hlock, hagrees⟩ := h.holds_of_held? hheld
  obtain ⟨hstate, hpending⟩ := SimLock.held?_eq_some_iff.1 hlock
  obtain ⟨target, htarget⟩ := CredentialKind.isPuk_iff.1 (hagrees.of_held? hlock).2.1
  refine ⟨target, htarget, fun newPin haccepts ↦ ?_⟩
  exact ModemRoster.reset_eq_ok_iff.2 ⟨entry, ⟨hentry, hattached⟩,
    SimLock.reset_eq_ok_iff.2 ⟨kind, target, puk, hstate, htarget, haccepts, hpending, rfl⟩⟩

/-- An event about one modem ends the use of no PUK but one that is held there. -/
theorem EndsPuk.object?_eq {object : Object} (h : EndsPuk path kind tracker event)
    (hobject : event.object? = some object) : object = .modem path := by
  cases event with
  | modemAdded | modemRefreshed | modemChanged | simFetched | simChanged | callFinished =>
    rw [← Option.some.inj hobject, ← h.1]
  | modemRemoved modem => rw [← Option.some.inj hobject, ← (show modem.text = path from h)]
  | modemsListed => cases hobject
  | _ => exact h.elim

theorem Reachable.held?_follow_iff (h : tracker.Reachable)
    (hheld : tracker.modems.held? path = some (kind, puk))
    (hobject : event.object? = some (.modem path)) :
    (tracker.modems.follow event).held? path = some (kind, puk) ↔
      ¬ EndsPuk path kind tracker event := by
  obtain ⟨entry, hentry, rfl, hattached, hlock, hagrees⟩ := h.holds_of_held? hheld
  have hkeyed := h.keyed
  have hmodem {modem : ObjectPath}
      (hobject : some (Object.modem modem.text) = some (.modem entry.modem.path.text)) :
      modem = entry.modem.path :=
    ObjectPath.ext_text (Object.modem.inj (Option.some.inj hobject))
  cases event with
  | modemAdded modem properties =>
    obtain rfl := hmodem hobject
    exact (hentry.held?_add_iff hkeyed hattached hlock properties).trans (by simp [EndsPuk])
  | modemRefreshed modem properties =>
    obtain rfl := hmodem hobject
    unfold ModemRoster.follow
    dsimp only
    rw [hentry.refresh_eq_add]
    exact (hentry.held?_add_iff hkeyed hattached hlock properties).trans (by simp [EndsPuk])
  | modemRemoved modem =>
    obtain rfl := hmodem hobject
    refine iff_of_false (fun hafter ↦ ?_) (fun hnot ↦ hnot rfl)
    cases hentry.held?_remove?.symm.trans hafter
  | modemChanged modem key value =>
    obtain rfl := hmodem hobject
    exact (hentry.held?_change_iff hattached hlock key value).trans (by simp [EndsPuk])
  | simFetched ticket properties =>
    have hpath := hmodem hobject
    refine (hentry.held?_completeFetch?_iff hlock hagrees hpath properties).trans ?_
    simp [EndsPuk, hpath]
  | simChanged modem key value =>
    obtain rfl := hmodem hobject
    exact (hentry.held?_changeSim?_iff hattached hlock hagrees key value).trans
      (by simp [EndsPuk])
  | commanded number command =>
    have hpath : command.modem = entry.modem.path.text :=
      Object.modem.inj (Option.some.inj hobject)
    exact iff_of_true (hentry.held?_command hkeyed hlock hpath) id
  | callFinished call outcome =>
    have hpath : call.modem = entry.modem.path.text := Object.modem.inj (Option.some.inj hobject)
    unfold ModemRoster.follow
    dsimp only
    rw [hpath]
    refine (hentry.held?_complete_iff hkeyed hlock call.request outcome).trans ?_
    simp [EndsPuk, hpath]
  | _ => cases hobject

/-- An event about one modem or service ends the use of a held PUK, or leaves it as it is. -/
theorem Reachable.held?_handle_iff_of_object (h : tracker.Reachable)
    (hheld : tracker.modems.held? path = some (kind, puk)) {object : Object}
    (hobject : event.object? = some object) :
    (tracker.handle event).tracker.modems.held? path = some (kind, puk) ↔
      ¬ EndsPuk path kind tracker event := by
  by_cases hpath : object = .modem path
  · rw [modems_handle]
    exact h.held?_follow_iff hheld (hpath ▸ hobject)
  · refine iff_of_true ?_ (fun hends ↦ hpath (hends.object?_eq hobject))
    cases object with
    | service service =>
      rw [modems_handle_of_services (Event.subject_of_service hobject)]
      exact hheld
    | modem modem =>
      have hother : path ≠ modem := fun hsame ↦ hpath (hsame ▸ rfl)
      rw [modems_handle, (h.keyed.onlyAt_follow hobject).held?_eq hother]
      exact hheld

/-- A list of modems ends the use of a held PUK exactly if one of its reports does. -/
theorem Reachable.held?_modemsListed_iff (h : tracker.Reachable)
    (hheld : tracker.modems.held? path = some (kind, puk))
    (modems : List (ObjectPath × Properties)) :
    (tracker.handle (.modemsListed modems)).tracker.modems.held? path = some (kind, puk) ↔
      ¬ EndsPuk path kind tracker (.modemsListed modems) := by
  induction modems generalizing tracker with
  | nil => exact iff_of_true hheld (by simp [EndsPuk])
  | cons modem rest ih =>
    let between := (tracker.handle (.modemAdded modem.1 modem.2)).tracker
    have hbetween : between.Reachable := .handled _ h
    have hadded : between.modems.held? path = some (kind, puk) ↔
        ¬ (modem.1.text = path ∧ modem.2.DropsSim) :=
      h.held?_handle_iff_of_object hheld rfl
    have hlisted : (tracker.handle (.modemsListed (modem :: rest))).tracker =
        (between.handle (.modemsListed rest)).tracker := by
      change (tracker.addModems (modem :: rest)).1 = _
      rw [addModems_cons]
      rfl
    have hends : EndsPuk path kind tracker (.modemsListed (modem :: rest)) ↔
        (modem.1.text = path ∧ modem.2.DropsSim) ∨
          EndsPuk path kind between (.modemsListed rest) := by
      simp [EndsPuk]
    rw [hlisted, hends, not_or]
    constructor
    · intro hafter
      -- A PUK that is let go on the way does not come back.
      have hkept : between.modems.held? path = some (kind, puk) := by
        rcases held?_handle hbetween hafter with htakes | hbefore
        · exact htakes.typesPuk.elim
        · exact hbefore.1
      exact ⟨hadded.1 hkept, (ih hbetween hkept).1 hafter⟩
    · rintro ⟨hkept, hrest⟩
      exact (ih hbetween (hadded.2 hkept)).2 hrest

theorem Reachable.held?_handle_iff (h : tracker.Reachable)
    (hheld : tracker.modems.held? path = some (kind, puk)) (event : Event) :
    (tracker.handle event).tracker.modems.held? path = some (kind, puk) ↔
      ¬ EndsPuk path kind tracker event := by
  cases hobject : event.object? with
  | some object => exact h.held?_handle_iff_of_object hheld hobject
  | none =>
    cases event with
    | modemsListed modems => exact h.held?_modemsListed_iff hheld modems
    | managerReported | managerChanged | shutdown =>
      refine iff_of_true ?_ id
      rw [modems_handle_of_services rfl]
      exact hheld
    | _ => cases hobject

theorem TakesPuk.held? (h : tracker.Reachable) (htakes : TakesPuk path kind puk tracker event) :
    (tracker.handle event).tracker.modems.held? path = some (kind, puk) := by
  obtain ⟨number, entry, rfl, hentry, hattached, hstate, haccepts⟩ :=
    h.pukRequired_of_takesPuk htakes
  rw [h.submitPuk_taken hentry hattached hstate haccepts, ← h.keyed path entry hentry]
  exact ModemRoster.held?_put_self tracker.modems _

/-- A PUK that was taken is held, and goes out with every valid new PIN, exactly as long as nothing
ends its use. -/
theorem puk_stays_iff {taking : Event} (h : tracker.Reachable)
    (htakes : TakesPuk path kind puk tracker taking) (since : List Event) :
    let taken := (tracker.handle taking).tracker
    taken.Throughout (ResetsWith path kind puk) since ↔
      taken.Along (fun later event ↦ ¬ EndsPuk path kind later event) since := by
  intro taken
  have hreachable : taken.Reachable := .handled taking h
  have hnow : ResetsWith path kind puk taken := hreachable.resetsWith_iff.2 (htakes.held? h)
  have halong : taken.Along (fun _ _ ↦ True) since := along_iff_forall_mem.2 fun _ _ ↦ trivial
  refine throughout_iff_along (fun later event hlater hresets _ ↦ ?_) hreachable hnow halong
  rw [(Reachable.handled event hlater).resetsWith_iff]
  exact hlater.held?_handle_iff (hlater.resetsWith_iff.1 hresets) event

/-- The SIM asks for its PUK once more and reports what is left, its modem is switched on, a PIN is
refused and a call ends in between: the PUK that was taken still sets the new PIN. -/
theorem puk_stays_reported :
    let taking := Event.commanded 0 (.submitPuk "/modem" "12345678")
    let since : List Event := [.simChanged onlyModem "PinRequired" (.text "puk"),
      .simChanged onlyModem "Retries" (.ofProperties [("puk", .byte 9)]),
      .simFetched ⟨onlyModem, 1⟩ (.ofPairs [("PinRequired", .text "puk")]),
      .modemChanged onlyModem "Powered" (.bool true), .commanded 1 (.enter "/modem" "1234"),
      .callFinished ⟨2, "/modem", .change .pin "1234" "4321"⟩ (.error .timeout)]
    blockedPin.Reachable ∧ TakesPuk "/modem" .puk "12345678" blockedPin taking ∧
      (blockedPin.handle taking).tracker.Throughout (ResetsWith "/modem" .puk "12345678")
        since := by
  intro taking since
  have hreachable : blockedPin.Reachable := reachable_run _
  have hrequired : (blockedPin.modems.find? "/modem").map (·.required) = some (some .puk) := by
    decide +kernel
  obtain ⟨modem, hmodem, hpuk⟩ := Option.map_eq_some_iff.1 hrequired
  have htakes : TakesPuk "/modem" .puk "12345678" blockedPin taking :=
    ⟨0, modem, rfl, rfl, hmodem, hpuk⟩
  refine ⟨hreachable, htakes, (puk_stays_iff hreachable htakes since).2 ?_⟩
  refine ⟨?_, ?_, ?_, ?_, id, And.right, trivial⟩
  · rintro ⟨-, ⟨-, hother⟩ | ⟨hkey, -⟩⟩
    · exact hother (by decide)
    · exact absurd hkey (by decide)
  · rintro ⟨-, ⟨hkey, -⟩ | ⟨-, hnone⟩⟩
    · exact absurd hkey (by decide)
    · exact absurd hnone (by decide +kernel)
  · rintro ⟨-, -, hother⟩
    exact hother ⟨by decide +kernel, by decide +kernel⟩
  · rintro ⟨-, hkey, -⟩
    exact absurd hkey (by decide)

end Tracker

end Uplink
