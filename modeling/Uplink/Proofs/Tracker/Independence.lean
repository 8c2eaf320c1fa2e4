import Uplink.Proofs.Modem.Locality
import Uplink.Proofs.Modem.Totals
import Uplink.Proofs.Service.Locality
import Uplink.Proofs.Service.Provider
import Uplink.Proofs.Tracker.Replies
/-!
# Independent events

Two events about different objects can be handled in either order. All modems share the totals and
the generation given out last, and all services share another one, but an event reads nothing of
these that shows anywhere but in the generations of tickets: it leaves everything that is held of
other objects as it is, and what it makes of its own object depends on what is held of that alone.
Only which service was connected last can depend on the order.
-/

namespace Uplink

open Wire (Value Properties)

namespace ServiceRoster

/-- The services are what is known at each of their paths, in their order. -/
theorem WellFormed.services_eq {roster : ServiceRoster} (h : roster.WellFormed) :
    roster.services = roster.paths.filterMap roster.service? := by
  have hservice : ∀ entry ∈ roster.entries, roster.service? entry.path = some entry.service := by
    intro entry hentry
    unfold service?
    rw [h.get?_of_mem hentry, Option.map_some]
  unfold services paths
  rw [List.filterMap_map, ← List.filterMap_eq_map]
  exact (List.filterMap_congr hservice).symm

/-- What is to be fetched again or removed after a change depends on the entry of the service. -/
theorem undated_change_congr {roster roster' : ServiceRoster} {path : ObjectPath}
    (h : roster.get? path = roster'.get? path) (key : String) (value : Value) :
    (roster.change path key value).2.actions.map Action.undated =
      (roster'.change path key value).2.actions.map Action.undated := by
  cases hentry : roster.get? path with
  | none =>
    unfold change
    rw [← h, hentry]
  | some entry =>
    -- The tickets for another fetch differ, but not once they are undated.
    rw [change_snd hentry, change_snd (h.symm.trans hentry)]
    split <;> rfl

end ServiceRoster

namespace ModemRoster

variable {roster roster' : ModemRoster}

/-- The modems are known by what is found under each path. -/
theorem Keyed.modems_congr (hkeyed : roster.Keyed) (hkeyed' : roster'.Keyed)
    (h : ∀ path, roster.find? path = roster'.find? path) : roster.modems = roster'.modems := by
  have hnodup {roster : ModemRoster} (hkeyed : roster.Keyed) : roster.modems.Nodup := by
    refine hkeyed.ascending.imp ?_
    rintro modem _ hless rfl
    exact String.lt_irrefl _ hless
  have hperm : roster.modems.Perm roster'.modems := by
    rw [List.perm_ext_iff_of_nodup (hnodup hkeyed) (hnodup hkeyed')]
    intro modem
    rw [hkeyed.mem_modems_iff, hkeyed'.mem_modems_iff, h]
  refine hperm.eq_of_pairwise ?_ hkeyed.ascending hkeyed'.ascending
  intro modem modem' _ _ hless hgreater
  exact absurd hgreater (String.lt_asymm hless)

end ModemRoster

namespace Tracker

variable {tracker tracker' : Tracker} {event : Event} {object other : Object}

/-- What is held of an object, the generation of its latest ticket included. -/
def held (tracker : Tracker) : Object → Option ServiceRoster.Entry ⊕ Option ModemRoster.Entry
  | .service path => .inl (tracker.services.get? path)
  | .modem path => .inr (tracker.modems.entries.find? path)

/-- What can be seen of an object. -/
def shown (tracker : Tracker) : Object → Option Service ⊕ Option Modem
  | .service path => .inl (tracker.services.service? path)
  | .modem path => .inr (tracker.modems.find? path)

theorem shown_congr (h : tracker.held object = tracker'.held object) :
    tracker.shown object = tracker'.shown object := by
  have hshown (tracker : Tracker) : tracker.shown object =
      (tracker.held object).map (Option.map (·.service)) (Option.map (·.modem)) := by
    cases object <;> rfl
  rw [hshown, hshown, h]

/-! ## The effect of one event -/

/-- An event about one object leaves what is held of all others as it is. -/
theorem Reachable.held_handle_of_ne (h : tracker.Reachable)
    (hobject : event.object? = some object) (hother : other ≠ object) :
    (tracker.handle event).tracker.held other = tracker.held other := by
  cases other with
  | service path =>
    unfold held
    dsimp only
    rw [services_handle]
    cases object with
    | service changed =>
      have hpath : path ≠ changed := fun hpath ↦ hother (congrArg Object.service hpath)
      rw [ServiceRoster.get?_follow_of_ne tracker.services hobject hpath]
    | modem changed => rw [ServiceRoster.follow_of_subject (Event.subject_of_modem hobject)]
  | modem path =>
    unfold held
    dsimp only
    cases object with
    | service changed => rw [modems_handle_of_services (Event.subject_of_service hobject)]
    | modem changed =>
      have hpath : path ≠ changed := fun hpath ↦ hother (congrArg Object.modem hpath)
      rw [modems_handle, h.keyed.onlyAt_follow hobject path hpath]

/-- What an event makes of its object depends on what is held of this object alone. -/
theorem Reachable.shown_handle_congr (h : tracker.Reachable) (h' : tracker'.Reachable)
    (hobject : event.object? = some object) (hheld : tracker.held object = tracker'.held object) :
    (tracker.handle event).tracker.shown object = (tracker'.handle event).tracker.shown object := by
  cases object with
  | service path =>
    unfold shown
    dsimp only
    rw [services_handle, services_handle,
      ServiceRoster.service?_follow_congr hobject (Sum.inl.inj hheld)]
  | modem path =>
    unfold shown
    dsimp only
    rw [modems_handle, modems_handle,
      h.keyed.find?_follow_congr h'.keyed hobject (Sum.inr.inj hheld)]

@[simp] theorem manager_withServices? (tracker : Tracker) (services : Option ServiceRoster) :
    (tracker.withServices? services).tracker.manager = tracker.manager := by
  cases services <;> rfl

@[simp] theorem manager_withModems? (tracker : Tracker) (modems : Option ModemRoster) :
    (tracker.withModems? modems).tracker.manager = tracker.manager := by
  cases modems <;> rfl

@[simp] theorem manager_followModem (tracker : Tracker) (result : ModemRoster × ModemChange) :
    (tracker.followModem result).1.manager = tracker.manager := by
  obtain ⟨modems, change⟩ := result
  cases change <;> rfl

/-- An event about one object says nothing of the network manager. -/
theorem manager_handle_of_object (tracker : Tracker) (hobject : event.object? = some object) :
    (tracker.handle event).tracker.manager = tracker.manager := by
  cases event with
  | serviceFetched ticket properties => exact manager_withServices? tracker _
  | serviceChanged path key value =>
    unfold handle changeService
    dsimp only
    split <;> rfl
  | modemAdded path properties => exact manager_followModem tracker _
  | modemRefreshed path properties => exact manager_followModem tracker _
  | modemRemoved path =>
    unfold handle
    dsimp only
    split <;> rfl
  | modemChanged path key value => exact manager_followModem tracker _
  | simFetched ticket properties => exact manager_withModems? tracker _
  | simChanged path key value => exact manager_withModems? tracker _
  | passphraseSubmitted path passphrase => exact manager_withServices? tracker _
  | serviceForgotten path => exact manager_withServices? tracker _
  | commanded number command =>
    change (tracker.command number command).tracker.manager = _
    rw [command_eq]
    split <;> rfl
  | callFinished call outcome => rfl
  | _ => cases hobject

theorem paths_handle_of_object (tracker : Tracker) (hobject : event.object? = some object) :
    (tracker.handle event).tracker.services.paths = tracker.services.paths := by
  rw [services_handle, ServiceRoster.paths_follow_of_not_listed (Event.listed?_of_object? hobject)]

/-! ## What an event asks for -/

/-- What a command leads to depends on what is held of its modem. -/
theorem Reachable.command_congr (h : tracker.Reachable) (h' : tracker'.Reachable)
    {command : SimCommand}
    (hheld : tracker.held (.modem command.modem) = tracker'.held (.modem command.modem))
    (number : Nat) :
    (tracker.command number command).actions = (tracker'.command number command).actions ∧
      (tracker.command number command).replies = (tracker'.command number command).replies := by
  rw [command_eq, command_eq, h.keyed.carryOut_eq, h'.keyed.carryOut_eq,
    ModemRoster.attempt_congr (Sum.inr.inj hheld)]
  cases tracker'.modems.attempt command with
  | error failure => exact ⟨rfl, rfl⟩
  | ok result =>
    obtain ⟨entry, lock, request⟩ := result
    cases request <;> exact ⟨rfl, rfl⟩

theorem undated_followModem_congr {path : String} {result result' : ModemRoster × ModemChange}
    (h : ModemRoster.AgreeAt path result result') :
    (tracker.followModem result).2.map Action.undated =
      (tracker'.followModem result').2.map Action.undated := by
  rw [followModem_snd, followModem_snd, ModemChange.map_undated_actions,
    ModemChange.map_undated_actions, h.change]

theorem Reachable.undated_addModem_congr (h : tracker.Reachable) (h' : tracker'.Reachable)
    {path : ObjectPath}
    (hfind : tracker.modems.find? path.text = tracker'.modems.find? path.text)
    (properties : Properties) :
    (tracker.addModem path properties).2.map Action.undated =
      (tracker'.addModem path properties).2.map Action.undated := by
  rw [addModem_snd, addModem_snd, ModemRoster.contains_eq, ModemRoster.contains_eq, hfind,
    List.map_append, List.map_append, ModemChange.map_undated_actions,
    ModemChange.map_undated_actions, (h.keyed.agreeAt_add h'.keyed hfind properties).change]

theorem actions_modemRemoved (tracker : Tracker) (path : ObjectPath) :
    (tracker.handle (.modemRemoved path)).actions =
      if (tracker.modems.find? path.text).isSome then [.detachModem path] else [] := by
  rw [← (tracker.modems.find?_remove? path).1]
  unfold handle
  dsimp only
  cases tracker.modems.remove? path <;> rfl

/-- What an event asks for depends, but for generations, on what is held of its object alone. -/
theorem Reachable.undated_handle_congr (h : tracker.Reachable) (h' : tracker'.Reachable)
    (hobject : event.object? = some object) (hheld : tracker.held object = tracker'.held object) :
    (tracker.handle event).actions.map Action.undated =
      (tracker'.handle event).actions.map Action.undated := by
  have hshown := shown_congr hheld
  cases event with
  | serviceFetched ticket properties => simp only [handle, actions_withServices?]
  | serviceChanged path key value =>
    cases hobject
    change (tracker.changeService path key value).actions.map Action.undated =
      (tracker'.changeService path key value).actions.map Action.undated
    rw [actions_changeService_eq, actions_changeService_eq,
      ServiceRoster.undated_change_congr (Sum.inl.inj hheld)]
  | modemAdded path properties =>
    cases hobject
    exact h.undated_addModem_congr h' (Sum.inr.inj hshown) properties
  | modemRefreshed path properties =>
    cases hobject
    have hagree := h.keyed.agreeAt_refresh h'.keyed (Sum.inr.inj hshown) properties
    exact undated_followModem_congr hagree
  | modemRemoved path =>
    cases hobject
    rw [actions_modemRemoved, actions_modemRemoved, Sum.inr.inj hshown]
  | modemChanged path key value =>
    cases hobject
    have hagree := h.keyed.agreeAt_change h'.keyed (Sum.inr.inj hshown) key value
    exact undated_followModem_congr hagree
  | simFetched ticket properties => simp only [handle, actions_withModems?]
  | simChanged path key value => simp only [handle, actions_withModems?]
  | passphraseSubmitted path passphrase => simp only [handle, actions_withServices?]
  | serviceForgotten path => simp only [handle, actions_withServices?]
  | commanded number command =>
    cases hobject
    exact congrArg (List.map Action.undated) (h.command_congr h' hheld number).1
  | callFinished call outcome => rfl
  | _ => cases hobject

theorem Reachable.replies_handle_congr (h : tracker.Reachable) (h' : tracker'.Reachable)
    (hobject : event.object? = some object) (hheld : tracker.held object = tracker'.held object) :
    (tracker.handle event).replies = (tracker'.handle event).replies := by
  by_cases hsubject : event.subject = .calls
  · cases event with
    | commanded number command =>
      cases hobject
      exact (h.command_congr h' hheld number).2
    | callFinished call outcome => rfl
    | _ => cases hsubject
  · rw [tracker.replies_eq_nil hsubject, tracker'.replies_eq_nil hsubject]

/-! ## Both orders -/

/-- Apart from which service was connected last, a snapshot holds what can be seen of each object.
-/
theorem Reachable.snapshot_congr (h : tracker.Reachable) (h' : tracker'.Reachable)
    (hmanager : tracker.manager = tracker'.manager)
    (hpaths : tracker.services.paths = tracker'.services.paths)
    (hshown : ∀ object, tracker.shown object = tracker'.shown object) :
    tracker.snapshot = { tracker'.snapshot with lastActive := tracker.snapshot.lastActive } := by
  have hservice : tracker.services.service? = tracker'.services.service? :=
    funext fun path ↦ Sum.inl.inj (hshown (.service path))
  have hservices : tracker.services.services = tracker'.services.services := by
    rw [h.wellFormed.services_eq, h'.wellFormed.services_eq, hpaths, hservice]
  have hmodems : tracker.modems.modems = tracker'.modems.modems :=
    h.keyed.modems_congr h'.keyed fun path ↦ Sum.inr.inj (hshown (.modem path))
  -- The totals are those of a scan, whatever the order in which they were adjusted.
  have htotals : tracker.modems.totals = tracker'.modems.totals := by
    rw [h.accounted.eq_scan h.keyed, h'.accounted.eq_scan h'.keyed, hmodems]
  unfold snapshot
  dsimp only
  rw [hmanager, hservices, hmodems, htotals]

/-- Of the object of one event, both orders show the same. -/
theorem Reachable.shown_handle_handle (h : tracker.Reachable) {first second : Event}
    (hfirst : first.object? = some object) (hsecond : second.object? = some other)
    (happart : object ≠ other) :
    ((tracker.handle second).tracker.handle first).tracker.shown object =
      ((tracker.handle first).tracker.handle second).tracker.shown object := by
  have hbefore := h.held_handle_of_ne hsecond happart
  have hafter := (Reachable.handled first h).held_handle_of_ne hsecond happart
  calc
    ((tracker.handle second).tracker.handle first).tracker.shown object =
        (tracker.handle first).tracker.shown object :=
      (h.handled second).shown_handle_congr h hfirst hbefore
    _ = ((tracker.handle first).tracker.handle second).tracker.shown object :=
      (shown_congr hafter).symm

/-- Two events about different objects can be handled in either order: the snapshot is the same, but
for the service that was connected last, and so are the answers and, but for generations, the
actions of each event. -/
theorem handle_comm_of_apart {tracker : Tracker} (h : tracker.Reachable) {first second : Event}
    {object other : Object} (hfirst : first.object? = some object)
    (hsecond : second.object? = some other) (hapart : object ≠ other) :
    let alone := tracker.handle first
    let inTurn := alone.tracker.handle second
    let ahead := tracker.handle second
    let behind := ahead.tracker.handle first
    behind.tracker.snapshot =
        { inTurn.tracker.snapshot with lastActive := behind.tracker.snapshot.lastActive } ∧
      behind.replies = alone.replies ∧ ahead.replies = inTurn.replies ∧
      behind.actions.map Action.undated = alone.actions.map Action.undated ∧
      ahead.actions.map Action.undated = inTurn.actions.map Action.undated := by
  intro alone inTurn ahead behind
  have halone : alone.tracker.Reachable := h.handled first
  have hahead : ahead.tracker.Reachable := h.handled second
  have hheldFirst : ahead.tracker.held object = tracker.held object :=
    h.held_handle_of_ne hsecond hapart
  have hheldSecond : alone.tracker.held other = tracker.held other :=
    h.held_handle_of_ne hfirst hapart.symm
  refine ⟨?_, hahead.replies_handle_congr h hfirst hheldFirst,
    h.replies_handle_congr halone hsecond hheldSecond.symm,
    hahead.undated_handle_congr h hfirst hheldFirst,
    h.undated_handle_congr halone hsecond hheldSecond.symm⟩
  apply (hahead.handled first).snapshot_congr (halone.handled second)
  · rw [manager_handle_of_object _ hfirst, manager_handle_of_object _ hsecond,
      manager_handle_of_object _ hsecond, manager_handle_of_object _ hfirst]
  · rw [paths_handle_of_object _ hfirst, paths_handle_of_object _ hsecond,
      paths_handle_of_object _ hsecond, paths_handle_of_object _ hfirst]
  · intro third
    by_cases hobject : third = object
    · subst hobject
      exact h.shown_handle_handle hfirst hsecond hapart
    · by_cases hother : third = other
      · subst hother
        exact (h.shown_handle_handle hsecond hfirst hapart.symm).symm
      · apply shown_congr
        rw [hahead.held_handle_of_ne hfirst hobject, h.held_handle_of_ne hsecond hother,
          halone.held_handle_of_ne hsecond hother, h.held_handle_of_ne hfirst hobject]

/-- Two services. -/
def twoServices : List Event := [.managerChanged "Services" (.ofTexts ["/a", "/b"])]

/-- Both services are to be fetched again; the ticket of each depends on the order, and nothing else
does. -/
theorem handle_comm_of_apart_refetched :
    let first := Event.serviceChanged ⟨"/a", by decide⟩ "PassphraseRequired" (.bool true)
    let second := Event.serviceChanged ⟨"/b", by decide⟩ "PassphraseRequired" (.bool true)
    let alone := (run twoServices).handle first
    let inTurn := alone.tracker.handle second
    let ahead := (run twoServices).handle second
    let behind := ahead.tracker.handle first
    alone.actions = [.refetchService ⟨⟨"/a", by decide⟩, 3⟩] ∧
      behind.actions = [.refetchService ⟨⟨"/a", by decide⟩, 4⟩] ∧
      behind.actions.map Action.undated = alone.actions.map Action.undated ∧
      behind.tracker.snapshot =
        { inTurn.tracker.snapshot with lastActive := behind.tracker.snapshot.lastActive } := by
  intro first second alone inTurn ahead behind
  have hfirst : first.object? = some (.service ⟨"/a", by decide⟩) := rfl
  have hsecond : second.object? = some (.service ⟨"/b", by decide⟩) := rfl
  have hcomm := handle_comm_of_apart (reachable_run twoServices) hfirst hsecond (by decide)
  exact ⟨by decide +kernel, by decide +kernel, hcomm.2.2.2.1, hcomm.1⟩

/-- Which of two services was connected last does depend on the order. -/
example :
    let first := Event.serviceChanged ⟨"/a", by decide⟩ "State" (.text "online")
    let second := Event.serviceChanged ⟨"/b", by decide⟩ "State" (.text "online")
    (run (twoServices ++ [first, second])).snapshot.lastActive = some ⟨"/b", by decide⟩ ∧
      (run (twoServices ++ [second, first])).snapshot.lastActive = some ⟨"/a", by decide⟩ := by
  decide +kernel

end Tracker

end Uplink
