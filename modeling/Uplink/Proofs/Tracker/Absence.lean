import Uplink.Proofs.Modem.Locality
import Uplink.Proofs.Service.Locality
import Uplink.Proofs.Tracker.Continuation
import Uplink.Proofs.Tracker.Replies
/-!
# What is not tracked

A service becomes tracked when a list of services names it, and a modem when it is announced, and
never in any other way. Every other event about a service or a modem that is not tracked comes too
late, as does an event about the SIM of a modem without a SIM manager: it changes nothing that is
held, uses up no generation and asks for nothing. A user who named a modem that is not there is told
so, and the outcome of a call is told to whoever waits for it.
-/

namespace Uplink

open Wire (Value Properties)

/-- Whether the event announces the object. -/
def Event.Announces (event : Event) : Object → Prop
  | .service path => ∃ listed, event.listed? = some listed ∧ path ∈ listed
  | .modem path =>
    match event with
    | .modemAdded added _ => added.text = path
    | .modemsListed modems => ∃ modem ∈ modems, modem.1.text = path
    | _ => False

/-- The answer to an event about a modem that is not there. -/
def Event.refusal? : Event → Option Reply
  | .commanded number command => some ⟨number, .error (.unknownModem command.modem)⟩
  | event => event.late?

namespace ModemRoster

variable {roster : ModemRoster} {path : ObjectPath}

theorem get?_of_untracked {text : String} (h : roster.find? text = none) :
    roster.entries.find? text = none := Option.map_eq_none_iff.1 h

theorem attached?_of_untracked (h : roster.find? path.text = none) :
    roster.attached? path = none := by
  have hget : roster.entries.get? path = none := get?_of_untracked h
  unfold attached?
  rw [hget, Option.filter_none]

theorem attached?_of_bare {modem : Modem} (h : roster.find? path.text = some modem)
    (hbare : modem.hasSimManager = false) : roster.attached? path = none := by
  obtain ⟨entry, hentry, rfl⟩ := Option.map_eq_some_iff.1 h
  have hget : roster.entries.get? path = some entry := hentry
  unfold attached?
  rw [hget, Option.filter_some, hbare]
  rfl

theorem completeFetch?_of_unattached {ticket : Ticket} (h : roster.attached? ticket.path = none)
    (properties : Properties) : roster.completeFetch? ticket properties = none := by
  unfold completeFetch?
  rw [h]
  rfl

theorem changeSim?_of_unattached (h : roster.attached? path = none) (key : String)
    (value : Value) : roster.changeSim? path key value = none := by
  unfold changeSim?
  rw [h]
  rfl

theorem Keyed.carryOut_of_untracked (hkeyed : roster.Keyed) {command : SimCommand}
    (h : roster.find? command.modem = none) :
    roster.carryOut command = .error (.unknownModem command.modem) := by
  rw [hkeyed.carryOut_eq]
  unfold attempt simModem
  rw [get?_of_untracked h]
  rfl

/-! ## Which modems are tracked -/

/-- A modem that is tracked stays so when it changes. -/
theorem Keyed.find?_change_ne_none (hkeyed : roster.Keyed) (h : roster.find? path.text ≠ none)
    (key : String) (value : Value) :
    (roster.change path key value).1.find? path.text ≠ none := by
  obtain ⟨modem, hmodem⟩ := Option.ne_none_iff_exists'.1 h
  obtain ⟨entry, hentry, -⟩ := find?_eq_some_iff.1 hmodem
  obtain ⟨changed, hupdate⟩ := hkeyed.exists_update_change hentry key value
  unfold find?
  rw [hupdate, if_pos rfl, Option.map_some]
  exact Option.some_ne_none _

theorem Keyed.find?_merge_ne_none (hkeyed : roster.Keyed) (h : roster.find? path.text ≠ none)
    (properties : Properties) : (roster.merge path properties).1.find? path.text ≠ none := by
  apply hkeyed.induction_merge (P := fun later ↦ later.find? path.text ≠ none)
  · exact h
  · intro later key value hlater htracked
    exact hlater.find?_change_ne_none htracked key value

theorem Keyed.find?_add_ne_none (hkeyed : roster.Keyed) (path : ObjectPath)
    (properties : Properties) : (roster.add path properties).1.find? path.text ≠ none := by
  unfold add
  rw [contains_eq]
  dsimp only
  split
  next htracked =>
    exact hkeyed.find?_merge_ne_none (Option.isSome_iff_ne_none.1 htracked) properties
  next =>
    have hput : (roster.put { modem := { path } }).find? path.text ≠ none :=
      Option.ne_none_iff_exists'.2 ⟨_, find?_put_self roster _⟩
    exact (hkeyed.put _).find?_merge_ne_none hput properties

theorem Keyed.find?_add_ne_none_iff (hkeyed : roster.Keyed) (path : ObjectPath)
    (properties : Properties) (text : String) :
    (roster.add path properties).1.find? text ≠ none ↔
      roster.find? text ≠ none ∨ path.text = text := by
  by_cases htext : path.text = text
  · subst htext
    simp [hkeyed.find?_add_ne_none path properties]
  · have honly := hkeyed.onlyAt_add path properties text (Ne.symm htext)
    unfold find?
    rw [honly]
    simp [htext]

/-- A list of modems adds those that it names. -/
theorem Keyed.find?_foldl_add_ne_none_iff (hkeyed : roster.Keyed)
    (modems : List (ObjectPath × Properties)) (text : String) :
    (modems.foldl (fun roster modem ↦ (roster.add modem.1 modem.2).1) roster).find? text ≠ none ↔
      roster.find? text ≠ none ∨ ∃ modem ∈ modems, modem.1.text = text := by
  induction modems generalizing roster with
  | nil => simp
  | cons modem rest ih =>
    rw [List.foldl_cons, ih (hkeyed.keyed_add modem.1 modem.2), hkeyed.find?_add_ne_none_iff,
      List.exists_mem_cons_iff, or_assoc]

end ModemRoster

namespace Tracker

variable {tracker : Tracker} {event : Event} {object : Object}

/-- Whether the service or the modem is tracked. -/
def Tracks (tracker : Tracker) : Object → Prop
  | .service path => path ∈ tracker.services.paths
  | .modem path => tracker.modems.find? path ≠ none

/-- Whether the event comes too late: it is about something that is not tracked, and does not
announce it. -/
inductive Misses (tracker : Tracker) : Event → Prop
  | untracked {event : Event} {object : Object} (hobject : event.object? = some object)
    (huntracked : ¬ tracker.Tracks object) (hsilent : ¬ event.Announces object) :
    Misses tracker event
  | bareFetch {ticket : Ticket} {properties : Properties} {modem : Modem}
    (hmodem : tracker.modems.find? ticket.path.text = some modem)
    (hbare : modem.hasSimManager = false) : Misses tracker (.simFetched ticket properties)
  | bareChange {path : ObjectPath} {key : String} {value : Value} {modem : Modem}
    (hmodem : tracker.modems.find? path.text = some modem)
    (hbare : modem.hasSimManager = false) : Misses tracker (.simChanged path key value)

/-- The step of an event that comes too late. The end of a call asks for a snapshot all the same. -/
def missed (tracker : Tracker) (event : Event) : Step where
  tracker := if event.ended?.isSome then tracker.touched else tracker
  replies := event.refusal?.toList

theorem handle_simFetched_of_unattached {ticket : Ticket}
    (h : tracker.modems.attached? ticket.path = none) (properties : Properties) :
    tracker.handle (.simFetched ticket properties) =
      tracker.missed (.simFetched ticket properties) := by
  unfold handle
  dsimp only
  rw [ModemRoster.completeFetch?_of_unattached h]
  rfl

theorem handle_simChanged_of_unattached {path : ObjectPath}
    (h : tracker.modems.attached? path = none) (key : String) (value : Value) :
    tracker.handle (.simChanged path key value) = tracker.missed (.simChanged path key value) := by
  unfold handle
  dsimp only
  rw [ModemRoster.changeSim?_of_unattached h]
  rfl

theorem Reachable.handle_commanded_of_untracked (hreachable : tracker.Reachable)
    {command : SimCommand} (h : tracker.modems.find? command.modem = none) (number : Nat) :
    tracker.handle (.commanded number command) = tracker.missed (.commanded number command) := by
  change tracker.command number command = _
  rw [command_eq, hreachable.keyed.carryOut_of_untracked h]
  rfl

/-- An event about a service that is not tracked is dropped. -/
theorem handle_of_untracked_service {path : ObjectPath}
    (hobject : event.object? = some (.service path)) (h : path ∉ tracker.services.paths) :
    tracker.handle event = tracker.missed event := by
  have hget := ServiceRoster.get?_eq_none_iff.2 h
  cases event with
  | serviceFetched ticket properties =>
    cases hobject
    unfold handle
    dsimp only
    rw [ServiceRoster.completeFetch?_of_untracked hget]
    rfl
  | serviceChanged path key value =>
    cases hobject
    unfold handle changeService ServiceRoster.change
    dsimp only
    rw [hget]
    rfl
  | passphraseSubmitted path passphrase =>
    cases hobject
    unfold handle ServiceRoster.echoPassphrase?
    dsimp only
    rw [hget]
    rfl
  | serviceForgotten path =>
    cases hobject
    unfold handle ServiceRoster.forgetPassphrase?
    dsimp only
    rw [hget]
    rfl
  | _ => cases hobject

/-- An event about a modem that is not tracked is dropped, unless it announces the modem. -/
theorem Reachable.handle_of_untracked_modem (hreachable : tracker.Reachable) {path : String}
    (hobject : event.object? = some (.modem path)) (h : tracker.modems.find? path = none)
    (hsilent : ¬ event.Announces (.modem path)) :
    tracker.handle event = tracker.missed event := by
  have hget := ModemRoster.get?_of_untracked h
  cases event with
  | modemAdded path properties =>
    cases hobject
    exact absurd rfl hsilent
  | modemRefreshed path properties =>
    cases hobject
    have hcontains : tracker.modems.contains path = false := by
      rw [ModemRoster.contains_eq, h, Option.isSome_none]
    unfold handle ModemRoster.refresh
    dsimp only
    rw [hcontains]
    rfl
  | modemRemoved path =>
    cases hobject
    have hget : tracker.modems.entries.get? path = none := hget
    unfold handle ModemRoster.remove?
    dsimp only
    rw [hget]
    rfl
  | modemChanged path key value =>
    cases hobject
    have hget : tracker.modems.entries.get? path = none := hget
    unfold handle ModemRoster.change
    dsimp only
    rw [hget]
    rfl
  | simFetched ticket properties =>
    cases hobject
    exact handle_simFetched_of_unattached (ModemRoster.attached?_of_untracked h) properties
  | simChanged path key value =>
    cases hobject
    exact handle_simChanged_of_unattached (ModemRoster.attached?_of_untracked h) key value
  | commanded number command =>
    cases hobject
    exact hreachable.handle_commanded_of_untracked h number
  | callFinished call outcome =>
    cases hobject
    unfold handle ModemRoster.complete
    dsimp only
    rw [hget]
    rfl
  | _ => cases hobject

theorem Misses.handle_eq (h : tracker.Misses event) (hreachable : tracker.Reachable) :
    tracker.handle event = tracker.missed event := by
  cases h with
  | @untracked _ object hobject huntracked hsilent =>
    cases object with
    | service path => exact handle_of_untracked_service hobject huntracked
    | modem path =>
      exact hreachable.handle_of_untracked_modem hobject (not_not.1 huntracked) hsilent
  | bareFetch hmodem hbare =>
    exact handle_simFetched_of_unattached (ModemRoster.attached?_of_bare hmodem hbare) _
  | bareChange hmodem hbare =>
    exact handle_simChanged_of_unattached (ModemRoster.attached?_of_bare hmodem hbare) _ _

@[simp] theorem snapshot_missed (tracker : Tracker) (event : Event) :
    (tracker.missed event).tracker.snapshot = tracker.snapshot := by
  unfold missed
  dsimp only
  split <;> rfl

@[simp] theorem services_missed (tracker : Tracker) (event : Event) :
    (tracker.missed event).tracker.services = tracker.services := by
  unfold missed
  dsimp only
  split <;> rfl

@[simp] theorem modems_missed (tracker : Tracker) (event : Event) :
    (tracker.missed event).tracker.modems = tracker.modems := by
  unfold missed
  dsimp only
  split <;> rfl

/-! ## What becomes tracked -/

theorem tracks_service_handle_iff (tracker : Tracker) (event : Event) {path : ObjectPath}
    (h : path ∉ tracker.services.paths) :
    path ∈ (tracker.handle event).tracker.services.paths ↔ event.Announces (.service path) := by
  unfold Event.Announces
  rw [services_handle]
  cases hlisted : event.listed? with
  | none =>
    rw [ServiceRoster.paths_follow_of_not_listed hlisted]
    simpa using h
  | some listed =>
    rw [ServiceRoster.follow_of_listed hlisted, ServiceRoster.paths_reconcile, List.mem_eraseDups]
    simp

theorem Reachable.find?_handle_of_announces (h : tracker.Reachable) {path : String}
    (hannounces : event.Announces (.modem path)) :
    (tracker.handle event).tracker.modems.find? path ≠ none := by
  rw [modems_handle]
  cases event with
  | modemAdded added properties =>
    exact (h.keyed.find?_add_ne_none_iff added properties path).2 (.inr hannounces)
  | modemsListed modems =>
    exact (h.keyed.find?_foldl_add_ne_none_iff modems path).2 (.inr hannounces)
  | _ => exact hannounces.elim

theorem Reachable.find?_handle_of_not_announces (h : tracker.Reachable) {path : String}
    (huntracked : tracker.modems.find? path = none)
    (hsilent : ¬ event.Announces (.modem path)) :
    (tracker.handle event).tracker.modems.find? path = none := by
  cases hobject : event.object? with
  | none =>
    rw [modems_handle]
    cases event with
    | modemsListed modems =>
      by_contra htracked
      rcases (h.keyed.find?_foldl_add_ne_none_iff modems path).1 htracked with hbefore | hnamed
      · exact hbefore huntracked
      · exact hsilent hnamed
    | managerReported properties => exact huntracked
    | managerChanged key value => exact huntracked
    | shutdown => exact huntracked
    | _ => cases hobject
  | some object =>
    cases object with
    | service changed =>
      rw [modems_handle_of_services (Event.subject_of_service hobject)]
      exact huntracked
    | modem changed =>
      -- An event about this modem comes too late, and one about another modem leaves it alone.
      by_cases hpath : path = changed
      · subst hpath
        rw [h.handle_of_untracked_modem hobject huntracked hsilent, modems_missed]
        exact huntracked
      · have honly := h.keyed.onlyAt_follow hobject path hpath
        rw [modems_handle]
        exact Option.map_eq_none_iff.2 (honly.trans (ModemRoster.get?_of_untracked huntracked))

/-- What is not tracked becomes tracked by being announced, and in no other way. -/
theorem Reachable.tracks_handle_iff (h : tracker.Reachable) (event : Event)
    (huntracked : ¬ tracker.Tracks object) :
    (tracker.handle event).tracker.Tracks object ↔ event.Announces object := by
  cases object with
  | service path => exact tracker.tracks_service_handle_iff event huntracked
  | modem path =>
    constructor
    · intro htracked
      by_contra hsilent
      exact htracked (h.find?_handle_of_not_announces (not_not.1 huntracked) hsilent)
    · exact h.find?_handle_of_announces

/-- What is not tracked stays so exactly as long as it is not announced. -/
theorem Reachable.throughout_untracked_iff (h : tracker.Reachable)
    (huntracked : ¬ tracker.Tracks object) (events : List Event) :
    tracker.Throughout (fun later ↦ ¬ later.Tracks object) events ↔
      ∀ event ∈ events, ¬ event.Announces object := by
  rw [← along_iff_forall_mem]
  have hstep (later : Tracker) (event : Event) (hlater : later.Reachable)
      (hmissing : ¬ later.Tracks object) (_ : True) :
      ¬ (later.handle event).tracker.Tracks object ↔ ¬ event.Announces object :=
    not_congr (hlater.tracks_handle_iff event hmissing)
  have halong : tracker.Along (fun _ _ ↦ True) events :=
    along_iff_forall_mem.2 fun _ _ ↦ trivial
  exact throughout_iff_along hstep h huntracked halong

/-- Nothing is tracked that was not announced, now or later, and an event that comes too late
changes nothing and asks for nothing; of a command and of the end of a call only the answer is left.
-/
theorem untracked_until_announced {tracker : Tracker} (h : tracker.Reachable) (event : Event) :
    (∀ object, ¬ tracker.Tracks object →
      ((tracker.handle event).tracker.Tracks object ↔ event.Announces object) ∧
      ∀ events, tracker.Throughout (fun later ↦ ¬ later.Tracks object) events ↔
        ∀ event ∈ events, ¬ event.Announces object) ∧
    (tracker.Misses event →
      let step := tracker.handle event
      step.tracker.snapshot = tracker.snapshot ∧ step.tracker.services = tracker.services ∧
        step.tracker.modems = tracker.modems ∧ step.actions = [] ∧
        step.replies = event.refusal?.toList) := by
  refine ⟨fun object huntracked ↦ ?_, fun hmisses ↦ ?_⟩
  · exact ⟨h.tracks_handle_iff event huntracked, h.throughout_untracked_iff huntracked⟩
  · intro step
    have hstep : step = tracker.missed event := hmisses.handle_eq h
    rw [hstep]
    exact ⟨snapshot_missed tracker event, services_missed tracker event,
      modems_missed tracker event, rfl, rfl⟩

/-- A modem that was removed is reread too late, and is tracked again only when it is added. -/
theorem untracked_until_announced_removed :
    let tracker := run (lockedSim ++ [.modemRemoved onlyModem])
    let manager := Value.ofTexts [Modem.simManagerInterface]
    let reread := Event.modemRefreshed onlyModem (.ofPairs [("Interfaces", manager)])
    let step := tracker.handle reread
    let added := tracker.handle (.modemAdded onlyModem ∅)
    tracker.Reachable ∧ ¬ tracker.Tracks (.modem "/modem") ∧ tracker.Misses reread ∧
      step.tracker.modems = tracker.modems ∧ step.actions = [] ∧
      added.tracker.Tracks (.modem "/modem") := by
  intro tracker manager reread step added
  have hreachable : tracker.Reachable := reachable_run _
  have hnone : tracker.modems.find? "/modem" = none := by decide +kernel
  have huntracked : ¬ tracker.Tracks (.modem "/modem") := not_not.2 hnone
  have hmisses : tracker.Misses reread := .untracked rfl huntracked id
  obtain ⟨-, -, hmodems, hactions, -⟩ := (untracked_until_announced hreachable reread).2 hmisses
  have hadded := (untracked_until_announced hreachable (.modemAdded onlyModem ∅)).1
    (.modem "/modem") huntracked
  exact ⟨hreachable, huntracked, hmisses, hmodems, hactions, hadded.1.2 rfl⟩

end Tracker

end Uplink
