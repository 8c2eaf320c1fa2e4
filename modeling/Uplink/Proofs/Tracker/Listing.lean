import Uplink.Proofs.Modem.Reading
import Uplink.Proofs.Tracker.Publication
import Uplink.Proofs.Tracker.Tickets
/-!
# Reports in another order

The daemons list the properties of an object in an arbitrary order. A report in which the same
properties are listed in another order leads to the same state, generations included, to the same
actions and to the same replies; and a dictionary inside a value is read alike in every order.
-/

namespace Uplink

open Wire (Value Properties)

namespace ManagerState

/-- Every part of the record read anew, where there is a value for it. -/
def amended (manager : ManagerState) (found : String → Option Value) : ManagerState :=
  { manager with
    offlineMode := (found "OfflineMode").elim manager.offlineMode (·.bool?.getD false)
    state := (found "State").elim manager.state Value.nonemptyText?
    availableTechnologies :=
      (found "AvailableTechnologies").elim manager.availableTechnologies technologies
    enabledTechnologies :=
      (found "EnabledTechnologies").elim manager.enabledTechnologies technologies
    connectedTechnologies :=
      (found "ConnectedTechnologies").elim manager.connectedTechnologies technologies }

theorem amended_amended (manager : ManagerState) (earlier later : String → Option Value) :
    (manager.amended earlier).amended later =
      manager.amended fun key ↦ (later key).or (earlier key) := by
  simp only [amended, Service.elim_or]

theorem getD_setProperty? (manager : ManagerState) (key : String) (value : Value) :
    (manager.setProperty? key value).getD manager =
      manager.amended fun name ↦ if key = name then some value else none := by
  unfold setProperty?
  split
  case h_6 => simp_all [amended]
  all_goals simp [amended]

end ManagerState

namespace Tracker

variable {tracker : Tracker}

def withManager (tracker : Tracker) (manager : ManagerState) : Tracker := { tracker with manager }

theorem withManager_withManager (tracker : Tracker) (first second : ManagerState) :
    (tracker.withManager first).withManager second = tracker.withManager second := rfl

/-- Follows the list of services, if there is one. -/
def listServices (tracker : Tracker) : Option Value → Tracker × List Action
  | some services => tracker.setServices services
  | none => (tracker, [])

theorem touched_of_dirty (hdirty : tracker.dirty = true) : tracker.touched = tracker := by
  unfold touched
  rw [← hdirty]

theorem setManagerProperty_services (tracker : Tracker) (value : Value) :
    tracker.setManagerProperty "Services" value = tracker.setServices value := if_pos rfl

theorem setManagerProperty_of_ne (hdirty : tracker.dirty = true) {key : String}
    (hkey : key ≠ "Services") (value : Value) :
    tracker.setManagerProperty key value =
      (tracker.withManager
        (tracker.manager.amended fun name ↦ if key = name then some value else none), []) := by
  rw [← ManagerState.getD_setProperty?]
  unfold setManagerProperty
  rw [if_neg hkey]
  cases tracker.manager.setProperty? key value with
  | none => rfl
  | some manager =>
    have hdirty' : (tracker.withManager manager).dirty = true := hdirty
    exact Prod.ext (touched_of_dirty hdirty') rfl

theorem manager_setServices (tracker : Tracker) (value : Value) :
    (tracker.setServices value).1.manager = tracker.manager := by
  unfold setServices
  cases value.paths? with
  | none => rfl
  | some paths =>
    dsimp only
    split <;> rfl

theorem setServices_withManager (tracker : Tracker) (manager : ManagerState) (value : Value) :
    (tracker.withManager manager).setServices value =
      ((tracker.setServices value).1.withManager manager, (tracker.setServices value).2) := by
  unfold setServices
  cases value.paths? with
  | none => rfl
  | some paths =>
    have hservices : (tracker.withManager manager).services = tracker.services := rfl
    dsimp only
    rw [hservices]
    cases (tracker.services.reconcile paths).2.isEmpty <;> rfl

/-- A report of the network manager is read off what is found under each name. -/
theorem setManagerProperties_eq {entries : List (String × Value)}
    (hdistinct : (entries.map (·.1)).Nodup) (hdirty : tracker.dirty = true) :
    tracker.setManagerProperties entries =
      (tracker.withManager (tracker.manager.amended (lastValue? entries))).listServices
        (lastValue? entries "Services") := by
  induction entries generalizing tracker with
  | nil => rfl
  | cons entry rest ih =>
    obtain ⟨key, value⟩ := entry
    obtain ⟨hfresh, hrest⟩ := List.nodup_cons.1 hdistinct
    rw [setManagerProperties_cons]
    dsimp only
    by_cases hkey : key = "Services"
    · subst hkey
      have hnone : lastValue? rest "Services" = none := lastValue?_eq_none_iff.2 hfresh
      have hlisted : lastValue? (("Services", value) :: rest) "Services" = some value := by
        rw [lastValue?, hnone]
        rfl
      -- The list of services is no part of the record of the manager.
      have hmanager : tracker.manager.amended (lastValue? (("Services", value) :: rest)) =
          tracker.manager.amended (lastValue? rest) := by
        simp [ManagerState.amended, lastValue?]
      rw [setManagerProperty_services, ih hrest (dirty_setServices hdirty value), hnone, hlisted,
        hmanager, manager_setServices]
      change _ = (tracker.withManager _).setServices value
      rw [setServices_withManager]
      exact Prod.ext rfl (List.append_nil _)
    · have hlisted : lastValue? ((key, value) :: rest) "Services" =
          lastValue? rest "Services" := by
        rw [lastValue?, if_neg hkey, Option.or_none]
      have hdirty' (manager : ManagerState) : (tracker.withManager manager).dirty = true := hdirty
      rw [setManagerProperty_of_ne hdirty hkey, hlisted]
      dsimp only
      rw [ih hrest (hdirty' _)]
      change (_, [] ++ _) = _
      rw [List.nil_append]
      exact congrArg (fun manager ↦ (tracker.withManager manager).listServices _)
        (tracker.manager.amended_amended _ _)

theorem managerReported_relists (tracker : Tracker) {a b : Properties} (h : a.Relists b) :
    tracker.handle (.managerReported a) = tracker.handle (.managerReported b) := by
  unfold handle
  dsimp only
  rw [setManagerProperties_eq a.distinct rfl, setManagerProperties_eq b.distinct rfl,
    h.lastValue?_eq]

theorem addModem_relists (hkeyed : tracker.modems.Keyed) (path : ObjectPath) {a b : Properties}
    (h : a.Relists b) : tracker.addModem path a = tracker.addModem path b := by
  unfold addModem
  rw [hkeyed.add_relists path h]

end Tracker

theorem ServiceRoster.completeFetch?_relists (roster : ServiceRoster) (ticket : Ticket)
    {a b : Properties} (h : a.Relists b) :
    roster.completeFetch? ticket a = roster.completeFetch? ticket b := by
  have hfetched (entry : Entry) : entry.fetched a = entry.fetched b := by
    unfold Entry.fetched
    rw [Service.setProperties_eq_amended _ a.entries, Service.setProperties_eq_amended _ b.entries,
      h.lastValue?_eq]
  unfold completeFetch?
  simp only [hfetched]

/-- Whether the two modems are listed under one path and report the same properties. -/
def Wire.Properties.RelistsAt (a b : ObjectPath × Properties) : Prop :=
  a.1 = b.1 ∧ a.2.Relists b.2

/-- Whether the two are one report, with the properties in another order. -/
inductive Event.Relists : Event → Event → Prop
  | managerReported {a b : Properties} (h : a.Relists b) :
    Relists (.managerReported a) (.managerReported b)
  | serviceFetched {ticket : Ticket} {a b : Properties} (h : a.Relists b) :
    Relists (.serviceFetched ticket a) (.serviceFetched ticket b)
  | modemsListed {modems modems' : List (ObjectPath × Properties)}
    (h : modems.Forall₂ Properties.RelistsAt modems') :
    Relists (.modemsListed modems) (.modemsListed modems')
  | modemAdded {path : ObjectPath} {a b : Properties} (h : a.Relists b) :
    Relists (.modemAdded path a) (.modemAdded path b)
  | modemRefreshed {path : ObjectPath} {a b : Properties} (h : a.Relists b) :
    Relists (.modemRefreshed path a) (.modemRefreshed path b)
  | simFetched {ticket : Ticket} {a b : Properties} (h : a.Relists b) :
    Relists (.simFetched ticket a) (.simFetched ticket b)

namespace Tracker

variable {tracker : Tracker}

theorem addModems_relists (hkeyed : tracker.modems.Keyed)
    {modems modems' : List (ObjectPath × Properties)}
    (h : modems.Forall₂ Properties.RelistsAt modems') :
    tracker.addModems modems = tracker.addModems modems' := by
  induction h generalizing tracker with
  | nil => rfl
  | @cons modem modem' rest rest' hfirst _ ih =>
    have hadd : tracker.addModem modem.1 modem.2 = tracker.addModem modem'.1 modem'.2 := by
      rw [← hfirst.1]
      exact addModem_relists hkeyed modem.1 hfirst.2
    have hkeyed' : (tracker.addModem modem'.1 modem'.2).1.modems.Keyed := by
      rw [modems_addModem]
      exact hkeyed.keyed_add modem'.1 modem'.2
    rw [addModems_cons, addModems_cons, hadd, ih hkeyed']

/-- The order in which properties are listed does not matter: not to the state, the actions and the
replies that a report leads to, not to whether a reply is accepted, and not to what a dictionary of
attempts or settings is read as. -/
theorem listing_irrelevant (h : tracker.Reachable) :
    (∀ event event', Event.Relists event event' → tracker.handle event = tracker.handle event') ∧
    (∀ (ticket : Ticket) (a b : Properties), a.Relists b →
      tracker.services.completeFetch? ticket a = tracker.services.completeFetch? ticket b ∧
      tracker.modems.completeFetch? ticket a = tracker.modems.completeFetch? ticket b) ∧
    ∀ a b : Value, a.Relists b →
      Retries.ofValue a = Retries.ofValue b ∧
      IpSettings.ofValue? a = IpSettings.ofValue? b ∧
      ProxySettings.ofValue? a = ProxySettings.ofValue? b ∧
      Service.linkAddress? a = Service.linkAddress? b := by
  refine ⟨fun event event' hlisted ↦ ?_, fun ticket a b hlisted ↦ ?_, fun a b hlisted ↦ ?_⟩
  · cases hlisted with
    | managerReported hlisted => exact managerReported_relists tracker hlisted
    | serviceFetched hlisted =>
      unfold handle
      dsimp only
      rw [tracker.services.completeFetch?_relists _ hlisted]
    | modemsListed hlisted =>
      unfold handle
      dsimp only
      rw [addModems_relists h.keyed hlisted]
    | modemAdded hlisted =>
      unfold handle
      dsimp only
      rw [addModem_relists h.keyed _ hlisted]
    | modemRefreshed hlisted =>
      unfold handle
      dsimp only
      rw [h.keyed.refresh_relists _ hlisted]
    | simFetched hlisted =>
      unfold handle
      dsimp only
      rw [tracker.modems.completeFetch?_relists _ hlisted]
  · exact ⟨tracker.services.completeFetch?_relists ticket hlisted,
      tracker.modems.completeFetch?_relists ticket hlisted⟩
  · exact ⟨Retries.ofValue_relists hlisted, IpSettings.ofValue?_relists hlisted,
      ProxySettings.ofValue?_relists hlisted, Service.linkAddress?_relists hlisted⟩

/-- The SIM manager of a modem that is switched on goes, whichever is reported first. -/
theorem listing_irrelevant_detached :
    let tracker := run lockedSim
    let bare : Properties := .ofPairs [("Powered", .bool true), ("Interfaces", .ofTexts [])]
    let bare' : Properties := .ofPairs [("Interfaces", .ofTexts []), ("Powered", .bool true)]
    let pin : Wire.Scalar × Value := (.text "pin", .byte 3)
    let puk : Wire.Scalar × Value := (.text "puk", .byte 10)
    (tracker.handle (.modemRefreshed onlyModem bare)).actions = [.detachSim onlyModem] ∧
      tracker.handle (.modemRefreshed onlyModem bare) =
        tracker.handle (.modemRefreshed onlyModem bare') ∧
      tracker.modems.completeFetch? ⟨onlyModem, 1⟩ bare =
        tracker.modems.completeFetch? ⟨onlyModem, 1⟩ bare' ∧
      Retries.ofValue (.dict .text (.scalar .byte) [pin, puk]) =
        Retries.ofValue (.dict .text (.scalar .byte) [puk, pin]) := by
  intro tracker bare bare' pin puk
  have hlisted : bare.Relists bare' := .ofPairs (.swap _ _ []) (by decide)
  have hcounts : Value.Relists (.dict .text (.scalar .byte) [pin, puk])
      (.dict .text (.scalar .byte) [puk, pin]) :=
    ⟨.text, .scalar .byte, _, _, rfl, rfl, .swap _ _ [], by decide,
      by simp [pin, puk, Wire.Scalar.type]⟩
  obtain ⟨hhandle, hfetch, hread⟩ := listing_irrelevant (reachable_run lockedSim)
  exact ⟨by decide +kernel, hhandle _ _ (.modemRefreshed hlisted), (hfetch _ _ _ hlisted).2,
    (hread _ _ hcounts).1⟩

end Tracker

end Uplink
