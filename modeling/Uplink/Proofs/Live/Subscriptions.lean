import Uplink.Proofs.Live.ModemWatches
import Uplink.Proofs.Service.Enumeration
import Uplink.Proofs.Tracker.History
import Uplink.Proofs.Tracker.Tickets
/-!
# What is subscribed to

After every event there is one watch for each tracked service, one for each tracked modem and one
for each SIM manager that is attached, and no others. No action begins a watch that is there
already, and none ends one that is not there, so that no subscription is lost, replaced or left
behind.
-/

namespace Uplink

open Wire (Value Properties)
open Live (WatchKey)
open Uplink.Action (Leads)

/-! ## A new list of services -/

namespace ServiceRoster

theorem WellFormed.leads_reconcile {roster : ServiceRoster} (hwell : roster.WellFormed)
    (listed : List ObjectPath) (modems : List Modem) :
    Leads (subscriptions roster.paths modems)
      ((roster.reconcile listed).2.removed.map .detachService ++
        (roster.reconcile listed).2.added.map .attachService)
      (subscriptions (roster.reconcile listed).1.paths modems) := by
  have hadded : (roster.reconcile listed).2.added.map (·.path) =
      listed.eraseDups.filter fun path ↦ path ∉ roster.paths := paths_tickets_place roster _ _ _
  have hremoved (path : ObjectPath) : path ∈ (roster.reconcile listed).2.removed ↔
      path ∈ roster.paths ∧ path ∉ listed.eraseDups := by
    simp [ServiceRoster.reconcile]
  have hdistinct : ((roster.reconcile listed).2.added.map (·.path)).Nodup := by
    rw [hadded]
    exact (nodup_eraseDups listed).filter _
  have hticket (path : ObjectPath) : path ∈ (roster.reconcile listed).2.added.map (·.path) ↔
      path ∈ listed.eraseDups ∧ path ∉ roster.paths := by
    rw [hadded]
    simp
  have hdetach : Leads (subscriptions roster.paths modems)
      ((roster.reconcile listed).2.removed.map .detachService) _ :=
    Action.leads_detachServices (hwell.distinct.filter _)
      fun path hpath ↦ service_mem_subscriptions.2 ((hremoved path).1 hpath).1
  have hnew : ∀ ticket ∈ (roster.reconcile listed).2.added, .service ticket.path ∉
      subscriptions roster.paths modems \
        ((roster.reconcile listed).2.removed.map WatchKey.service).toFinset := by
    intro ticket hadded hmem
    have htracked := service_mem_subscriptions.1 (Finset.mem_sdiff.1 hmem).1
    exact ((hticket ticket.path).1 (List.mem_map_of_mem hadded)).2 htracked
  rw [paths_reconcile]
  convert hdetach.trans (Action.leads_attachServices hdistinct hnew) using 1
  ext key
  cases key with
  | service path =>
    have hpath := hticket path
    rw [List.mem_map] at hpath
    simp only [service_mem_subscriptions, Finset.mem_union, Finset.mem_sdiff, List.mem_toFinset,
      List.mem_map, WatchKey.service.injEq, exists_eq_right, hpath, hremoved]
    tauto
  | _ => simp [subscriptions]

end ServiceRoster

/-! ## What an event leads to -/

namespace Tracker

variable {tracker : Tracker}

/-- The watches that belong to what is tracked. -/
def watched (tracker : Tracker) : Finset WatchKey :=
  subscriptions tracker.services.paths tracker.modems.modems

theorem leads_setManagerProperty (hwell : tracker.services.WellFormed) (key : String)
    (value : Value) :
    Leads tracker.watched (tracker.setManagerProperty key value).2
      (tracker.setManagerProperty key value).1.watched := by
  unfold watched
  rw [services_setManagerProperty, modems_setManagerProperty]
  unfold setManagerProperty ServiceRoster.followManager
  split
  · unfold setServices
    cases value.paths? with
    | none => exact .nil _
    | some paths => exact hwell.leads_reconcile paths tracker.modems.modems
  · split <;> exact .nil _

theorem leads_setManagerProperties (hwell : tracker.services.WellFormed)
    (properties : List (String × Value)) :
    Leads tracker.watched (tracker.setManagerProperties properties).2
      (tracker.setManagerProperties properties).1.watched := by
  induction properties generalizing tracker with
  | nil => exact .nil _
  | cons property rest ih =>
    have hwell' : (tracker.setManagerProperty property.1 property.2).1.services.WellFormed := by
      rw [services_setManagerProperty]
      exact hwell.followManager property.1 property.2
    rw [setManagerProperties_cons]
    exact (leads_setManagerProperty hwell property.1 property.2).trans (ih hwell')

theorem leads_changeService (path : ObjectPath) (key : String) (value : Value)
    (keys : Finset WatchKey) : Leads keys (tracker.changeService path key value).actions keys := by
  unfold changeService
  split <;> first | exact .nil _ | exact .single trivial rfl

/-- An event about the services that is no list of them. -/
theorem watched_handle {event : Event} (hsubject : event.subject = .services)
    (hlisted : event.listed? = none) :
    (tracker.handle event).tracker.watched = tracker.watched := by
  unfold watched
  rw [services_handle, ServiceRoster.paths_follow_of_not_listed hlisted,
    modems_handle_of_services hsubject]

/-- The actions of an event turn the watches from what was tracked into what is tracked then. -/
theorem leads_handle (h : tracker.Reachable) (event : Event) :
    Leads tracker.watched (tracker.handle event).actions
      (tracker.handle event).tracker.watched := by
  by_cases hsubject : event.subject = .services
  · cases event with
    | managerReported properties =>
      let manager := { tracker.manager with available := true }
      have hwell : ({ tracker with manager } : Tracker).touched.services.WellFormed :=
        h.wellFormed
      exact leads_setManagerProperties hwell properties.entries
    | managerChanged key value => exact leads_setManagerProperty h.wellFormed key value
    | serviceChanged path key value =>
      rw [watched_handle hsubject rfl]
      exact leads_changeService path key value _
    | serviceFetched | passphraseSubmitted | serviceForgotten | shutdown =>
      rw [watched_handle hsubject rfl]
      simp only [handle, actions_withServices?]
      exact .nil _
    | _ => cases hsubject
  · unfold watched
    rw [services_handle, ServiceRoster.follow_of_subject hsubject]
    exact (course_handle h.keyed hsubject).leads h.keyed

end Tracker

namespace Publisher

/-- The actions of a run lead from no watches to those of everything that is tracked. -/
theorem leads_emitted (events : List Event) :
    Leads ∅ (emitted events) (run events).tracker.watched := by
  apply emitted_induction (R := fun actions tracker ↦ Leads ∅ actions tracker.watched)
  · exact .nil ∅
  · exact fun actions tracker event h hleads ↦ hleads.trans (Tracker.leads_handle h event)

/-- A modem is listed twice, the services change, and the modem is removed with its SIM. -/
def removedModem : List Event :=
  let modem := (Tracker.onlyModem,
    Properties.ofPairs [("Interfaces", .ofTexts [Modem.simManagerInterface])])
  [.managerChanged "Services" (.ofTexts ["/a", "/b", "/a"]), .modemsListed [modem, modem],
    .managerChanged "Services" (.ofTexts ["/c", "/b"]), .modemRemoved Tracker.onlyModem]

/-- After every run the watches are those of the tracked services, of the tracked modems and of the
SIM managers that are attached, no more and no less. Every action fits the watches that there are
when it is taken: what it begins is not there yet, and what it ends is there. A client that carries
out an action begins and ends the same watches. -/
theorem subscriptions_match (events : List Event) :
    let snapshot := (run events).tracker.snapshot
    (emitted events).foldl Action.watch ∅ =
        subscriptions (snapshot.services.map (·.path)) snapshot.modems ∧
    (∀ earlier action, earlier ++ [action] <+: emitted events →
      action.Fits (earlier.foldl Action.watch ∅)) ∧
    ∀ (client : Live.Client) (action : Action),
      (client.execute action).keys = action.watch client.keys := by
  intro snapshot
  have hleads := leads_emitted events
  have hpaths : snapshot.services.map (·.path) = (run events).tracker.services.paths :=
    Tracker.paths_snapshot _
  rw [hpaths]
  exact ⟨hleads.foldl_watch, fun _ _ hplace ↦ hleads.fits hplace, Live.Client.keys_execute⟩

/-- The watch of the modem is there when it is ended, and in the end two services are watched. -/
theorem subscriptions_match_removed :
    let earlier := emitted (removedModem.take 3)
    earlier ++ [.detachModem Tracker.onlyModem] <+: emitted removedModem ∧
      .modem Tracker.onlyModem ∈ earlier.foldl Action.watch ∅ ∧
      subscriptions ((run removedModem).tracker.snapshot.services.map (·.path))
        (run removedModem).tracker.snapshot.modems =
          {.service ⟨"/c", by decide⟩, .service ⟨"/b", by decide⟩} := by
  intro earlier
  have hplace : earlier ++ [.detachModem Tracker.onlyModem] <+: emitted removedModem := by
    decide +kernel
  obtain ⟨hmatch, hfits, -⟩ := subscriptions_match removedModem
  refine ⟨hplace, hfits earlier _ hplace, ?_⟩
  rw [← hmatch]
  decide +kernel

end Publisher

end Uplink
