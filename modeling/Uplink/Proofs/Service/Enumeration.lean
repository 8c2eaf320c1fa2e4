import Uplink.Proofs.Service.Roster
/-!
# The order of the services

The services of a snapshot are those of the manager's latest list, each once and in its order, and
each says its own place. Replies, changes and everything about modems leave that order alone. A new
list moves the services that stay and changes nothing else of them; a service that was not tracked
before starts out provisional, and the service that was connected last is one that is tracked.
-/

namespace Uplink

open Wire (Value Properties)

/-- The list of services that an event reports. -/
def Event.listed? : Event → Option (List ObjectPath)
  | .managerReported properties => (properties.get? "Services").bind Value.paths?
  | .managerChanged key value => if key = "Services" then value.paths? else none
  | _ => none

/-- The list of services that was reported last, with every path that it names. -/
def latestList (events : List Event) : List ObjectPath :=
  (events.filterMap Event.listed?).getLast?.getD []

theorem latestList_concat (events : List Event) (event : Event) :
    latestList (events ++ [event]) = event.listed?.getD (latestList events) := by
  unfold latestList
  rw [List.filterMap_append]
  cases hlisted : event.listed? with
  | none => simp [hlisted]
  | some paths => simp [hlisted]

namespace ServiceRoster

variable {roster : ServiceRoster} {path : ObjectPath} {event : Event}

/-! ## What changes the order -/

theorem followManager_services (value : Value) :
    roster.followManager "Services" value =
      value.paths?.elim roster fun paths ↦ (roster.reconcile paths).1 := by
  unfold followManager
  rw [if_pos rfl]
  cases value.paths? <;> rfl

/-- Of the properties of the network manager only a list of services acts on the services. -/
theorem follow_managerReported (roster : ServiceRoster) (properties : Properties) :
    roster.follow (.managerReported properties) =
      (Event.managerReported properties).listed?.elim roster
        fun paths ↦ (roster.reconcile paths).1 := by
  unfold follow Event.listed? Properties.get?
  dsimp only
  rw [foldl_followManager properties.distinct]
  cases Properties.lookup "Services" properties.entries with
  | none => rfl
  | some value => exact followManager_services value

theorem follow_managerChanged (roster : ServiceRoster) (key : String) (value : Value) :
    roster.follow (.managerChanged key value) =
      (Event.managerChanged key value).listed?.elim roster
        fun paths ↦ (roster.reconcile paths).1 := by
  unfold Event.listed?
  dsimp only
  by_cases hkey : key = "Services"
  · rw [if_pos hkey, hkey]
    exact followManager_services value
  · rw [if_neg hkey]
    exact if_neg hkey

/-- An event that reports a list of services is taken as nothing but that list. -/
theorem follow_of_listed {paths : List ObjectPath} (h : event.listed? = some paths) :
    roster.follow event = (roster.reconcile paths).1 := by
  cases event with
  | managerReported properties => rw [follow_managerReported, h, Option.elim_some]
  | managerChanged key value => rw [follow_managerChanged, h, Option.elim_some]
  | _ => cases h

theorem paths_completeFetch? (roster : ServiceRoster) (ticket : Ticket)
    (properties : Properties) :
    ((roster.completeFetch? ticket properties).getD roster).paths = roster.paths := by
  cases hfetch : roster.completeFetch? ticket properties with
  | none => rfl
  | some roster' =>
    obtain ⟨entry, -, -, rfl⟩ := completeFetch?_eq_some_iff.1 hfetch
    exact paths_put roster (entry.answered properties)

theorem paths_change (roster : ServiceRoster) (path : ObjectPath) (key : String)
    (value : Value) : (roster.change path key value).1.paths = roster.paths := by
  cases hentry : roster.get? path with
  | none =>
    unfold change
    rw [hentry]
  | some entry =>
    cases hkey : needsRefetch key with
    | true =>
      rw [change_of_needsRefetch hentry hkey]
      exact paths_put roster (entry.invalidated (roster.generation + 1) key value)
    | false =>
      obtain ⟨hentries, -, -⟩ := change_of_not_needsRefetch hentry hkey value
      unfold paths
      rw [hentries]
      exact paths_put roster ((entry.record key value).setProperty key value)

/-- Without a list of services no service comes, goes or moves. -/
theorem paths_follow_of_not_listed (h : event.listed? = none) :
    (roster.follow event).paths = roster.paths := by
  cases event with
  | managerReported properties => rw [follow_managerReported, h, Option.elim_none]
  | managerChanged key value => rw [follow_managerChanged, h, Option.elim_none]
  | serviceFetched ticket properties => exact paths_completeFetch? roster ticket properties
  | serviceChanged path key value => exact paths_change roster path key value
  | passphraseSubmitted path passphrase =>
    unfold follow echoPassphrase?
    dsimp only
    cases roster.get? path with
    | none => rfl
    | some entry => exact paths_put roster _
  | serviceForgotten path =>
    unfold follow
    dsimp only
    cases hforget : roster.forgetPassphrase? path with
    | none => rfl
    | some roster' =>
      obtain ⟨entry, -, -, rfl⟩ := forgetPassphrase?_eq_some_iff.1 hforget
      exact paths_put roster _
  | _ => rfl

/-- A service of a new list is one that stays, but for its place, or starts out provisional. -/
theorem service_of_mem_reconcile {listed : List ObjectPath} {service : Service}
    (h : service ∈ (roster.reconcile listed).1.services) :
    (∃ kept ∈ roster.services, service = { kept with index := service.index }) ∨
      (service.path ∉ roster.paths ∧ service = .provisional service.path service.index) := by
  obtain ⟨entry, hentry, rfl⟩ := List.mem_map.1 h
  obtain ⟨place, hplace⟩ := List.mem_iff_getElem?.1 hentry
  rcases getElem?_place hplace with ⟨kept, hkept, hmoved⟩ | ⟨hnew, fresh, -, -, hentry⟩
  · left
    refine ⟨kept.service, List.mem_map_of_mem (mem_of_get? hkept), ?_⟩
    rw [hmoved]
    rfl
  · right
    refine ⟨get?_eq_none_iff.1 hnew, ?_⟩
    rw [hentry]
    rfl

/-! ## The service that was connected last -/

/-- Whether the service that was connected last, if there is one, is tracked. -/
def ActiveTracked (roster : ServiceRoster) : Prop :=
  ∀ path, roster.lastActive = some path → path ∈ roster.paths

theorem ActiveTracked.reconcile (h : roster.ActiveTracked) (listed : List ObjectPath) :
    (roster.reconcile listed).1.ActiveTracked := by
  intro path hactive
  obtain ⟨hbefore, hkept⟩ := Option.filter_eq_some_iff.1 hactive
  have htracked : path ∈ roster.paths := h path hbefore
  have hlisted : path ∉ roster.paths ∨ path ∈ listed := by simpa using hkept
  rw [paths_reconcile, List.mem_eraseDups]
  exact hlisted.resolve_left (not_not.2 htracked)

/-- A change can only make the service that it is about the one that was connected last. -/
theorem lastActive_change (roster : ServiceRoster) (path : ObjectPath) (key : String)
    (value : Value) :
    (roster.change path key value).1.lastActive = roster.lastActive ∨
      ((roster.change path key value).1.lastActive = some path ∧ path ∈ roster.paths) := by
  unfold change
  cases hentry : roster.get? path with
  | none => exact .inl rfl
  | some entry =>
    have htracked := mem_paths_of_get? hentry
    dsimp only
    split
    · exact .inl rfl
    · split
      · split <;> split
        · exact .inr ⟨rfl, htracked⟩
        · exact .inl rfl
        · exact .inr ⟨rfl, htracked⟩
        · exact .inl rfl
      · exact .inl rfl

theorem lastActive_completeFetch? (roster : ServiceRoster) (ticket : Ticket)
    (properties : Properties) :
    ((roster.completeFetch? ticket properties).getD roster).lastActive = roster.lastActive ∨
      (((roster.completeFetch? ticket properties).getD roster).lastActive = some ticket.path ∧
        ticket.path ∈ roster.paths) := by
  cases hfetch : roster.completeFetch? ticket properties with
  | none => exact .inl rfl
  | some roster' =>
    obtain ⟨entry, hentry, -, rfl⟩ := completeFetch?_eq_some_iff.1 hfetch
    rw [Option.getD_some]
    dsimp only
    split
    · exact .inr ⟨rfl, mem_paths_of_get? hentry⟩
    · exact .inl rfl

theorem lastActive_echoPassphrase? (roster : ServiceRoster) (path : ObjectPath)
    (passphrase : String) :
    ((roster.echoPassphrase? path passphrase).getD roster).lastActive = roster.lastActive := by
  unfold echoPassphrase?
  cases roster.get? path <;> rfl

theorem lastActive_forgetPassphrase? (roster : ServiceRoster) (path : ObjectPath) :
    ((roster.forgetPassphrase? path).getD roster).lastActive = roster.lastActive := by
  cases hforget : roster.forgetPassphrase? path with
  | none => rfl
  | some roster' =>
    obtain ⟨entry, -, -, rfl⟩ := forgetPassphrase?_eq_some_iff.1 hforget
    rfl

/-- The service that was connected last is the same as before, or one that is tracked. -/
theorem ActiveTracked.of_lastActive (h : roster.ActiveTracked) {roster' : ServiceRoster}
    (path : ObjectPath) (hpaths : roster'.paths = roster.paths)
    (hactive : roster'.lastActive = roster.lastActive ∨
      (roster'.lastActive = some path ∧ path ∈ roster.paths)) : roster'.ActiveTracked := by
  intro active hfound
  rw [hpaths]
  rcases hactive with hsame | ⟨hthis, htracked⟩
  · exact h active (hsame.symm.trans hfound)
  · obtain rfl : path = active := Option.some.inj (hthis.symm.trans hfound)
    exact htracked

theorem ActiveTracked.follow (h : roster.ActiveTracked) (event : Event) :
    (roster.follow event).ActiveTracked := by
  cases hlisted : event.listed? with
  | some paths =>
    rw [follow_of_listed hlisted]
    exact h.reconcile paths
  | none =>
    have hpaths : (roster.follow event).paths = roster.paths := paths_follow_of_not_listed hlisted
    cases event with
    | managerReported properties =>
      rw [follow_managerReported, hlisted]
      exact h
    | managerChanged key value =>
      rw [follow_managerChanged, hlisted]
      exact h
    | serviceFetched ticket properties =>
      exact h.of_lastActive ticket.path hpaths (lastActive_completeFetch? roster ticket properties)
    | serviceChanged path key value =>
      exact h.of_lastActive path hpaths (lastActive_change roster path key value)
    | passphraseSubmitted path passphrase =>
      exact h.of_lastActive path hpaths (.inl (lastActive_echoPassphrase? roster path passphrase))
    | serviceForgotten path =>
      exact h.of_lastActive path hpaths (.inl (lastActive_forgetPassphrase? roster path))
    | _ => exact h

/-- The services with their places are the paths, counted from zero. -/
theorem WellFormed.places (h : roster.WellFormed) :
    (roster.services.map fun service ↦ (service.path, service.index)) = roster.paths.zipIdx := by
  refine List.ext_getElem? fun place ↦ ?_
  unfold services paths
  rw [List.getElem?_zipIdx, List.map_map, List.getElem?_map, List.getElem?_map]
  cases hentry : roster.entries[place]? with
  | none => rfl
  | some entry =>
    have hindex := h.indexed place entry hentry
    simp [hindex, Entry.path]

end ServiceRoster

namespace Tracker

theorem Reachable.activeTracked {tracker : Tracker} (h : tracker.Reachable) :
    tracker.services.ActiveTracked := by
  induction h with
  | start =>
    intro path hactive
    cases hactive
  | handled event h ih =>
    rw [services_handle]
    exact ih.follow event
  | asked h ih => exact ih

theorem paths_snapshot (tracker : Tracker) :
    tracker.snapshot.services.map (·.path) = tracker.services.paths := by
  change (tracker.services.entries.map (·.service)).map (·.path) = _
  rw [List.map_map]
  rfl

/-- The tracked services are those of the latest list. -/
theorem paths_run (events : List Event) :
    (run events).services.paths = (latestList events).eraseDups := by
  induction events using List.reverseRecOn with
  | nil => rfl
  | append_singleton events event ih =>
    rw [run_concat, services_handle, latestList_concat]
    cases hlisted : event.listed? with
    | none => rw [ServiceRoster.paths_follow_of_not_listed hlisted, ih, Option.getD_none]
    | some paths =>
      rw [ServiceRoster.follow_of_listed hlisted, ServiceRoster.paths_reconcile,
        Option.getD_some]

/-- After every run the snapshot lists the services of the manager's latest list, each once, in its
order and with its own place, and the service that was connected last is one of them. An event
without a list of services leaves services and places alone; one with a list leaves the services
that stay alone but for their places, and starts the others out provisional. -/
theorem services_enumerate_latest (events : List Event) (event : Event) :
    let before := (run events).snapshot
    let after := (run (events ++ [event])).snapshot
    before.services.map (·.path) = (latestList events).eraseDups ∧
    (before.services.map (·.path)).Nodup ∧
    (∀ (place : Nat) (service : Service), before.services[place]? = some service →
      service.index = place) ∧
    (∀ path, before.lastActive = some path → path ∈ before.services.map (·.path)) ∧
    (event.listed? = none →
      (after.services.map fun service ↦ (service.path, service.index)) =
        before.services.map fun service ↦ (service.path, service.index)) ∧
    ∀ paths, event.listed? = some paths → ∀ service ∈ after.services,
      (∃ kept ∈ before.services, service = { kept with index := service.index }) ∨
        (service.path ∉ before.services.map (·.path) ∧
          service = .provisional service.path service.index) := by
  intro before after
  have hreachable := reachable_run events
  have hwell := hreachable.wellFormed
  have hservices : after.services = ((run events).services.follow event).services := by
    change (run (events ++ [event])).services.services = _
    rw [run_concat, services_handle]
  have hpaths : before.services.map (·.path) = (run events).services.paths := paths_snapshot _
  rw [hpaths]
  refine ⟨paths_run events, hwell.distinct, ?_, hreachable.activeTracked, ?_, ?_⟩
  · intro place service hservice
    change ((run events).services.entries.map (·.service))[place]? = some service at hservice
    rw [List.getElem?_map] at hservice
    obtain ⟨entry, hentry, rfl⟩ := Option.map_eq_some_iff.1 hservice
    exact hwell.indexed place entry hentry
  · intro hunlisted
    calc
      (after.services.map fun service ↦ (service.path, service.index)) =
          ((run events).services.follow event).paths.zipIdx := by
        rw [hservices, (hwell.follow event).places]
      _ = (run events).services.paths.zipIdx := by
        rw [ServiceRoster.paths_follow_of_not_listed hunlisted]
      _ = before.services.map fun service ↦ (service.path, service.index) := hwell.places.symm
  · intro paths hlisted service hservice
    rw [hservices, ServiceRoster.follow_of_listed hlisted] at hservice
    exact ServiceRoster.service_of_mem_reconcile hservice

/-- Two services come online and trade places; a third one comes, and the first one goes. -/
def reordered : List Event :=
  let list (paths : List String) := Event.managerChanged "Services" (.ofTexts paths)
  [list ["/a", "/b", "/a"],
    .serviceChanged ⟨"/a", by decide⟩ "State" (.text "online"), list ["/b", "/a"]]

/-- In the next list the first service is gone, the second one keeps its place, and the third one is
provisional. -/
theorem services_enumerate_reordered :
    let next := Event.managerChanged "Services" (.ofTexts ["/b", "no path", "/c", "/b"])
    let after := (run (reordered ++ [next])).snapshot
    latestList (reordered ++ [next]) =
        [⟨"/b", by decide⟩, ⟨"/c", by decide⟩, ⟨"/b", by decide⟩] ∧
      after.services.map (·.path) = [⟨"/b", by decide⟩, ⟨"/c", by decide⟩] ∧
      ∀ service ∈ after.services,
        (∃ kept ∈ (run reordered).snapshot.services,
            service = { kept with index := service.index }) ∨
          (service.path ∉ (run reordered).snapshot.services.map (·.path) ∧
            service = .provisional service.path service.index) := by
  intro next after
  have hlatest : latestList (reordered ++ [next]) =
      [⟨"/b", by decide⟩, ⟨"/c", by decide⟩, ⟨"/b", by decide⟩] := by decide +kernel
  have hpaths := (services_enumerate_latest (reordered ++ [next]) next).1
  have hkept := (services_enumerate_latest reordered next).2.2.2.2.2
  refine ⟨hlatest, ?_, hkept [⟨"/b", by decide⟩, ⟨"/c", by decide⟩, ⟨"/b", by decide⟩] ?_⟩
  · rw [hlatest] at hpaths
    exact hpaths.trans (by decide +kernel)
  · decide +kernel

end Tracker

end Uplink
