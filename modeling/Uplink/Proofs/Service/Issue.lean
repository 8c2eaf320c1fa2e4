import Uplink.Proofs.Tracker.History
import Uplink.Proofs.Tracker.Tickets
/-!
# Which replies about services are taken

Every fetch of a service is numbered by one counter, whether the service is new or was in doubt, so
that the tickets of a run stand in the order of their generations. The entry of a tracked service
holds the ticket that was given out last for its path, which is that of a later fetch as soon as the
service is doubted or comes back after it was gone.
-/

namespace Uplink

open Wire (Value Properties)

/-- The ticket that a service is fetched with. -/
def Action.serviceTicket? : Action → Option Ticket
  | attachService ticket => some ticket
  | refetchService ticket => some ticket
  | _ => none

/-- The tickets that services are fetched with, in the order of the actions. -/
def Action.serviceTickets (actions : List Action) : List Ticket :=
  actions.filterMap serviceTicket?

attribute [ext] Ticket

theorem Action.serviceTickets_append (earlier later : List Action) :
    serviceTickets (earlier ++ later) = serviceTickets earlier ++ serviceTickets later :=
  List.filterMap_append

namespace Ticket

/-- The last of these tickets that is for this path. -/
def latest? (tickets : List Ticket) (path : ObjectPath) : Option Ticket :=
  (tickets.filter (·.path = path)).getLast?

variable {tickets : List Ticket} {path : ObjectPath} {ticket : Ticket}

theorem latest?_append (earlier later : List Ticket) (path : ObjectPath) :
    latest? (earlier ++ later) path = (latest? later path).or (latest? earlier path) := by
  unfold latest?
  rw [List.filter_append, List.getLast?_append]

theorem mem_of_latest? (h : latest? tickets path = some ticket) :
    ticket ∈ tickets ∧ ticket.path = path := by
  have hmem := List.mem_filter.1 (List.mem_of_getLast? h)
  exact ⟨hmem.1, of_decide_eq_true hmem.2⟩

theorem latest?_eq_none_iff :
    latest? tickets path = none ↔ ∀ ticket ∈ tickets, ticket.path ≠ path := by
  simp [latest?]

end Ticket

namespace ServiceRoster

variable {roster roster' : ServiceRoster} {path : ObjectPath} {ticket : Ticket}

/-- The ticket with which the service at this path was fetched last. -/
def ticket? (roster : ServiceRoster) (path : ObjectPath) : Option Ticket :=
  (roster.get? path).map fun entry ↦ ⟨path, entry.generation⟩

theorem ticket?_eq_some_iff : roster.ticket? path = some ticket ↔
    ticket.path = path ∧ ∃ entry, roster.get? path = some entry ∧
      entry.generation = ticket.generation := by
  unfold ticket?
  rw [Option.map_eq_some_iff]
  constructor
  · rintro ⟨entry, hentry, rfl⟩
    exact ⟨rfl, entry, hentry, rfl⟩
  · rintro ⟨rfl, entry, hentry, hgeneration⟩
    exact ⟨entry, hentry, by rw [hgeneration]⟩

/-- A reply is taken if it shows the ticket of the last fetch. -/
theorem isSome_completeFetch?_iff {properties : Properties} :
    (roster.completeFetch? ticket properties).isSome = true ↔
      roster.ticket? ticket.path = some ticket := by
  rw [Option.isSome_iff_exists, ticket?_eq_some_iff]
  constructor
  · rintro ⟨roster', htaken⟩
    obtain ⟨entry, hentry, hgeneration, -⟩ := completeFetch?_eq_some_iff.1 htaken
    exact ⟨rfl, entry, hentry, hgeneration⟩
  · rintro ⟨-, entry, hentry, hgeneration⟩
    exact ⟨_, completeFetch?_eq_some_iff.2 ⟨entry, hentry, hgeneration, rfl⟩⟩

/-- The tickets that are given out on the way from one roster to another: they are numbered without
a gap, and a service that is tracked in the end was fetched with the last of them that is for it,
or else as it was before. -/
structure Issues (roster : ServiceRoster) (tickets : List Ticket) (roster' : ServiceRoster) :
    Prop where
  numbered : tickets.map (·.generation) = List.range' (roster.generation + 1) tickets.length
  counted : roster'.generation = roster.generation + tickets.length
  latest : ∀ path ticket, roster'.ticket? path = some ticket →
    (Ticket.latest? tickets path).or (roster.ticket? path) = some ticket

/-- Nothing is given out where no service is fetched anew. -/
theorem Issues.of_ticket?_eq (hgeneration : roster'.generation = roster.generation)
    (hticket : roster'.ticket? = roster.ticket?) : Issues roster [] roster' where
  numbered := rfl
  counted := hgeneration
  latest path ticket hafter := by
    rw [hticket] at hafter
    exact hafter

theorem Issues.refl (roster : ServiceRoster) : Issues roster [] roster := .of_ticket?_eq rfl rfl

theorem Issues.trans {roster'' : ServiceRoster} {tickets more : List Ticket}
    (h : Issues roster tickets roster') (h' : Issues roster' more roster'') :
    Issues roster (tickets ++ more) roster'' where
  numbered := by
    have hmore := h'.numbered
    rw [h.counted, Nat.add_right_comm] at hmore
    rw [List.map_append, h.numbered, hmore, List.length_append, List.range'_append_1]
  counted := by rw [h'.counted, h.counted, List.length_append, Nat.add_assoc]
  latest path ticket hafter := by
    have hlater := h'.latest path ticket hafter
    rw [Ticket.latest?_append, Option.or_assoc]
    cases hmore : Ticket.latest? more path with
    | some last =>
      rw [hmore] at hlater
      exact hlater
    | none =>
      rw [hmore, Option.none_or] at hlater
      exact h.latest path ticket hlater

/-! ## Single steps -/

theorem generations_place (roster : ServiceRoster) (index generation : Nat)
    (order : List ObjectPath) :
    (roster.place index generation order).2.map (·.generation) =
      List.range' (generation + 1) (roster.place index generation order).2.length := by
  induction order generalizing index generation with
  | nil => rfl
  | cons path rest ih =>
    cases hpath : roster.get? path with
    | some entry =>
      rw [place_cons_of_some hpath]
      exact ih (index + 1) generation
    | none =>
      rw [place_cons_of_none hpath, List.map_cons, List.length_cons, List.range'_succ, ih]

/-- A service that is new in a list has one ticket, which its entry shows; any other has none. -/
theorem WellFormed.issues_reconcile (h : roster.WellFormed) (listed : List ObjectPath) :
    Issues roster (roster.reconcile listed).2.added (roster.reconcile listed).1 where
  numbered := generations_place roster 0 roster.generation listed.eraseDups
  counted := rfl
  latest path ticket hafter := by
    let added := (roster.reconcile listed).2.added
    obtain ⟨rfl, entry, hentry, hgeneration⟩ := ticket?_eq_some_iff.1 hafter
    cases hlatest : Ticket.latest? added ticket.path with
    | some given =>
      obtain ⟨hgiven, hpath⟩ := Ticket.mem_of_latest? hlatest
      obtain ⟨-, place, hnew⟩ := h.get?_reconcile_of_added hgiven
      rw [hpath, hentry] at hnew
      have hfresh : entry.generation = given.generation := by
        rw [Option.some.inj hnew]
        rfl
      change some given = some ticket
      congr 1
      exact Ticket.ext hpath (hfresh.symm.trans hgeneration)
    | none =>
      have hnot := Ticket.latest?_eq_none_iff.1 hlatest
      have hlisted : ticket.path ∈ listed.eraseDups := by
        rw [← paths_reconcile roster listed]
        exact mem_paths_of_get? hentry
      have htracked : ticket.path ∈ roster.paths := by
        by_contra hnew
        have hadded : ticket.path ∈ added.map (·.path) := by
          change ticket.path ∈ (roster.place 0 roster.generation listed.eraseDups).2.map (·.path)
          rw [paths_tickets_place, List.mem_filter]
          exact ⟨hlisted, decide_eq_true hnew⟩
        obtain ⟨given, hgiven, hpath⟩ := List.mem_map.1 hadded
        exact hnot given hgiven hpath
      obtain ⟨kept, hkept⟩ := exists_get?_of_mem_paths htracked
      obtain ⟨place, rfl⟩ := get?_reconcile hkept hentry
      exact ticket?_eq_some_iff.2 ⟨rfl, kept, hkept, hgeneration⟩

/-- An entry that is changed in its place keeps the ticket. -/
theorem ticket?_put {entry changed : Entry} (hentry : roster.get? entry.path = some entry)
    (hpath : changed.path = entry.path) (hgeneration : changed.generation = entry.generation) :
    (roster.put changed).ticket? = roster.ticket? := by
  funext path
  unfold ticket?
  rw [get?_put]
  split
  next hchanged =>
    rw [← hchanged, hpath, hentry]
    change some (Ticket.mk _ changed.generation) = some (Ticket.mk _ entry.generation)
    rw [hgeneration]
  next => rfl

theorem issues_completeFetch? (roster : ServiceRoster) (ticket : Ticket)
    (properties : Properties) :
    Issues roster [] ((roster.completeFetch? ticket properties).getD roster) := by
  cases hfetch : roster.completeFetch? ticket properties with
  | none => exact .refl roster
  | some roster' =>
    obtain ⟨entry, hentry, -, rfl⟩ := completeFetch?_eq_some_iff.1 hfetch
    rw [← path_of_get? hentry] at hentry
    exact .of_ticket?_eq rfl (ticket?_put hentry (entry.path_answered properties) rfl)

theorem issues_setPassphrase {entry : Entry} (hentry : roster.get? path = some entry)
    (passphrase : Option String) : Issues roster [] (roster.setPassphrase entry passphrase) := by
  rw [← path_of_get? hentry] at hentry
  exact .of_ticket?_eq rfl (ticket?_put hentry rfl rfl)

theorem issues_echoPassphrase? (roster : ServiceRoster) (path : ObjectPath)
    (passphrase : String) :
    Issues roster [] ((roster.echoPassphrase? path passphrase).getD roster) := by
  unfold echoPassphrase?
  cases hentry : roster.get? path with
  | none => exact .refl roster
  | some entry => exact issues_setPassphrase hentry _

theorem issues_forgetPassphrase? (roster : ServiceRoster) (path : ObjectPath) :
    Issues roster [] ((roster.forgetPassphrase? path).getD roster) := by
  cases hforget : roster.forgetPassphrase? path with
  | none => exact .refl roster
  | some roster' =>
    obtain ⟨entry, hentry, -, rfl⟩ := forgetPassphrase?_eq_some_iff.1 hforget
    exact issues_setPassphrase hentry none

/-- A change after which the service is fetched again replaces its ticket and no other. -/
theorem issues_change_of_needsRefetch {entry : Entry} (hentry : roster.get? path = some entry)
    {key : String} (hkey : needsRefetch key = true) (value : Value) :
    Issues roster [⟨path, roster.generation + 1⟩] (roster.change path key value).1 where
  numbered := rfl
  counted := by
    rw [change_of_needsRefetch hentry hkey]
    rfl
  latest other ticket hafter := by
    obtain ⟨rfl, after, hafter, hgeneration⟩ := ticket?_eq_some_iff.1 hafter
    by_cases hother : path = ticket.path
    · rw [← hother, get?_change_of_needsRefetch hentry hkey] at hafter
      obtain rfl := Option.some.inj hafter
      have hticket : (⟨path, roster.generation + 1⟩ : Ticket) = ticket :=
        Ticket.ext hother hgeneration
      rw [hticket]
      simp [Ticket.latest?]
    · rw [get?_change_of_ne hother] at hafter
      have hnone : Ticket.latest? [⟨path, roster.generation + 1⟩] ticket.path = none := by
        simpa [Ticket.latest?_eq_none_iff] using hother
      rw [hnone, Option.none_or]
      exact ticket?_eq_some_iff.2 ⟨rfl, after, hafter, hgeneration⟩

theorem issues_change_of_not_needsRefetch {entry : Entry}
    (hentry : roster.get? path = some entry) {key : String} (hkey : needsRefetch key = false)
    (value : Value) : Issues roster [] (roster.change path key value).1 := by
  obtain ⟨hentries, hgeneration, -⟩ := change_of_not_needsRefetch hentry hkey value
  rw [← path_of_get? hentry] at hentry
  have hput := ticket?_put hentry (entry.path_noted key value) rfl
  refine .of_ticket?_eq hgeneration (Eq.trans ?_ hput)
  unfold ticket? get?
  rw [hentries]

end ServiceRoster

/-! ## Events -/

namespace Tracker

open ServiceRoster (Issues)

variable {tracker : Tracker}

theorem serviceTickets_eq_nil {event : Event} (h : event.subject ≠ .services) :
    Action.serviceTickets (tracker.handle event).actions = [] := by
  refine List.filterMap_eq_nil_iff.2 fun action hasked ↦ ?_
  have hsubject := subject_of_mem_handle hasked
  rw [← hsubject] at h
  cases action <;> first | rfl | exact absurd rfl h

theorem issues_setManagerProperty (h : tracker.services.WellFormed) (key : String)
    (value : Value) :
    Issues tracker.services (Action.serviceTickets (tracker.setManagerProperty key value).2)
      (tracker.setManagerProperty key value).1.services := by
  rw [services_setManagerProperty]
  unfold setManagerProperty ServiceRoster.followManager
  split
  · unfold setServices
    cases value.paths? with
    | none => exact .refl _
    | some paths =>
      have htickets : Action.serviceTickets
          ((tracker.services.reconcile paths).2.removed.map .detachService ++
            (tracker.services.reconcile paths).2.added.map .attachService) =
          (tracker.services.reconcile paths).2.added := by
        unfold Action.serviceTickets
        rw [List.filterMap_append, List.filterMap_map, List.filterMap_map]
        simp [Function.comp_def, Action.serviceTicket?]
      change Issues _ (Action.serviceTickets (_ ++ _)) _
      rw [htickets]
      exact h.issues_reconcile paths
  · split <;> exact .refl _

theorem issues_setManagerProperties (h : tracker.services.WellFormed)
    (properties : List (String × Value)) :
    Issues tracker.services (Action.serviceTickets (tracker.setManagerProperties properties).2)
      (tracker.setManagerProperties properties).1.services := by
  induction properties generalizing tracker with
  | nil => exact .refl _
  | cons property rest ih =>
    have hfirst := issues_setManagerProperty h property.1 property.2
    have hwell : (tracker.setManagerProperty property.1 property.2).1.services.WellFormed := by
      rw [services_setManagerProperty]
      exact h.followManager property.1 property.2
    rw [setManagerProperties_cons, Action.serviceTickets_append]
    exact hfirst.trans (ih hwell)

theorem issues_changeService (path : ObjectPath) (key : String) (value : Value) :
    Issues tracker.services
      (Action.serviceTickets (tracker.changeService path key value).actions)
      (tracker.changeService path key value).tracker.services := by
  rw [services_changeService]
  cases hentry : tracker.services.get? path with
  | none =>
    unfold changeService ServiceRoster.change
    rw [hentry]
    exact .refl _
  | some entry =>
    cases hkey : ServiceRoster.needsRefetch key with
    | true =>
      have htickets : Action.serviceTickets (tracker.changeService path key value).actions =
          [⟨path, tracker.services.generation + 1⟩] := by
        rw [actions_changeService_eq, ServiceRoster.change_of_needsRefetch hentry hkey]
        rfl
      rw [htickets]
      exact ServiceRoster.issues_change_of_needsRefetch hentry hkey value
    | false =>
      obtain ⟨-, -, hother⟩ :=
        ServiceRoster.change_of_not_needsRefetch hentry hkey value
      have htickets :
          Action.serviceTickets (tracker.changeService path key value).actions = [] := by
        rw [actions_changeService_eq]
        cases hchange : (tracker.services.change path key value).2 with
        | refetch ticket => exact absurd hchange (hother ticket)
        | _ => rfl
      rw [htickets]
      exact ServiceRoster.issues_change_of_not_needsRefetch hentry hkey value

/-- What an event gives out is what the services are fetched with from then on. -/
theorem issues_handle (h : tracker.services.WellFormed) (event : Event) :
    Issues tracker.services (Action.serviceTickets (tracker.handle event).actions)
      (tracker.handle event).tracker.services := by
  by_cases hsubject : event.subject = .services
  · cases event with
    | managerReported properties =>
      let manager := { tracker.manager with available := true }
      have hwell : ({ tracker with manager } : Tracker).touched.services.WellFormed := h
      exact issues_setManagerProperties hwell properties.entries
    | managerChanged key value => exact issues_setManagerProperty h key value
    | serviceFetched ticket properties =>
      rw [services_handle]
      simp only [handle, actions_withServices?]
      exact ServiceRoster.issues_completeFetch? _ ticket properties
    | serviceChanged path key value => exact issues_changeService path key value
    | passphraseSubmitted path passphrase =>
      rw [services_handle]
      simp only [handle, actions_withServices?]
      exact ServiceRoster.issues_echoPassphrase? _ path passphrase
    | serviceForgotten path =>
      rw [services_handle]
      simp only [handle, actions_withServices?]
      exact ServiceRoster.issues_forgetPassphrase? _ path
    | shutdown => exact .refl _
    | _ => cases hsubject
  · rw [serviceTickets_eq_nil hsubject, services_handle,
      ServiceRoster.follow_of_subject hsubject]
    exact .refl _

end Tracker

namespace Publisher

open ServiceRoster (Issues)

/-- The tickets that services were fetched with in the course of these events, in their order. -/
def serviceTickets (events : List Event) : List Ticket := Action.serviceTickets (emitted events)

/-- Whether this ticket was given out in the course of the events, and its service was tracked after
that event and after every one since. -/
def TrackedSince (ticket : Ticket) : List Event → Prop :=
  Since
    (fun tracker event ↦
      ticket ∈ Action.serviceTickets (tracker.handle event).actions ∧
        ticket.path ∈ (tracker.handle event).tracker.services.paths)
    fun tracker event ↦ ticket.path ∈ (tracker.handle event).tracker.services.paths

theorem issues_run (events : List Event) :
    Issues {} (serviceTickets events) (run events).tracker.services := by
  apply emitted_induction
    (R := fun actions tracker ↦ Issues {} (Action.serviceTickets actions) tracker.services)
  · exact .refl {}
  · intro actions tracker event h hissues
    rw [Action.serviceTickets_append]
    exact hissues.trans (Tracker.issues_handle h.wellFormed event)

/-- The ticket that an entry shows was given out when the service was last fetched, and it has been
tracked since. -/
theorem trackedSince_of_ticket? {events : List Event} {ticket : Ticket}
    (h : (run events).tracker.services.ticket? ticket.path = some ticket) :
    TrackedSince ticket events := by
  apply since_of_step (P := fun tracker ↦ tracker.services.ticket? ticket.path = some ticket) _ _ h
  · exact nofun
  · intro tracker event hreachable hafter
    have hissues := Tracker.issues_handle hreachable.wellFormed event
    have hlatest := hissues.latest ticket.path ticket hafter
    obtain ⟨-, entry, hentry, -⟩ := ServiceRoster.ticket?_eq_some_iff.1 hafter
    have htracked := ServiceRoster.mem_paths_of_get? hentry
    cases hgiven : Ticket.latest? (Action.serviceTickets _) ticket.path with
    | some given =>
      rw [hgiven] at hlatest
      rw [Option.some.inj hlatest] at hgiven
      exact .inl ⟨(Ticket.mem_of_latest? hgiven).1, htracked⟩
    | none =>
      rw [hgiven, Option.none_or] at hlatest
      exact .inr ⟨hlatest, htracked⟩

theorem TrackedSince.mem_paths {events : List Event} {ticket : Ticket}
    (h : TrackedSince ticket events) : ticket.path ∈ (run events).tracker.services.paths := by
  rcases List.eq_nil_or_concat events with rfl | ⟨earlier, last, rfl⟩
  · exact absurd h not_since_nil
  · rw [List.concat_eq_append] at h ⊢
    rw [run_concat, tracker_advance]
    rcases since_concat_iff.1 h with ⟨-, htracked⟩ | ⟨-, htracked⟩ <;> exact htracked

/-- The tickets of services are numbered in the order in which they are given out. A reply is taken
exactly if its ticket is the last one that was given out for the path and the service has been
tracked all the time since; any other changes nothing and asks for nothing. -/
theorem serviceFetched_taken_iff (events : List Event) :
    let tracker := (run events).tracker
    let issued := serviceTickets events
    issued.map (·.generation) = List.range' 1 issued.length ∧
    issued.Pairwise (fun earlier later ↦ earlier.generation < later.generation) ∧
    ∀ (ticket : Ticket) (properties : Properties),
      ((tracker.services.completeFetch? ticket properties).isSome = true ↔
        Ticket.latest? issued ticket.path = some ticket ∧ TrackedSince ticket events) ∧
      (tracker.services.completeFetch? ticket properties = none →
        tracker.handle (.serviceFetched ticket properties) = { tracker }) := by
  intro tracker issued
  have hissues : Issues {} issued tracker.services := issues_run events
  have hnumbered : issued.map (·.generation) = List.range' 1 issued.length := hissues.numbered
  have hincreasing : (issued.map (·.generation)).Pairwise (· < ·) := by
    rw [hnumbered]
    exact List.pairwise_lt_range'
  have hlatest {path : ObjectPath} {ticket : Ticket}
      (h : tracker.services.ticket? path = some ticket) :
      Ticket.latest? issued path = some ticket := by
    have hlast := hissues.latest path ticket h
    change (Ticket.latest? issued path).or none = _ at hlast
    rw [Option.or_none] at hlast
    exact hlast
  refine ⟨hnumbered, List.pairwise_map.1 hincreasing, fun ticket properties ↦ ⟨?_, ?_⟩⟩
  · rw [ServiceRoster.isSome_completeFetch?_iff]
    constructor
    · exact fun hticket ↦ ⟨hlatest hticket, trackedSince_of_ticket? hticket⟩
    · rintro ⟨hlast, hsince⟩
      obtain ⟨entry, hentry⟩ := ServiceRoster.exists_get?_of_mem_paths hsince.mem_paths
      have hshown : tracker.services.ticket? ticket.path = some ⟨ticket.path, entry.generation⟩ :=
        ServiceRoster.ticket?_eq_some_iff.2 ⟨rfl, entry, hentry, rfl⟩
      rw [hshown, ← hlatest hshown, hlast]
  · intro hrejected
    unfold Tracker.handle
    dsimp only
    rw [hrejected]
    rfl

/-- The path of a service. -/
def onlyService : ObjectPath := ⟨"/wifi", by decide⟩

/-- A service is listed, doubted, gone and listed again. -/
def listedAgain : List Event :=
  [.managerChanged "Services" (.ofTexts ["/wifi"]),
    .serviceChanged onlyService "PassphraseRequired" (.bool true),
    .managerChanged "Services" (.ofTexts []), .managerChanged "Services" (.ofTexts ["/wifi"])]

/-- Of its three tickets, and of all others, only the last one is of use. -/
theorem serviceFetched_taken_listedAgain :
    let services := (run listedAgain).tracker.services
    serviceTickets listedAgain = [⟨onlyService, 1⟩, ⟨onlyService, 2⟩, ⟨onlyService, 3⟩] ∧
      ∀ generation properties,
        (services.completeFetch? ⟨onlyService, generation⟩ properties).isSome = true ↔
          generation = 3 := by
  intro services
  have hissued : serviceTickets listedAgain =
      [⟨onlyService, 1⟩, ⟨onlyService, 2⟩, ⟨onlyService, 3⟩] := by decide +kernel
  have hlatest : Ticket.latest? (serviceTickets listedAgain) onlyService =
      some ⟨onlyService, 3⟩ := by
    rw [hissued]
    decide
  obtain ⟨-, -, htaken⟩ := serviceFetched_taken_iff listedAgain
  have hlast : (services.completeFetch? ⟨onlyService, 3⟩ (.ofPairs [])).isSome = true := by
    decide +kernel
  have hsince : TrackedSince ⟨onlyService, 3⟩ listedAgain := ((htaken _ _).1.1 hlast).2
  refine ⟨hissued, fun generation properties ↦ ⟨fun haccepted ↦ ?_, ?_⟩⟩
  · have hshown := ((htaken _ _).1.1 haccepted).1
    rw [hlatest] at hshown
    exact (congrArg Ticket.generation (Option.some.inj hshown)).symm
  · rintro rfl
    exact (htaken _ _).1.2 ⟨hlatest, hsince⟩

end Publisher

end Uplink
