import Uplink.Proofs.Service.Transition
import Uplink.Proofs.Tracker.Continuation
import Uplink.Proofs.Tracker.Tickets
/-!
# Changes while a service is fetched again

Of the changes that come in while a service is fetched again only the latest of each property is
kept, behind all others. Taken on top of the reply they make of it the same service as all changes
in the order in which they came, because a service is read off the last value of each property. Of
what was known of the service before, the place in the list and the passphrase are left.
-/

namespace Uplink

open Wire (Value Properties)

/-- The change that an event reports of the service at this path. -/
def Event.change? (path : ObjectPath) : Event → Option (String × Value)
  | .serviceChanged changed key value => if changed = path then some (key, value) else none
  | _ => none

/-- The changes of this service in the course of these events, in their order. -/
def Event.changes (path : ObjectPath) (events : List Event) : List (String × Value) :=
  events.filterMap (change? path)

/-- The service that a reply and the changes after it describe. Nothing else enters but the place in
the list, and a passphrase in case the reply has none and asks for none. -/
def Service.described (path : ObjectPath) (index : Nat) (passphrase : Option String)
    (reply : Properties) (changes : List (String × Value)) : Service :=
  let reported := (Service.provisional path index).setProperties reply.entries
  let kept :=
    if reported.passphrase = none ∧ reported.passphraseRequired = false then
      { reported with passphrase }
    else reported
  { kept.setProperties changes with populated := true }

/-- The path and the place are not properties. -/
theorem Service.index_described (path : ObjectPath) (index : Nat) (passphrase : Option String)
    (reply : Properties) (changes : List (String × Value)) :
    (Service.described path index passphrase reply changes).index = index := by
  unfold described
  simp only [Service.setProperties_eq_amended]
  split <;> rfl

namespace ServiceRoster

variable {path : ObjectPath} {entry after : Entry} {key : String} {value : Value}

/-- Whether the entry waits for the reply of this generation, and has kept of these changes what
counts. -/
structure Entry.Awaits (entry : Entry) (generation : Nat) (changes : List (String × Value)) :
    Prop where
  current : entry.generation = generation
  kept : ∃ kept, entry.replay = some kept ∧ lastValue? kept = lastValue? changes

/-- What is asked for again begins with nothing kept. -/
theorem Entry.awaits_invalidated (entry : Entry) (generation : Nat) (key : String)
    (value : Value) : (entry.invalidated generation key value).Awaits generation [] where
  current := rfl
  kept := ⟨[], rfl, rfl⟩

/-- A change is kept in the place of an earlier one of the same property. -/
theorem Entry.Awaits.noted {generation : Nat} {changes : List (String × Value)}
    (h : entry.Awaits generation changes) (key : String) (value : Value) :
    ((entry.record key value).setProperty key value).Awaits generation
      (changes ++ [(key, value)]) where
  current := h.current
  kept := by
    obtain ⟨kept, hreplay, hlast⟩ := h.kept
    refine ⟨kept.filter (fun change ↦ change.1 ≠ key) ++ [(key, value)], ?_, ?_⟩
    · change entry.replay.map _ = _
      rw [hreplay, Option.map_some]
    · funext name
      rw [lastValue?_record, lastValue?_append, lastValue?_append, hlast]

/-- A reply reads as if all changes were taken on top of it that have the same last values as those
that are kept. -/
theorem Entry.fetched_eq_described {changes : List (String × Value)}
    (hlast : lastValue? (entry.replay.getD []) = lastValue? changes) (reply : Properties) :
    entry.fetched reply =
      .described entry.path entry.service.index entry.service.passphrase reply changes := by
  unfold fetched Service.described
  simp only [Service.setProperties_eq_amended, hlast, Bool.and_eq_true, Option.isNone_iff_eq_none,
    Bool.not_eq_true']

end ServiceRoster

namespace Tracker

open ServiceRoster (Entry)

variable {tracker : Tracker} {event : Event} {path : ObjectPath} {entry : Entry} {ticket : Ticket}

/-- Whether the latest fetch of the service at this path goes on: the service stays tracked, the
reply is not there yet, and no change asks for another fetch. -/
structure FetchGoesOn (path : ObjectPath) (tracker : Tracker) (event : Event) : Prop where
  tracked : path ∈ (tracker.handle event).tracker.services.paths
  unanswered : ∀ properties, ¬ tracker.services.TakesReply path properties event
  undoubted : ∀ key value, event = .serviceChanged path key value →
    ServiceRoster.needsRefetch key = false

/-- A fetch that goes on has its changes kept. -/
theorem awaits_handle (hgoes : FetchGoesOn path tracker event)
    (hentry : tracker.services.get? path = some entry) {generation : Nat}
    {changes : List (String × Value)} (hawaits : entry.Awaits generation changes) :
    ∃ after, (tracker.handle event).tracker.services.get? path = some after ∧
      after.Awaits generation (changes ++ (event.change? path).toList) := by
  obtain ⟨after, hafter⟩ := ServiceRoster.exists_get?_of_mem_paths hgoes.tracked
  refine ⟨after, hafter, ?_⟩
  have hsilent (hnone : event.change? path = none) (hkeeps : entry.Keeps after) :
      after.Awaits generation (changes ++ (event.change? path).toList) := by
    rw [hnone, Option.toList_none, List.append_nil]
    obtain ⟨index, passphrase, rfl⟩ := hkeeps
    exact ⟨hawaits.current, hawaits.kept⟩
  cases becomes_handle hentry hafter with
  | answered htaken => exact absurd htaken (hgoes.unanswered _)
  | doubted hkey =>
    rw [hgoes.undoubted _ _ rfl] at hkey
    cases hkey
  | changed hkey =>
    change Entry.Awaits _ generation (changes ++ (if path = path then some _ else none).toList)
    rw [if_pos rfl]
    exact hawaits.noted _ _
  | commanded hcommand =>
    refine hsilent ?_ ⟨_, _, rfl⟩
    cases hcommand <;> rfl
  | kept hreply hchange hcommand place =>
    refine hsilent ?_ ⟨_, _, rfl⟩
    cases event with
    | serviceChanged changed key value =>
      have hne : changed ≠ path := by
        rintro rfl
        exact hchange key value rfl
      exact if_neg hne
    | _ => rfl

/-- So it has throughout. -/
theorem awaits_after {since : List Event} (hgoes : tracker.Along (FetchGoesOn path) since)
    (hentry : tracker.services.get? path = some entry) {generation : Nat}
    {changes : List (String × Value)} (hawaits : entry.Awaits generation changes) :
    ∃ after, (tracker.after since).services.get? path = some after ∧
      after.Awaits generation (changes ++ Event.changes path since) := by
  induction since generalizing tracker entry changes with
  | nil =>
    refine ⟨entry, hentry, ?_⟩
    unfold Event.changes
    rw [List.filterMap_nil, List.append_nil]
    exact hawaits
  | cons event rest ih =>
    obtain ⟨hnow, hrest⟩ := hgoes
    obtain ⟨next, hnext, hkept⟩ := awaits_handle hnow hentry hawaits
    obtain ⟨after, hafter, hall⟩ := ih hrest hnext hkept
    refine ⟨after, hafter, ?_⟩
    have hchanges : Event.changes path (event :: rest) =
        (event.change? path).toList ++ Event.changes path rest := by
      unfold Event.changes
      rw [List.filterMap_cons]
      cases event.change? path <;> rfl
    rw [hchanges, ← List.append_assoc]
    exact hall

/-- A reply that is taken leaves the entry with what it describes, and with nothing kept. -/
theorem get?_serviceFetched {changes : List (String × Value)}
    (hentry : tracker.services.get? ticket.path = some entry)
    (hcurrent : entry.generation = ticket.generation)
    (hlast : lastValue? (entry.replay.getD []) = lastValue? changes) (reply : Properties) :
    (tracker.handle (.serviceFetched ticket reply)).tracker.services.get? ticket.path =
      some
        { service :=
            .described ticket.path entry.service.index entry.service.passphrase reply changes
          generation := ticket.generation } := by
  have hpath : entry.path = ticket.path := ServiceRoster.path_of_get? hentry
  rw [services_handle]
  change ((tracker.services.completeFetch? ticket reply).getD _).get? ticket.path = _
  rw [ServiceRoster.get?_completeFetch? hentry hcurrent]
  unfold Entry.answered
  rw [Entry.fetched_eq_described hlast, hcurrent, hpath]

/-- A change that asks for a fetch is one of a service that is tracked, which then waits. -/
theorem awaits_of_refetchService {key : String} {value : Value}
    (hasked : .refetchService ticket ∈ (tracker.handle (.serviceChanged path key value)).actions) :
    ticket.path = path ∧
      ∃ entry, (tracker.handle (.serviceChanged path key value)).tracker.services.get? path =
        some entry ∧ entry.Awaits ticket.generation [] := by
  change _ ∈ (tracker.changeService path key value).actions at hasked
  cases hbefore : tracker.services.get? path with
  | none =>
    unfold changeService ServiceRoster.change at hasked
    rw [hbefore] at hasked
    cases hasked
  | some before =>
    obtain ⟨hkey, rfl⟩ := (actions_changeService hbefore key value).1 hasked
    refine ⟨rfl, before.invalidated (tracker.services.generation + 1) key value, ?_, ?_⟩
    · rw [services_handle]
      exact ServiceRoster.get?_change_of_needsRefetch hbefore hkey value
    · exact before.awaits_invalidated _ key value

/-- While a service is fetched again any changes of it can come in, and anything else can happen but
the reply and a call for another fetch. The reply then makes of the service what it and all of the
changes on top of it describe, in the order in which they came, with nothing of the service before
but its place and its passphrase at that time. Nothing is kept afterwards, so that the changes do
not enter into a reply that comes later. -/
theorem serviceFetched_replays_changes {key : String} {value : Value} {since : List Event}
    (hasked : .refetchService ticket ∈ (tracker.handle (.serviceChanged path key value)).actions)
    (hgoes : (tracker.handle (.serviceChanged path key value)).tracker.Along (FetchGoesOn path)
      since)
    (reply : Properties) :
    let waiting := (tracker.handle (.serviceChanged path key value)).tracker.after since
    let answered := (waiting.handle (.serviceFetched ticket reply)).tracker
    ∃ entry, waiting.services.get? path = some entry ∧
      let described := Service.described path entry.service.index
      let service := described entry.service.passphrase reply (Event.changes path since)
      answered.services.get? path =
        some { service, generation := ticket.generation, replay := none } ∧
      ∀ later : Properties,
        (answered.handle (.serviceFetched ticket later)).tracker.services.get? path =
          some
            { service := described service.passphrase later []
              generation := ticket.generation
              replay := none } := by
  intro waiting answered
  obtain ⟨rfl, first, hfirst, hbegins⟩ := awaits_of_refetchService hasked
  obtain ⟨entry, hentry, hawaits⟩ := awaits_after hgoes hfirst hbegins
  rw [List.nil_append] at hawaits
  obtain ⟨kept, hreplay, hlast⟩ := hawaits.kept
  refine ⟨entry, hentry, ?_⟩
  intro described service
  have hanswered : answered.services.get? ticket.path =
      some { service, generation := ticket.generation, replay := none } := by
    refine get?_serviceFetched hentry hawaits.current ?_ reply
    rw [hreplay, Option.getD_some, hlast]
  refine ⟨hanswered, fun later ↦ ?_⟩
  have hempty : lastValue? ((none : Option (List (String × Value))).getD []) = lastValue? [] := rfl
  have hlater := get?_serviceFetched hanswered rfl hempty later
  rw [Service.index_described] at hlater
  exact hlater

/-! ## A service that changes while it is set up -/

theorem FetchGoesOn.of_serviceChanged {changed : ObjectPath} {key : String} {value : Value}
    (htracked : path ∈ (tracker.handle (.serviceChanged changed key value)).tracker.services.paths)
    (hkey : ServiceRoster.needsRefetch key = false) :
    FetchGoesOn path tracker (.serviceChanged changed key value) where
  tracked := htracked
  unanswered := ServiceRoster.not_takesReply_serviceChanged
  undoubted := by
    rintro _ _ ⟨⟩
    exact hkey

theorem FetchGoesOn.of_ne (htracked : path ∈ (tracker.handle event).tracker.services.paths)
    (hreply : ∀ ticket properties, event ≠ .serviceFetched ticket properties)
    (hchange : ∀ key value, event ≠ .serviceChanged path key value) :
    FetchGoesOn path tracker event where
  tracked := htracked
  unanswered := ServiceRoster.not_takesReply_of_ne hreply
  undoubted key value hevent := absurd hevent (hchange key value)

/-- The path of a service. -/
def office : ObjectPath := ⟨"/office", by decide⟩

/-- A service is listed and fetched. -/
def officeFetched : Tracker :=
  run [.managerChanged "Services" (.ofTexts ["/office"]),
    .serviceFetched ⟨office, 1⟩ (.ofPairs [("Name", .text "Office"), ("Favorite", .bool true)])]

/-- It is set up, and meanwhile its strength changes twice around something that nobody knows, a
passphrase is entered, and another service comes in front of it. The reply has an old strength, and
no longer says that the service is a favorite. -/
theorem serviceFetched_replays_changes_moved :
    let doubt := Event.serviceChanged office "SetupRequired" (.bool true)
    let since : List Event := [.serviceChanged office "Strength" (.byte 40),
      .serviceChanged office "Unheard" (.text "of"), .passphraseSubmitted office "secret",
      .managerChanged "Services" (.ofTexts ["/lan", "/office"]),
      .serviceChanged office "Strength" (.byte 60)]
    let reply := Properties.ofPairs [("Strength", .byte 10), ("Name", .text "Office")]
    let described := Service.described office 1 (some "secret") reply
      [("Strength", .byte 40), ("Unheard", .text "of"), ("Strength", .byte 60)]
    let waiting := (officeFetched.handle doubt).tracker.after since
    let answered := (waiting.handle (.serviceFetched ⟨office, 2⟩ reply)).tracker
    .refetchService ⟨office, 2⟩ ∈ (officeFetched.handle doubt).actions ∧
      (officeFetched.handle doubt).tracker.Along (FetchGoesOn office) since ∧
      answered.services.get? office = some { service := described, generation := 2 } ∧
      described.strength = some 60 ∧ described.favorite = false := by
  intro doubt since reply described waiting answered
  have hasked : .refetchService ⟨office, 2⟩ ∈ (officeFetched.handle doubt).actions := by
    decide +kernel
  have hgoes : (officeFetched.handle doubt).tracker.Along (FetchGoesOn office) since :=
    ⟨.of_serviceChanged (by decide +kernel) rfl, .of_serviceChanged (by decide +kernel) rfl,
      .of_ne (by decide +kernel) nofun nofun, .of_ne (by decide +kernel) nofun nofun,
      .of_serviceChanged (by decide +kernel) rfl, trivial⟩
  obtain ⟨entry, hentry, hanswered, -⟩ := serviceFetched_replays_changes hasked hgoes reply
  have hwaiting : waiting.services.get? office = some entry := hentry
  have hplace : (waiting.services.get? office).map (·.service.index) = some 1 := by decide +kernel
  have hpassphrase : (waiting.services.get? office).map (·.service.passphrase) =
      some (some "secret") := by decide +kernel
  rw [hwaiting, Option.map_some, Option.some.injEq] at hplace hpassphrase
  rw [hplace, hpassphrase] at hanswered
  exact ⟨hasked, hgoes, hanswered, by decide +kernel, by decide +kernel⟩

end Tracker

end Uplink
