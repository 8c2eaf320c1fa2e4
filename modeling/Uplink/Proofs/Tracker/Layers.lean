import Uplink.Proofs.Service.Roster
import Uplink.Proofs.Tracker.Run
import Uplink.Proofs.Wire.Layers
/-!
# Reports in more layers

In how many variant layers a daemon puts a value, the items of an array or the values of a
dictionary does not matter. One property with the one value or the other leads to the same service,
the same modems and the same state of the network manager. A service that is being fetched keeps its
changes as they were reported, so that whole runs lead to trackers that are the same but for layers
in what is kept, and publish, ask for and answer the same.
-/

namespace Uplink

open Wire (Value Properties)

namespace Service

theorem linkAddress?_unwrapped (value : Value) :
    linkAddress? value.unwrapped = linkAddress? value := by
  unfold linkAddress?
  rw [Value.properties?_unwrapped, Option.bind_map]
  apply congrArg
  funext properties
  exact Properties.get?_bind_unwrapped Value.nonemptyText?_unwrapped properties "Address"

theorem setProperty_unwrapped (service : Service) (key : String) (value : Value) :
    service.setProperty key value.unwrapped = service.setProperty key value := by
  simp only [setProperty, Value.nonemptyText?_unwrapped, Value.text?_unwrapped,
    Value.bool?_unwrapped, Value.octet?_unwrapped, Value.texts?_unwrapped,
    IpSettings.ofValue?_unwrapped, nonemptyTexts?_unwrapped, ProxySettings.ofValue?_unwrapped,
    linkAddress?_unwrapped]

theorem setProperties_unwrapped (service : Service) (properties : List (String × Value)) :
    service.setProperties (Properties.unwrappedPairs properties) =
      service.setProperties properties := by
  unfold setProperties Properties.unwrappedPairs
  rw [List.foldl_map]
  simp only [setProperty_unwrapped]

end Service

namespace ModemRoster

theorem change_unwrapped (roster : ModemRoster) (path : ObjectPath) (key : String) (value : Value) :
    roster.change path key value.unwrapped = roster.change path key value := by
  simp only [change, setProperty, Value.nonemptyText?_unwrapped, Value.bool?_unwrapped,
    Value.texts?_unwrapped]

theorem changeSim?_unwrapped (roster : ModemRoster) (path : ObjectPath) (key : String)
    (value : Value) :
    roster.changeSim? path key value.unwrapped = roster.changeSim? path key value := by
  simp only [changeSim?, Counted.setProperty?, Value.bool?_unwrapped,
    CredentialKind.required?_unwrapped, Retries.ofValue_unwrapped, Value.nonemptyText?_unwrapped]

end ModemRoster

theorem ManagerState.setProperty?_unwrapped (manager : ManagerState) (key : String)
    (value : Value) :
    manager.setProperty? key value.unwrapped = manager.setProperty? key value := by
  simp only [setProperty?, technologies, Value.bool?_unwrapped, Value.nonemptyText?_unwrapped,
    Value.texts?_unwrapped]

theorem Tracker.setManagerProperty_unwrapped (tracker : Tracker) (key : String) (value : Value) :
    tracker.setManagerProperty key value.unwrapped = tracker.setManagerProperty key value := by
  simp only [setManagerProperty, setServices, Value.paths?_unwrapped,
    ManagerState.setProperty?_unwrapped]

namespace Wire.Value

/-- Values that differ in nothing but their layers are read alike, and every property that has the
one or the other leads to the same service, the same modems with what has to follow, and the same
state of the network manager. -/
theorem layers_irrelevant {a b : Value} (h : a.SameContent b) :
    (a.text? = b.text? ∧ a.nonemptyText? = b.nonemptyText? ∧ a.bool? = b.bool? ∧
      a.octet? = b.octet? ∧ a.texts? = b.texts? ∧ a.paths? = b.paths? ∧
      IpSettings.ofValue? a = IpSettings.ofValue? b ∧
      ProxySettings.ofValue? a = ProxySettings.ofValue? b ∧
      Retries.ofValue a = Retries.ofValue b ∧
      CredentialKind.required? a = CredentialKind.required? b) ∧
    Option.Rel Properties.SameContent a.properties? b.properties? ∧
    (∀ (service : Service) (key : String), service.setProperty key a = service.setProperty key b) ∧
    (∀ (modems : ModemRoster) (path : ObjectPath) (key : String),
      modems.change path key a = modems.change path key b ∧
      modems.changeSim? path key a = modems.changeSim? path key b) ∧
    ∀ (tracker : Tracker) (key : String),
      tracker.manager.setProperty? key a = tracker.manager.setProperty? key b ∧
      tracker.setManagerProperty key a = tracker.setManagerProperty key b := by
  refine ⟨⟨h.congr text?_unwrapped, h.congr nonemptyText?_unwrapped, h.congr bool?_unwrapped,
    h.congr octet?_unwrapped, h.congr texts?_unwrapped, h.congr paths?_unwrapped,
    h.congr IpSettings.ofValue?_unwrapped, h.congr ProxySettings.ofValue?_unwrapped,
    h.congr Retries.ofValue_unwrapped, h.congr CredentialKind.required?_unwrapped⟩,
    h.properties?, ?_, ?_, ?_⟩
  · intro service key
    exact h.congr (service.setProperty_unwrapped key)
  · intro modems path key
    exact ⟨h.congr (modems.change_unwrapped path key),
      h.congr (modems.changeSim?_unwrapped path key)⟩
  · intro tracker key
    exact ⟨h.congr (tracker.manager.setProperty?_unwrapped key),
      h.congr (tracker.setManagerProperty_unwrapped key)⟩

/-- A proxy whose dictionary, list and server are each one layer deeper. -/
theorem layers_irrelevant_proxy :
    let plain : Value := .dict .text .variant
      [(.text "Servers", .variant (.array (.scalar .text) [.text "proxy:3128"]))]
    let deeper : Value := .variant (.dict .text .variant
      [(.text "Servers", .variant (.variant (.array .variant [.variant (.text "proxy:3128")])))])
    plain.SameContent deeper ∧
      ProxySettings.ofValue? plain = some { servers := ["proxy:3128"] } ∧
      ProxySettings.ofValue? deeper = some { servers := ["proxy:3128"] } ∧
      ∀ service : Service,
        service.setProperty "Proxy" plain = service.setProperty "Proxy" deeper := by
  intro plain deeper
  have hservers : Value.SameContent (.array (.scalar .text) [.text "proxy:3128"])
      (.array .variant [.variant (.text "proxy:3128")]) :=
    sameContent_array _ _ (.cons (sameContent_wrap 1 _).symm .nil)
  have hentry : Value.SameContent (wrap 1 (.array (.scalar .text) [.text "proxy:3128"]))
      (wrap 2 (.array .variant [.variant (.text "proxy:3128")])) :=
    ((sameContent_wrap 1 _).trans hservers).trans (sameContent_wrap 2 _).symm
  have hcontent : plain.SameContent deeper :=
    (sameContent_dict .text .variant .variant (.cons ⟨rfl, hentry⟩ .nil)).trans
      (sameContent_wrap 1 _).symm
  have hplain : ProxySettings.ofValue? plain = some { servers := ["proxy:3128"] } := by decide
  obtain ⟨⟨-, -, -, -, -, -, -, hproxy, -, -⟩, -, hservice, -, -⟩ := layers_irrelevant hcontent
  exact ⟨hcontent, hplain, hproxy.symm.trans hplain, fun service ↦ hservice service "Proxy"⟩

end Wire.Value

/-! ## Tracked services -/

namespace ServiceRoster

def Entry.unwrapped (entry : Entry) : Entry :=
  { entry with replay := entry.replay.map Properties.unwrappedPairs }

/-- The roster with every change that it keeps unwrapped. -/
def unwrapped (roster : ServiceRoster) : ServiceRoster :=
  { roster with entries := roster.entries.map Entry.unwrapped }

theorem services_unwrapped (roster : ServiceRoster) : roster.unwrapped.services = roster.services :=
  List.map_map

theorem paths_unwrapped (roster : ServiceRoster) : roster.unwrapped.paths = roster.paths :=
  List.map_map

theorem get?_unwrapped (roster : ServiceRoster) (path : ObjectPath) :
    roster.unwrapped.get? path = (roster.get? path).map Entry.unwrapped := List.find?_map

theorem put_unwrapped (roster : ServiceRoster) (entry : Entry) :
    roster.unwrapped.put entry.unwrapped = (roster.put entry).unwrapped := by
  unfold put unwrapped
  dsimp only
  rw [List.map_map, List.map_map]
  congr 2
  funext other
  exact (apply_ite Entry.unwrapped (other.path = entry.path) entry other).symm

theorem Entry.fetched_unwrapped (entry : Entry) (properties : Properties) :
    entry.unwrapped.fetched properties.unwrapped = entry.fetched properties := by
  have hreported (service : Service) : service.setProperties properties.unwrapped.entries =
      service.setProperties properties.entries :=
    Service.setProperties_unwrapped service properties.entries
  have hreplay (service : Service) : service.setProperties (entry.unwrapped.replay.getD []) =
      service.setProperties (entry.replay.getD []) := by
    change service.setProperties ((entry.replay.map Properties.unwrappedPairs).getD []) = _
    cases entry.replay with
    | none => rfl
    | some changes => exact Service.setProperties_unwrapped service changes
  unfold Entry.fetched
  simp only [hreported, hreplay]
  rfl

theorem Entry.record_unwrapped (entry : Entry) (key : String) (value : Value) :
    entry.unwrapped.record key value.unwrapped = (entry.record key value).unwrapped := by
  unfold Entry.record Entry.unwrapped
  dsimp only
  rw [Option.map_map, Option.map_map]
  congr 2
  funext changes
  change (Properties.unwrappedPairs changes).filter _ ++ _ =
    Properties.unwrappedPairs (changes.filter _ ++ _)
  unfold Properties.unwrappedPairs
  rw [List.filter_map, List.map_append]
  rfl

theorem place_unwrapped (roster : ServiceRoster) (index generation : Nat)
    (order : List ObjectPath) :
    roster.unwrapped.place index generation order =
      ((roster.place index generation order).1.map Entry.unwrapped,
        (roster.place index generation order).2) := by
  induction order generalizing index generation with
  | nil => rfl
  | cons path rest ih =>
    unfold place
    rw [get?_unwrapped]
    cases roster.get? path with
    | none =>
      dsimp only [Option.map_none]
      rw [ih]
      rfl
    | some entry =>
      dsimp only [Option.map_some]
      rw [ih]
      rfl

theorem moves_unwrapped (roster : ServiceRoster) (order : List ObjectPath) :
    roster.unwrapped.moves order = roster.moves order := by
  unfold moves
  congr 1
  funext placed
  dsimp only
  rw [get?_unwrapped, Option.any_map]
  rfl

theorem reconcile_unwrapped (roster : ServiceRoster) (listed : List ObjectPath) :
    roster.unwrapped.reconcile listed =
      ((roster.reconcile listed).1.unwrapped, (roster.reconcile listed).2) := by
  unfold reconcile
  dsimp only
  rw [paths_unwrapped, moves_unwrapped,
    show roster.unwrapped.generation = roster.generation from rfl, place_unwrapped]
  rfl

theorem completeFetch?_unwrapped (roster : ServiceRoster) (ticket : Ticket)
    (properties : Properties) :
    roster.unwrapped.completeFetch? ticket properties.unwrapped =
      (roster.completeFetch? ticket properties).map unwrapped := by
  cases hentry : roster.get? ticket.path with
  | none =>
    unfold completeFetch?
    rw [get?_unwrapped, hentry]
    rfl
  | some entry =>
    have hentry' : roster.unwrapped.get? ticket.path = some entry.unwrapped := by
      rw [get?_unwrapped, hentry]
      rfl
    by_cases hticket : entry.generation = ticket.generation
    · have htaken : roster.completeFetch? ticket properties = some _ :=
        completeFetch?_eq_some_iff.2 ⟨entry, hentry, hticket, rfl⟩
      have htaken' : roster.unwrapped.completeFetch? ticket properties.unwrapped = some _ :=
        completeFetch?_eq_some_iff.2 ⟨entry.unwrapped, hentry', hticket, rfl⟩
      have hanswered : entry.unwrapped.answered properties.unwrapped =
          (entry.answered properties).unwrapped := by
        unfold Entry.answered
        rw [Entry.fetched_unwrapped]
        rfl
      rw [htaken, htaken', hanswered, put_unwrapped, Entry.fetched_unwrapped]
      rfl
    · rw [completeFetch?_of_ne hentry hticket, completeFetch?_of_ne hentry' hticket]
      rfl

theorem invalidate_unwrapped (roster : ServiceRoster) (entry : Entry) (key : String)
    (value : Value) :
    roster.unwrapped.invalidate entry.unwrapped key value.unwrapped =
      ((roster.invalidate entry key value).1.unwrapped, (roster.invalidate entry key value).2) := by
  unfold invalidate
  dsimp only
  rw [show entry.unwrapped.service = entry.service from rfl, Service.setProperty_unwrapped]
  have hput := roster.put_unwrapped (entry.invalidated (roster.generation + 1) key value)
  refine Prod.ext ?_ rfl
  exact congrArg
    (fun changed : ServiceRoster ↦ { changed with generation := roster.generation + 1 }) hput

theorem change_unwrapped (roster : ServiceRoster) (path : ObjectPath) (key : String)
    (value : Value) :
    roster.unwrapped.change path key value.unwrapped =
      ((roster.change path key value).1.unwrapped, (roster.change path key value).2) := by
  unfold change
  rw [get?_unwrapped]
  cases roster.get? path with
  | none => rfl
  | some entry =>
    dsimp only [Option.map_some]
    rw [invalidate_unwrapped]
    by_cases hkey : needsRefetch key
    · rw [if_pos hkey, if_pos hkey]
    · rw [if_neg hkey, if_neg hkey]
      have hnoted : (entry.unwrapped.record key value.unwrapped).setProperty key value.unwrapped =
          ((entry.record key value).setProperty key value).unwrapped := by
        rw [Entry.record_unwrapped]
        unfold Entry.setProperty
        rw [Service.setProperty_unwrapped]
        rfl
      rw [hnoted, put_unwrapped]
      by_cases hstate : key = "State"
      · rw [if_pos hstate, if_pos hstate]
        have hservice (kept : Entry) : kept.unwrapped.service = kept.service := rfl
        rw [hservice, hservice]
        generalize ((entry.record key value).setProperty key value).service.isConnected = connected
        generalize
          (((entry.record key value).setProperty key value).service.isVpn && _ && _) = down
        cases connected <;> cases down <;> rfl
      · rw [if_neg hstate, if_neg hstate]

theorem setPassphrase_unwrapped (roster : ServiceRoster) (entry : Entry)
    (passphrase : Option String) :
    roster.unwrapped.setPassphrase entry.unwrapped passphrase =
      (roster.setPassphrase entry passphrase).unwrapped :=
  roster.put_unwrapped { entry with service := { entry.service with passphrase } }

theorem echoPassphrase?_unwrapped (roster : ServiceRoster) (path : ObjectPath)
    (passphrase : String) :
    roster.unwrapped.echoPassphrase? path passphrase =
      (roster.echoPassphrase? path passphrase).map unwrapped := by
  unfold echoPassphrase?
  rw [get?_unwrapped, Option.map_map, Option.map_map]
  congr 1
  funext entry
  exact roster.setPassphrase_unwrapped entry (some passphrase)

theorem forgetPassphrase?_unwrapped (roster : ServiceRoster) (path : ObjectPath) :
    roster.unwrapped.forgetPassphrase? path = (roster.forgetPassphrase? path).map unwrapped := by
  unfold forgetPassphrase?
  rw [get?_unwrapped]
  cases roster.get? path with
  | none => rfl
  | some entry =>
    have hdropped := roster.setPassphrase_unwrapped entry none
    simp only [Option.map_some, Option.bind_eq_bind, Option.bind_some, hdropped,
      show entry.unwrapped.service = entry.service from rfl]
    cases entry.service.passphrase <;> rfl

end ServiceRoster

/-! ## Reports about modems -/

namespace ModemRoster

theorem merge_unwrapped (roster : ModemRoster) (path : ObjectPath) (properties : Properties) :
    roster.merge path properties.unwrapped = roster.merge path properties := by
  unfold merge
  change (properties.entries.map _).foldl _ _ = _
  rw [List.foldl_map]
  simp only [change_unwrapped]

theorem add_unwrapped (roster : ModemRoster) (path : ObjectPath) (properties : Properties) :
    roster.add path properties.unwrapped = roster.add path properties := merge_unwrapped ..

theorem refresh_unwrapped (roster : ModemRoster) (path : ObjectPath) (properties : Properties) :
    roster.refresh path properties.unwrapped = roster.refresh path properties := by
  unfold refresh
  rw [add_unwrapped]

theorem completeFetch?_unwrapped (roster : ModemRoster) (ticket : Ticket)
    (properties : Properties) :
    roster.completeFetch? ticket properties.unwrapped =
      roster.completeFetch? ticket properties := by
  have hreport (counted : Counted) :
      counted.report properties.unwrapped = counted.report properties := by
    simp only [Counted.report, Option.bind_eq_bind, Properties.get?_unwrapped, Option.bind_map,
      Option.elim_map, Function.comp_def, Value.bool?_unwrapped, Value.nonemptyText?_unwrapped,
      CredentialKind.required?_unwrapped, Retries.ofValue_unwrapped]
  unfold completeFetch?
  simp only [hreport]

end ModemRoster

/-! ## Whole runs -/

/-- The event with every value in it unwrapped. -/
def Event.unwrapped : Event → Event
  | .managerReported properties => .managerReported properties.unwrapped
  | .managerChanged key value => .managerChanged key value.unwrapped
  | .serviceFetched ticket properties => .serviceFetched ticket properties.unwrapped
  | .serviceChanged path key value => .serviceChanged path key value.unwrapped
  | .modemsListed modems => .modemsListed (modems.map fun modem ↦ (modem.1, modem.2.unwrapped))
  | .modemAdded path properties => .modemAdded path properties.unwrapped
  | .modemRefreshed path properties => .modemRefreshed path properties.unwrapped
  | .modemChanged path key value => .modemChanged path key value.unwrapped
  | .simFetched ticket properties => .simFetched ticket properties.unwrapped
  | .simChanged path key value => .simChanged path key value.unwrapped
  | event => event

/-- Whether the two are one event, but for the layers of the values in it. -/
def Event.SameContent (a b : Event) : Prop := a.unwrapped = b.unwrapped

namespace Tracker

def unwrapped (tracker : Tracker) : Tracker :=
  { tracker with services := tracker.services.unwrapped }

end Tracker

def Step.unwrapped (step : Step) : Step := { step with tracker := step.tracker.unwrapped }

namespace Tracker

variable (tracker : Tracker)

theorem snapshot_unwrapped : tracker.unwrapped.snapshot = tracker.snapshot := by
  unfold snapshot
  change Snapshot.mk _ tracker.services.unwrapped.services _ _ _ = _
  rw [ServiceRoster.services_unwrapped]
  rfl

/-- The outcome of a step, with what it leaves behind unwrapped. -/
def unwrappedOutcome (outcome : Tracker × List Action) : Tracker × List Action :=
  (outcome.1.unwrapped, outcome.2)

theorem setManagerProperty_of_unwrapped (key : String) (value : Value) :
    tracker.unwrapped.setManagerProperty key value.unwrapped =
      unwrappedOutcome (tracker.setManagerProperty key value) := by
  rw [setManagerProperty_unwrapped]
  unfold setManagerProperty
  split
  · unfold setServices
    cases value.paths? with
    | none => rfl
    | some paths =>
      dsimp only
      rw [show tracker.unwrapped.services = tracker.services.unwrapped from rfl,
        ServiceRoster.reconcile_unwrapped]
      dsimp only
      split <;> rfl
  · rw [show tracker.unwrapped.manager = tracker.manager from rfl]
    split <;> rfl

theorem setManagerProperties_of_unwrapped (properties : List (String × Value)) :
    tracker.unwrapped.setManagerProperties (Properties.unwrappedPairs properties) =
      unwrappedOutcome (tracker.setManagerProperties properties) := by
  unfold setManagerProperties Properties.unwrappedPairs
  rw [List.foldl_map]
  change List.foldl _ (unwrappedOutcome (tracker, [])) _ = _
  apply List.foldl_hom unwrappedOutcome
  intro outcome property
  dsimp only [unwrappedOutcome]
  rw [setManagerProperty_of_unwrapped]
  rfl

theorem followModem_of_unwrapped (outcome : ModemRoster × ModemChange) :
    tracker.unwrapped.followModem outcome = unwrappedOutcome (tracker.followModem outcome) := by
  obtain ⟨modems, change⟩ := outcome
  cases change <;> rfl

theorem addModem_of_unwrapped (path : ObjectPath) (properties : Properties) :
    tracker.unwrapped.addModem path properties.unwrapped =
      unwrappedOutcome (tracker.addModem path properties) := by
  unfold addModem
  rw [ModemRoster.add_unwrapped, followModem_of_unwrapped]
  rfl

theorem addModems_of_unwrapped (modems : List (ObjectPath × Properties)) :
    tracker.unwrapped.addModems (modems.map fun modem ↦ (modem.1, modem.2.unwrapped)) =
      unwrappedOutcome (tracker.addModems modems) := by
  unfold addModems
  rw [List.foldl_map]
  change List.foldl _ (unwrappedOutcome (tracker, [])) _ = _
  apply List.foldl_hom unwrappedOutcome
  intro outcome modem
  dsimp only [unwrappedOutcome]
  rw [addModem_of_unwrapped]
  rfl

theorem withServices?_of_unwrapped (services : Option ServiceRoster) :
    tracker.unwrapped.withServices? (services.map ServiceRoster.unwrapped) =
      (tracker.withServices? services).unwrapped := by
  cases services <;> rfl

theorem withModems?_of_unwrapped (modems : Option ModemRoster) :
    tracker.unwrapped.withModems? modems = (tracker.withModems? modems).unwrapped := by
  cases modems <;> rfl

/-- The tracker takes an event as it takes what the event says, in however many layers. -/
theorem handle_unwrapped (event : Event) :
    tracker.unwrapped.handle event.unwrapped = (tracker.handle event).unwrapped := by
  cases event with
  | managerReported properties =>
    let available : ManagerState := { tracker.manager with available := true }
    exact congrArg stepOf
      (setManagerProperties_of_unwrapped { tracker with manager := available }.touched _)
  | managerChanged key value =>
    exact congrArg stepOf (tracker.setManagerProperty_of_unwrapped key value)
  | serviceFetched ticket properties =>
    unfold handle Event.unwrapped
    dsimp only
    rw [← withServices?_of_unwrapped, ← ServiceRoster.completeFetch?_unwrapped]
    rfl
  | serviceChanged path key value =>
    unfold handle Event.unwrapped changeService
    dsimp only
    rw [show tracker.unwrapped.services = tracker.services.unwrapped from rfl,
      ServiceRoster.change_unwrapped]
    cases tracker.services.change path key value with
    | mk services change => cases change <;> rfl
  | modemsListed modems => exact congrArg stepOf (tracker.addModems_of_unwrapped modems)
  | modemAdded path properties =>
    exact congrArg stepOf (tracker.addModem_of_unwrapped path properties)
  | modemRefreshed path properties =>
    unfold handle Event.unwrapped
    dsimp only
    rw [ModemRoster.refresh_unwrapped]
    exact congrArg stepOf (tracker.followModem_of_unwrapped _)
  | modemRemoved path =>
    unfold handle Event.unwrapped
    dsimp only
    rw [show tracker.unwrapped.modems = tracker.modems from rfl]
    cases tracker.modems.remove? path <;> rfl
  | modemChanged path key value =>
    unfold handle Event.unwrapped
    dsimp only
    rw [ModemRoster.change_unwrapped]
    exact congrArg stepOf (tracker.followModem_of_unwrapped _)
  | simFetched ticket properties =>
    unfold handle Event.unwrapped
    dsimp only
    rw [ModemRoster.completeFetch?_unwrapped]
    exact tracker.withModems?_of_unwrapped _
  | simChanged path key value =>
    unfold handle Event.unwrapped
    dsimp only
    rw [ModemRoster.changeSim?_unwrapped]
    exact tracker.withModems?_of_unwrapped _
  | passphraseSubmitted path passphrase =>
    unfold handle Event.unwrapped
    dsimp only
    rw [← withServices?_of_unwrapped, ← ServiceRoster.echoPassphrase?_unwrapped]
    rfl
  | serviceForgotten path =>
    unfold handle Event.unwrapped
    dsimp only
    rw [← withServices?_of_unwrapped, ← ServiceRoster.forgetPassphrase?_unwrapped]
    rfl
  | commanded number command =>
    change tracker.unwrapped.command number command = (tracker.command number command).unwrapped
    rw [command_eq, command_eq, show tracker.unwrapped.modems = tracker.modems from rfl]
    split <;> rfl
  | callFinished call outcome => rfl
  | shutdown => rfl

theorem run_unwrapped (events : List Event) :
    run (events.map Event.unwrapped) = (run events).unwrapped := by
  unfold run
  rw [List.foldl_map]
  change List.foldl _ (unwrapped {}) _ = _
  apply List.foldl_hom unwrapped
  intro tracker event
  rw [handle_unwrapped]
  rfl

/-- Nothing that is published, asked for or answered tells in how many layers the daemons put what
they reported. -/
theorem run_sameContent {events events' : List Event}
    (h : events.Forall₂ Event.SameContent events') :
    (run events).snapshot = (run events').snapshot ∧
      ∀ event event', event.SameContent event' →
        ((run events).handle event).actions = ((run events').handle event').actions ∧
        ((run events).handle event).replies = ((run events').handle event').replies := by
  have hevents : events.map Event.unwrapped = events'.map Event.unwrapped := by
    induction h with
    | nil => rfl
    | cons hfirst _ ih => rw [List.map_cons, List.map_cons, hfirst, ih]
  have hrun : (run events).unwrapped = (run events').unwrapped := by
    rw [← run_unwrapped, hevents, run_unwrapped]
  constructor
  · rw [← snapshot_unwrapped, hrun, snapshot_unwrapped]
  · intro event event' hevent
    have hstep :
        ((run events).handle event).unwrapped = ((run events').handle event').unwrapped := by
      rw [← handle_unwrapped, hrun, hevent, handle_unwrapped]
    have hactions := congrArg Step.actions hstep
    have hreplies := congrArg Step.replies hstep
    exact ⟨hactions, hreplies⟩

end Tracker

end Uplink
