import Uplink.Proofs.Service.Transition
import Uplink.Proofs.Tracker.Continuation
/-!
# A passphrase that was given or dropped

A command leaves the service with the passphrase that it gives, or with none. While the daemon says
nothing newer of the passphrase, one thing can still replace it: a change of the passphrase that was
kept for a reply under way before the command, and is applied again on top of the reply after it.
-/

namespace Uplink

open Wire (Value Properties)

namespace ServiceRoster

/-- The latest change of a property that is kept for the reply under way. -/
def Entry.kept? (entry : Entry) (key : String) : Option Value :=
  lastValue? (entry.replay.getD []) key

/-- The passphrase of a service, if the service is tracked. -/
def passphrase? (roster : ServiceRoster) (path : ObjectPath) : Option (Option String) :=
  (roster.get? path).map (·.service.passphrase)

/-- The change of its passphrase that is kept for the reply under way. -/
def keptPassphrase? (roster : ServiceRoster) (path : ObjectPath) : Option Value :=
  (roster.get? path).bind (·.kept? "Passphrase")

theorem mem_paths_of_passphrase? {roster : ServiceRoster} {path : ObjectPath}
    {given : Option String} (h : roster.passphrase? path = some given) : path ∈ roster.paths := by
  obtain ⟨entry, hentry, -⟩ := Option.map_eq_some_iff.1 h
  exact mem_paths_of_get? hentry

namespace Entry

variable {entry : Entry} {key name : String} {properties : Properties}

theorem kept?_record_of_ne (hkey : key ≠ name) (value : Value) :
    ((entry.record key value).setProperty key value).kept? name = entry.kept? name := by
  change lastValue? ((entry.replay.map _).getD []) name = lastValue? (entry.replay.getD []) name
  cases entry.replay with
  | none => rfl
  | some changes =>
    rw [Option.map_some, Option.getD_some, Option.getD_some, lastValue?_record,
      lastValue?_append, lastValue?, if_neg hkey]
    rfl

theorem passphrase_noted_of_ne (hkey : key ≠ "Passphrase") (value : Value) :
    ((entry.record key value).setProperty key value).service.passphrase =
      entry.service.passphrase := by
  change (entry.service.setProperty key value).passphrase = entry.service.passphrase
  rw [Service.setProperty_eq_amended]
  change (if key = "Passphrase" then some value else none).elim _ _ = _
  rw [if_neg hkey, Option.elim_none]

theorem getD_false_of_ne {asked : Option Bool} (h : asked ≠ some true) :
    asked.getD false = false := by
  cases asked with
  | none => rfl
  | some asked => simpa using h

/-- Asking for a fetch leaves the passphrase alone, unless the service wants a new one. -/
theorem passphrase_invalidated (hkey : needsRefetch key = true) {value : Value}
    (hrequired : key = "PassphraseRequired" → value.bool? ≠ some true) (generation : Nat) :
    (entry.invalidated generation key value).service.passphrase = entry.service.passphrase := by
  have hne : key ≠ "Passphrase" := by
    rintro rfl
    cases hkey
  have hsame := entry.passphrase_noted_of_ne hne value
  unfold invalidated
  dsimp only
  split
  next hasked =>
    obtain ⟨rfl, htrue⟩ := hasked
    change value.bool?.getD false = true at htrue
    rw [getD_false_of_ne (hrequired rfl)] at htrue
    cases htrue
  next => exact hsame

/-- A reply that has no passphrase and asks for none leaves the one that was there, below the change
of it that was kept. -/
theorem passphrase_answered
    (hpassphrase : (properties.get? "Passphrase").bind Value.nonemptyText? = none)
    (hrequired : (properties.get? "PassphraseRequired").bind Value.bool? ≠ some true) :
    (entry.answered properties).service.passphrase =
      (entry.kept? "Passphrase").elim entry.service.passphrase Value.nonemptyText? := by
  let reported := (Service.provisional entry.path entry.service.index).amended properties.get?
  have hreported : reported.passphrase = none := by
    rw [← hpassphrase]
    change (properties.get? "Passphrase").elim none Value.nonemptyText? = _
    cases properties.get? "Passphrase" <;> rfl
  have hunasked : reported.passphraseRequired = false := by
    rw [← getD_false_of_ne hrequired]
    change (properties.get? "PassphraseRequired").elim false (·.bool?.getD false) = _
    cases properties.get? "PassphraseRequired" <;> rfl
  have hfound : lastValue? properties.entries = properties.get? :=
    funext properties.lastValue?_entries
  have hkeeps : (reported.passphrase.isNone && !reported.passphraseRequired) = true := by
    rw [hreported, hunasked]
    rfl
  change (entry.fetched properties).passphrase = _
  unfold fetched
  simp only [Service.setProperties_eq_amended, hfound]
  rw [if_pos hkeeps]
  rfl

end Entry

end ServiceRoster

namespace Tracker

variable {tracker : Tracker} {event : Event} {path : ObjectPath} {given : Option String}

open ServiceRoster (Entry)

/-- Whether the service is tracked still, and neither a command nor the daemon says anything of its
passphrase: there is no change of it and no call for one, and no reply that is taken has one or
calls for one. -/
structure QuietOnPassphrase (path : ObjectPath) (tracker : Tracker) (event : Event) : Prop where
  tracked : path ∈ (tracker.handle event).tracker.services.paths
  uncommanded : ∀ passphrase, ¬ event.LeavesPassphrase path passphrase
  unchanged : ∀ value, event ≠ .serviceChanged path "Passphrase" value
  unrequired : ∀ value, event = .serviceChanged path "PassphraseRequired" value →
    value.bool? ≠ some true
  unreported : ∀ properties, tracker.services.TakesReply path properties event →
    (properties.get? "Passphrase").bind Value.nonemptyText? = none ∧
      (properties.get? "PassphraseRequired").bind Value.bool? ≠ some true

/-- Whether a reply is taken on top of which another passphrase is kept. -/
def RevivesPassphrase (path : ObjectPath) (given : Option String) (tracker : Tracker)
    (event : Event) : Prop :=
  ∃ properties value, tracker.services.TakesReply path properties event ∧
    tracker.services.keptPassphrase? path = some value ∧ value.nonemptyText? ≠ given

theorem not_revivesPassphrase
    (h : ∀ properties, ¬ tracker.services.TakesReply path properties event) :
    ¬ RevivesPassphrase path given tracker event := by
  rintro ⟨properties, -, htaken, -⟩
  exact h properties htaken

theorem not_revivesPassphrase_of_none (h : tracker.services.keptPassphrase? path = none) :
    ¬ RevivesPassphrase path given tracker event := by
  rintro ⟨-, value, -, hkept, -⟩
  cases h.symm.trans hkept

theorem revivesPassphrase_iff {properties : Properties}
    (htaken : tracker.services.TakesReply path properties event) :
    RevivesPassphrase path given tracker event ↔
      ∃ value, tracker.services.keptPassphrase? path = some value ∧
        value.nonemptyText? ≠ given := by
  constructor
  · rintro ⟨-, value, -, hkept⟩
    exact ⟨value, hkept⟩
  · rintro ⟨value, hkept⟩
    exact ⟨properties, value, htaken, hkept⟩

/-- What a quiet event makes of the passphrase of a service and of the change that is kept. -/
theorem passphrase_handle (hquiet : QuietOnPassphrase path tracker event)
    (hgiven : tracker.services.passphrase? path = some given) :
    ((tracker.handle event).tracker.services.passphrase? path = some given ↔
      ¬ RevivesPassphrase path given tracker event) ∧
    ∀ value, (tracker.handle event).tracker.services.keptPassphrase? path = some value →
      tracker.services.keptPassphrase? path = some value := by
  obtain ⟨before, hbefore, rfl⟩ := Option.map_eq_some_iff.1 hgiven
  obtain ⟨after, hafter⟩ := ServiceRoster.exists_get?_of_mem_paths hquiet.tracked
  unfold ServiceRoster.passphrase? ServiceRoster.keptPassphrase?
  rw [hafter, hbefore, Option.map_some, Option.some.injEq, Option.bind_some, Option.bind_some]
  cases becomes_handle hbefore hafter with
  | answered htaken =>
    -- The reply itself says nothing, so that only the change kept on top of it counts.
    obtain ⟨hpassphrase, hrequired⟩ := hquiet.unreported _ htaken
    rw [Entry.passphrase_answered hpassphrase hrequired]
    refine ⟨?_, nofun⟩
    rw [revivesPassphrase_iff htaken, ServiceRoster.keptPassphrase?, hbefore, Option.bind_some]
    cases before.kept? "Passphrase" <;> simp
  | doubted hkey =>
    refine ⟨iff_of_true (Entry.passphrase_invalidated hkey ?_ _) ?_, nofun⟩
    · rintro rfl
      exact hquiet.unrequired _ rfl
    · exact not_revivesPassphrase ServiceRoster.not_takesReply_serviceChanged
  | @changed key value hkey =>
    have hne : key ≠ "Passphrase" := by
      rintro rfl
      exact hquiet.unchanged value rfl
    rw [Entry.kept?_record_of_ne hne, Entry.passphrase_noted_of_ne hne]
    refine ⟨iff_of_true rfl ?_, fun _ h ↦ h⟩
    exact not_revivesPassphrase ServiceRoster.not_takesReply_serviceChanged
  | commanded hcommand => exact absurd hcommand (hquiet.uncommanded _)
  | kept hreply =>
    exact ⟨iff_of_true rfl (not_revivesPassphrase hreply), fun _ h ↦ h⟩

/-- A command leaves the service with the passphrase that it gives, and keeps what is kept. -/
theorem passphrase_command (hcommand : event.LeavesPassphrase path given)
    (htracked : path ∈ tracker.services.paths) :
    (tracker.handle event).tracker.services.passphrase? path = some given ∧
      (tracker.handle event).tracker.services.keptPassphrase? path =
        tracker.services.keptPassphrase? path := by
  obtain ⟨before, hbefore⟩ := ServiceRoster.exists_get?_of_mem_paths htracked
  have hpaths : (tracker.handle event).tracker.services.paths = tracker.services.paths := by
    rw [services_handle]
    apply ServiceRoster.paths_follow_of_not_listed
    cases hcommand <;> rfl
  rw [← hpaths] at htracked
  obtain ⟨after, hafter⟩ := ServiceRoster.exists_get?_of_mem_paths htracked
  unfold ServiceRoster.passphrase? ServiceRoster.keptPassphrase?
  rw [hbefore, hafter]
  cases becomes_handle hbefore hafter with
  | answered htaken =>
    obtain ⟨_, rfl, -⟩ := htaken
    cases hcommand
  | doubted => cases hcommand
  | changed => cases hcommand
  | commanded hsame =>
    cases hcommand <;> cases hsame <;> exact ⟨rfl, rfl⟩
  | kept _ _ hnone => exact absurd hcommand (hnone given)

/-- While nothing newer is said of the passphrase, the service has the one that the command left it
with exactly until a reply is taken on top of which another one is kept; and whatever is kept was
kept before the command. -/
theorem passphrase_stays_iff {command : Event} {since : List Event} (h : tracker.Reachable)
    (hcommand : command.LeavesPassphrase path given) (htracked : path ∈ tracker.services.paths)
    (hquiet : (tracker.handle command).tracker.Along (QuietOnPassphrase path) since) :
    ((tracker.handle command).tracker.Throughout
        (fun later ↦ later.services.passphrase? path = some given) since ↔
      (tracker.handle command).tracker.Along
        (fun later event ↦ ¬ RevivesPassphrase path given later event) since) ∧
    (tracker.handle command).tracker.Throughout
      (fun later ↦ ∀ value, later.services.keptPassphrase? path = some value →
        tracker.services.keptPassphrase? path = some value) since := by
  obtain ⟨hnow, hkept⟩ := passphrase_command hcommand htracked
  have hrest : path ∈ (tracker.handle command).tracker.services.paths :=
    ServiceRoster.mem_paths_of_passphrase? hnow
  constructor
  · apply throughout_iff_along _ (.handled command h) hnow hquiet
    intro later event _ hgiven hquiet
    exact (passphrase_handle hquiet hgiven).1
  -- A quiet event keeps no change of the passphrase, so what is kept can only be older.
  · have hthroughout := throughout_of_step
      (Q := fun later ↦ path ∈ later.services.paths ∧
        ∀ value, later.services.keptPassphrase? path = some value →
          tracker.services.keptPassphrase? path = some value)
      ?_ ⟨hrest, fun value hvalue ↦ hkept.symm.trans hvalue⟩ hquiet
    · exact fun start hstart ↦ (hthroughout start hstart).2
    · intro later event ⟨htracked, hbefore⟩ hquiet
      obtain ⟨entry, hentry⟩ := ServiceRoster.exists_get?_of_mem_paths htracked
      have hgiven : later.services.passphrase? path = some entry.service.passphrase :=
        Option.map_eq_some_iff.2 ⟨entry, hentry, rfl⟩
      have hstep := (passphrase_handle hquiet hgiven).2
      exact ⟨hquiet.tracked, fun value hvalue ↦ hbefore value (hstep value hvalue)⟩

/-! ## A service that is set up anew -/

theorem QuietOnPassphrase.of_serviceChanged {changed : ObjectPath} {key : String} {value : Value}
    (htracked : path ∈ tracker.services.paths) (hkey : key ≠ "Passphrase")
    (hrequired : key ≠ "PassphraseRequired") :
    QuietOnPassphrase path tracker (.serviceChanged changed key value) where
  tracked := by
    rw [services_handle]
    exact (ServiceRoster.paths_change ..).symm ▸ htracked
  uncommanded := by rintro passphrase ⟨⟩
  unchanged := by
    rintro value ⟨⟩
    exact hkey rfl
  unrequired := by
    rintro value ⟨⟩
    exact absurd rfl hrequired
  unreported := fun properties htaken ↦
    absurd htaken (ServiceRoster.not_takesReply_serviceChanged properties)

theorem QuietOnPassphrase.of_serviceFetched {ticket : Ticket} {properties : Properties}
    (htracked : path ∈ tracker.services.paths)
    (hpassphrase : (properties.get? "Passphrase").bind Value.nonemptyText? = none)
    (hrequired : (properties.get? "PassphraseRequired").bind Value.bool? ≠ some true) :
    QuietOnPassphrase path tracker (.serviceFetched ticket properties) where
  tracked := by
    rw [services_handle]
    exact (ServiceRoster.paths_completeFetch? ..).symm ▸ htracked
  uncommanded := by rintro passphrase ⟨⟩
  unchanged := by nofun
  unrequired := by nofun
  unreported := by
    rintro _ ⟨_, ⟨⟩, -⟩
    exact ⟨hpassphrase, hrequired⟩

/-- The path of a service. -/
def cafe : ObjectPath := ⟨"/cafe", by decide⟩

/-- A service is set up anew, and while it is fetched again its passphrase changes. -/
def cafeChanged : Tracker :=
  run [.managerChanged "Services" (.ofTexts ["/cafe"]), .serviceFetched ⟨cafe, 1⟩ (.ofPairs []),
    .serviceChanged cafe "SetupRequired" (.bool false),
    .serviceChanged cafe "Passphrase" (.text "old secret")]

/-- A passphrase is entered, the service is set up anew once more, and both replies come in: the one
that the old change was kept for is not taken. -/
theorem passphrase_stays_refetched :
    let entered := (cafeChanged.handle (.passphraseSubmitted cafe "new secret")).tracker
    let since : List Event := [.serviceChanged cafe "SetupRequired" (.bool false),
      .serviceFetched ⟨cafe, 2⟩ (.ofPairs []),
      .serviceFetched ⟨cafe, 3⟩ (.ofPairs [("Strength", .byte 60)])]
    cafeChanged.Reachable ∧ cafe ∈ cafeChanged.services.paths ∧
      entered.Along (QuietOnPassphrase cafe) since ∧
      entered.Throughout
        (fun later ↦ later.services.passphrase? cafe = some (some "new secret")) since := by
  intro entered since
  have htracked : cafe ∈ cafeChanged.services.paths := by decide +kernel
  have hentered : cafe ∈ entered.services.paths := by decide +kernel
  let doubted := entered.handle (.serviceChanged cafe "SetupRequired" (.bool false))
  let passed := doubted.tracker.handle (.serviceFetched ⟨cafe, 2⟩ (.ofPairs []))
  have hdoubted : QuietOnPassphrase cafe entered
      (.serviceChanged cafe "SetupRequired" (.bool false)) :=
    .of_serviceChanged hentered (by decide) (by decide)
  have hpassed : QuietOnPassphrase cafe doubted.tracker
      (.serviceFetched ⟨cafe, 2⟩ (.ofPairs [])) :=
    .of_serviceFetched hdoubted.tracked (by decide +kernel) (by decide +kernel)
  have hanswered : QuietOnPassphrase cafe passed.tracker
      (.serviceFetched ⟨cafe, 3⟩ (.ofPairs [("Strength", .byte 60)])) :=
    .of_serviceFetched hpassed.tracked (by decide +kernel) (by decide +kernel)
  have hquiet : entered.Along (QuietOnPassphrase cafe) since :=
    ⟨hdoubted, hpassed, hanswered, trivial⟩
  -- The second fetch began with nothing kept, and nothing was reported since.
  have hempty : doubted.tracker.services.keptPassphrase? cafe = none ∧
      passed.tracker.services.keptPassphrase? cafe = none := by decide +kernel
  have hunrevived : entered.Along
      (fun later event ↦ ¬ RevivesPassphrase cafe (some "new secret") later event) since :=
    ⟨not_revivesPassphrase ServiceRoster.not_takesReply_serviceChanged,
      not_revivesPassphrase_of_none hempty.1, not_revivesPassphrase_of_none hempty.2, trivial⟩
  have hstays := passphrase_stays_iff (reachable_run _) (.submitted "new secret") htracked hquiet
  exact ⟨reachable_run _, htracked, hquiet, hstays.1.2 hunrevived⟩

/-- The daemon reports a passphrase while the service is fetched again, then a new one is entered,
or it is forgotten; the reply has none, and the old one is back. -/
theorem passphrase_revived :
    let entered := (cafeChanged.handle (.passphraseSubmitted cafe "new secret")).tracker
    let forgotten := (cafeChanged.handle (.serviceForgotten cafe)).tracker
    let since : List Event := [.serviceFetched ⟨cafe, 2⟩ (.ofPairs [])]
    cafeChanged.Reachable ∧ cafe ∈ cafeChanged.services.paths ∧
      entered.Along (QuietOnPassphrase cafe) since ∧
      (entered.after since).services.passphrase? cafe = some (some "old secret") ∧
      forgotten.Along (QuietOnPassphrase cafe) since ∧
      (forgotten.after since).services.passphrase? cafe = some (some "old secret") := by
  intro entered forgotten since
  have hentered : cafe ∈ entered.services.paths := by decide +kernel
  have hforgotten : cafe ∈ forgotten.services.paths := by decide +kernel
  have hquiet {tracker : Tracker} (htracked : cafe ∈ tracker.services.paths) :
      tracker.Along (QuietOnPassphrase cafe) since :=
    ⟨.of_serviceFetched htracked (by decide +kernel) (by decide +kernel), trivial⟩
  refine ⟨reachable_run _, by decide +kernel, hquiet hentered, ?_, hquiet hforgotten, ?_⟩
  · decide +kernel
  · decide +kernel

end Tracker

end Uplink
