import Uplink.Proofs.Modem.Completion
import Uplink.Proofs.Modem.Agreement
import Uplink.Proofs.Modem.Totals
import Uplink.Proofs.Sim.Overtaking
import Uplink.Proofs.Tracker.Continuation
/-!
# A SIM that was unlocked

When a credential is accepted, its lock waits for nothing any more, but what the daemon asked for is
still on record until the daemon says otherwise. Reports about the modem, commands and the ends of
calls leave the lock clear, and so do reports of the SIM that say nothing of what it asks for, with
one exception: a report of the attempts left brings back what is still on record.
-/

namespace Uplink

open Wire (Value Properties)

/-- A property of modems that holds of a new one and that no report about the modem ends, be it one
after which its SIM manager comes or goes. -/
structure Modem.Durable (P : Modem → Prop) : Prop where
  announce (path : ObjectPath) : P { path }
  describe {modem described : Modem} (h : P modem) (hsame : modem.SameSim described) : P described
  attach {modem : Modem} (h : P modem) : P { modem with hasSimManager := true }
  detach {modem : Modem} (h : P modem) : P modem.withoutSim

namespace ModemRoster

variable {P : Modem → Prop} {roster roster' : ModemRoster} {entry : Entry}

/-! ## Reports about modems -/

theorem All.setSimManager (hdurable : Modem.Durable P) (h : roster.All P) (hentry : P entry.modem)
    (attached : Bool) : (roster.setSimManager entry attached).1.All P := by
  cases hmanager : entry.modem.hasSimManager <;> cases attached
  case false.true =>
    rw [setSimManager_attach hmanager]
    exact All.put h (hdurable.attach hentry)
  case true.false =>
    rw [setSimManager_detach hmanager]
    refine All.putCounted h entry.detach ?_
    rw [modem_clearSim_detach]
    exact hdurable.detach hentry
  all_goals
    rw [setSimManager_same hmanager]
    exact All.put h hentry

theorem Keyed.all_change (hkeyed : roster.Keyed) (hdurable : Modem.Durable P) (h : roster.All P)
    (path : ObjectPath) (key : String) (value : Value) :
    (roster.change path key value).1.All P := by
  unfold change
  cases hfind : roster.entries.get? path with
  | none => exact h
  | some entry =>
    have hentry : P entry.modem := h path.text entry hfind
    rcases setProperty_cases (hkeyed.holds hfind) key value with
      ⟨-, modem, attached, hsame, hset⟩ | ⟨-, modem, hsame, hset⟩
    · dsimp only
      rw [hset]
      exact h.setSimManager hdurable (hdurable.describe hentry hsame) attached
    · dsimp only
      rw [hset]
      exact h.put (hdurable.describe hentry hsame)

theorem Keyed.all_merge (hkeyed : roster.Keyed) (hdurable : Modem.Durable P) (h : roster.All P)
    (path : ObjectPath) (properties : Properties) : (roster.merge path properties).1.All P := by
  apply hkeyed.induction_merge (P := fun later ↦ later.All P)
  · exact h
  · intro later key value hlater hall
    exact hlater.all_change hdurable hall path key value

theorem Keyed.all_add (hkeyed : roster.Keyed) (hdurable : Modem.Durable P) (h : roster.All P)
    (path : ObjectPath) (properties : Properties) : (roster.add path properties).1.All P := by
  unfold add
  dsimp only
  split
  · exact hkeyed.all_merge hdurable h path properties
  · exact (hkeyed.put _).all_merge hdurable (h.put (hdurable.announce path)) path properties

theorem Keyed.all_foldl_add (hkeyed : roster.Keyed) (hdurable : Modem.Durable P)
    (h : roster.All P) (modems : List (ObjectPath × Properties)) :
    (modems.foldl (fun roster modem ↦ (roster.add modem.1 modem.2).1) roster).All P := by
  induction modems generalizing roster with
  | nil => exact h
  | cons modem rest ih =>
    exact ih (hkeyed.keyed_add modem.1 modem.2) (hkeyed.all_add hdurable h modem.1 modem.2)

theorem Keyed.all_refresh (hkeyed : roster.Keyed) (hdurable : Modem.Durable P) (h : roster.All P)
    (path : ObjectPath) (properties : Properties) : (roster.refresh path properties).1.All P := by
  unfold refresh
  split
  · exact hkeyed.all_add hdurable h path properties
  · exact h

theorem All.remove? (h : roster.All P) {path : ObjectPath}
    (hremove : roster.remove? path = some roster') : roster'.All P := by
  obtain ⟨entry, -, rfl⟩ := Option.map_eq_some_iff.1 hremove
  exact h.erase _ _

/-- An event about modems that says nothing of their SIMs. -/
theorem Keyed.all_follow_of_modems (hkeyed : roster.Keyed) (hdurable : Modem.Durable P)
    (h : roster.All P) {event : Event} (hsubject : event.subject = .modems)
    (hfetched : ∀ ticket properties, event ≠ .simFetched ticket properties)
    (hchanged : ∀ path key value, event ≠ .simChanged path key value) :
    (roster.follow event).All P := by
  cases event with
  | modemsListed modems => exact hkeyed.all_foldl_add hdurable h modems
  | modemAdded path properties => exact hkeyed.all_add hdurable h path properties
  | modemRefreshed path properties => exact hkeyed.all_refresh hdurable h path properties
  | modemRemoved path =>
    change ((roster.remove? path).getD roster).All P
    cases hremove : roster.remove? path with
    | none => exact h
    | some roster' => exact h.remove? hremove
  | modemChanged path key value => exact hkeyed.all_change hdurable h path key value
  | simFetched ticket properties => exact absurd rfl (hfetched ticket properties)
  | simChanged path key value => exact absurd rfl (hchanged path key value)
  | _ => cases hsubject

/-! ## Locks that wait for nothing -/

/-- Whether the lock of the SIM in the modem at this path waits for nothing. -/
def ClearAt (roster : ModemRoster) (path : String) : Prop :=
  ∀ modem, roster.find? path = some modem → modem.lock.state = .clear

end ModemRoster

/-- Whether the lock of the modem waits for nothing, if it is the modem at this path. -/
def Modem.ClearIfAt (path : String) (modem : Modem) : Prop :=
  modem.path.text = path → modem.lock.state = .clear

theorem Modem.durable_clearIfAt (path : String) : Modem.Durable (Modem.ClearIfAt path) where
  announce path _ := rfl
  describe h hsame hpath := by
    rw [← hsame.lock]
    exact h ((congrArg ObjectPath.text hsame.path).trans hpath)
  attach h := h
  detach _ _ := rfl

namespace SimLock

variable {lock : SimLock}

theorem state_complete_of_clear (h : lock.state = .clear) (request : SimRequest)
    (outcome : Outcome) : (lock.complete request outcome).state = .clear := by
  by_cases hclears : request.ClearsOther outcome lock.state
  · exact state_complete_of_clearsOther hclears
  · rw [← h]
    apply state_complete_of_not_meantFor _ hclears
    rw [h]
    cases request <;> exact nofun

/-- A request that is accepted in the state that it is meant for clears the lock. -/
theorem state_complete_of_meantFor {request : SimRequest} (h : request.MeantFor lock.state) :
    (lock.complete request (.ok ())).state = .clear := by
  cases request with
  | enter kind pin =>
    have hstate : lock.state = .pinRequired kind := h
    simp [complete, succeed, hstate]
  | reset pukKind puk newPin => rfl
  | change kind oldPin newPin => exact h.elim

/-- The daemon's data clear the lock exactly if nothing is asked for. -/
theorem state_sync_eq_clear_iff {required : Option CredentialKind} {retries : Retries} :
    (lock.sync required retries).state = .clear ↔ required = none := by
  cases required with
  | none => exact iff_of_true rfl rfl
  | some kind =>
    refine iff_of_false ?_ nofun
    change stateFor lock.state (some kind) retries ≠ .clear
    unfold stateFor
    dsimp only
    split
    · split
      · nofun
      · split <;> nofun
    · nofun

end SimLock

namespace ModemRoster

variable {roster roster' : ModemRoster} {entry : Entry} {path : String}

theorem Keyed.clearAt_iff_all (hkeyed : roster.Keyed) :
    roster.ClearAt path ↔ roster.All (Modem.ClearIfAt path) := by
  constructor
  · intro h text entry hfind hpath
    rw [hkeyed text entry hfind] at hpath
    exact h entry.modem (find?_of_entry (hpath ▸ hfind))
  · intro h modem hfind
    obtain ⟨entry, hentry, rfl⟩ := find?_eq_some_iff.1 hfind
    exact h path entry hentry (hkeyed path entry hentry)

theorem clearAt_putCounted (hpath : entry.modem.path.text = path) {counted : Counted} :
    (roster.putCounted entry counted).ClearAt path ↔ counted.modem.lock.state = .clear := by
  have hfind : (roster.putCounted entry counted).find? path = some counted.modem := by
    unfold find?
    rw [find?_putCounted, if_pos hpath]
    rfl
  unfold ClearAt
  rw [hfind]
  simp

theorem clearAt_putCounted_of_ne (hpath : entry.modem.path.text ≠ path) {counted : Counted} :
    (roster.putCounted entry counted).ClearAt path ↔ roster.ClearAt path := by
  have hfind : (roster.putCounted entry counted).find? path = roster.find? path := by
    unfold find?
    rw [find?_putCounted, if_neg hpath]
  unfold ClearAt
  rw [hfind]

/-- No PUK is taken where none is waited for. -/
theorem Keyed.clearAt_command (hkeyed : roster.Keyed) (h : roster.ClearAt path)
    (command : SimCommand) : (roster.command command).ClearAt path := by
  rw [((hkeyed.course_command command).keyed hkeyed).clearAt_iff_all]
  rw [hkeyed.clearAt_iff_all] at h
  rcases hkeyed.command_cases command with
    hsame | ⟨entry, lock, hentry, -, ⟨kind, rfl⟩ | ⟨-, puk, hsubmit⟩, hset⟩
  · rw [hsame]
    exact h
  · rw [hset]
    exact h.put (h _ entry hentry)
  · obtain ⟨kind, hstate, -, rfl⟩ := SimLock.submitPuk_eq_ok_iff.1 hsubmit
    rw [hset]
    refine h.put fun hpath ↦ ?_
    have hclear : entry.modem.lock.state = .clear := h _ entry hentry hpath
    rw [hstate] at hclear
    cases hclear

theorem Keyed.clearAt_complete (hkeyed : roster.Keyed) (h : roster.ClearAt path) (modem : String)
    (request : SimRequest) (outcome : Outcome) :
    (roster.complete modem request outcome).ClearAt path := by
  intro after hfind
  rw [find?_complete hkeyed] at hfind
  split at hfind
  next hpath =>
    obtain ⟨before, hbefore, rfl⟩ := Option.map_eq_some_iff.1 hfind
    exact SimLock.state_complete_of_clear (h before (hpath ▸ hbefore)) request outcome
  next => exact h after hfind

/-- Of the properties of a SIM, other than what it asks for, only the attempts left bring back what
it asked for, and only if that is on record. -/
theorem Keyed.clearAt_changeSim? (hkeyed : roster.Keyed)
    (hbare : roster.All fun modem ↦ modem.hasSimManager = false → modem.ShowsNoSim)
    (h : roster.ClearAt path) {sim : ObjectPath} {key : String} {value : Value}
    (hkey : sim.text = path → key ≠ "PinRequired") :
    ((roster.changeSim? sim key value).getD roster).ClearAt path ↔
      ¬ (sim.text = path ∧ key = "Retries" ∧
        ∃ modem, roster.find? path = some modem ∧ modem.required ≠ none) := by
  cases hsim : roster.changeSim? sim key value with
  | none =>
    refine iff_of_true h ?_
    rintro ⟨rfl, rfl, modem, hfind, hrequired⟩
    obtain ⟨entry, hentry, rfl⟩ := find?_eq_some_iff.1 hfind
    have hattached : entry.modem.hasSimManager = true := by
      by_contra hmanager
      exact hrequired (hbare sim.text entry hentry (by simpa using hmanager)).2.1
    have hfound : roster.attached? sim = some entry :=
      attached?_eq_some_iff.2 ⟨hentry, hattached⟩
    have htaken : roster.changeSim? sim "Retries" value =
        some (roster.putCounted entry ((roster.counted entry).setRetries (.ofValue value))) :=
      changeSim?_eq_some_iff.2 ⟨entry, _, hfound, rfl, rfl⟩
    cases hsim.symm.trans htaken
  | some roster' =>
    obtain ⟨entry, counted, hentry, hchange, rfl⟩ := changeSim?_eq_some_iff.1 hsim
    obtain ⟨hfind, -⟩ := attached?_eq_some_iff.1 hentry
    have hsimpath : entry.modem.path.text = sim.text := hkeyed sim.text entry hfind
    rw [Option.getD_some]
    by_cases hpath : sim.text = path
    · rw [clearAt_putCounted (hsimpath.trans hpath)]
      have hmodem : roster.find? path = some entry.modem := find?_of_entry (hpath ▸ hfind)
      have hclear : entry.modem.lock.state = .clear := h entry.modem hmodem
      unfold Counted.setProperty? at hchange
      split at hchange
      · obtain rfl := Option.some.inj hchange
        exact iff_of_true hclear (fun hback ↦ absurd hback.2.1 (by decide))
      · exact absurd rfl (hkey hpath)
      · obtain rfl := Option.some.inj hchange
        refine SimLock.state_sync_eq_clear_iff.trans ?_
        rw [hmodem]
        simp [hpath, counted]
      · obtain rfl := Option.some.inj hchange
        exact iff_of_true hclear (fun hback ↦ absurd hback.2.1 (by decide))
      · cases hchange
    · rw [clearAt_putCounted_of_ne (fun hsame ↦ hpath (hsimpath.symm.trans hsame))]
      exact iff_of_true h (fun hback ↦ hpath hback.1)

end ModemRoster

namespace Tracker

variable {tracker : Tracker} {event : Event} {path : String}

/-- Whether the event is the success of a call for what the lock of the modem at this path waits
for. -/
def Unlocks (path : String) (tracker : Tracker) (event : Event) : Prop :=
  ∃ call modem, event = .callFinished call (.ok ()) ∧ call.modem = path ∧
    tracker.modems.find? path = some modem ∧ call.request.MeantFor modem.lock.state

/-- Whether the event says nothing of what the SIM in the modem at this path asks for: it is no
change of that, and no report of the SIM that is taken. -/
structure SilentOnPin (path : String) (tracker : Tracker) (event : Event) : Prop where
  unchanged : ∀ sim value, event = .simChanged sim "PinRequired" value → sim.text ≠ path
  unreported : ∀ ticket properties, event = .simFetched ticket properties →
    ticket.path.text = path → tracker.modems.completeFetch? ticket properties = none

/-- Whether the event reports the attempts left for the SIM in the modem at this path while what it
asked for is on record. -/
def RecallsPin (path : String) (tracker : Tracker) (event : Event) : Prop :=
  ∃ sim value modem, event = .simChanged sim "Retries" value ∧ sim.text = path ∧
    tracker.modems.find? path = some modem ∧ modem.required ≠ none

theorem Unlocks.clearAt (h : Unlocks path tracker event) (hkeyed : tracker.modems.Keyed) :
    (tracker.handle event).tracker.modems.ClearAt path := by
  obtain ⟨call, before, rfl, rfl, hbefore, hmeant⟩ := h
  intro after hafter
  change (tracker.modems.complete call.modem call.request (.ok ())).find? call.modem = _ at hafter
  rw [ModemRoster.find?_complete hkeyed, if_pos rfl, hbefore] at hafter
  rw [← Option.some.inj hafter]
  exact SimLock.state_complete_of_meantFor hmeant

/-- A lock that waits for nothing goes on so after an event that says nothing of what the SIM asks
for, exactly unless the event recalls what it asked for. -/
theorem clearAt_handle_iff (h : tracker.Reachable) (hclear : tracker.modems.ClearAt path)
    (hsilent : SilentOnPin path tracker event) :
    (tracker.handle event).tracker.modems.ClearAt path ↔ ¬ RecallsPin path tracker event := by
  have hkeyed := h.keyed
  have hdurable := Modem.durable_clearIfAt path
  have hnext := (Reachable.handled event h).keyed
  have hother (hne : ∀ sim key value, event ≠ .simChanged sim key value) :
      ¬ RecallsPin path tracker event := by
    rintro ⟨sim, value, -, hevent, -⟩
    exact hne sim "Retries" value hevent
  rw [modems_handle] at hnext ⊢
  -- Reports about modems come first, since one of them can be about every modem at once.
  by_cases hmodems : event.subject = .modems ∧
      (∀ ticket properties, event ≠ .simFetched ticket properties) ∧
      ∀ sim key value, event ≠ .simChanged sim key value
  · obtain ⟨hsubject, hfetched, hchanged⟩ := hmodems
    refine iff_of_true ?_ (hother hchanged)
    rw [hnext.clearAt_iff_all]
    rw [hkeyed.clearAt_iff_all] at hclear
    exact hkeyed.all_follow_of_modems hdurable hclear hsubject hfetched hchanged
  cases event with
  | simChanged sim key value =>
    have hkey (hpath : sim.text = path) : key ≠ "PinRequired" := by
      rintro rfl
      exact hsilent.unchanged sim value rfl hpath
    refine (hkeyed.clearAt_changeSim? (h.all Modem.stable_showsNoSim) hclear hkey).trans ?_
    apply not_congr
    constructor
    · rintro ⟨hpath, rfl, modem, hmodem⟩
      exact ⟨sim, value, modem, rfl, hpath, hmodem⟩
    · rintro ⟨_, _, modem, hevent, hpath, hmodem⟩
      cases hevent
      exact ⟨hpath, rfl, modem, hmodem⟩
  | simFetched ticket properties =>
    refine iff_of_true ?_ (hother nofun)
    change ((tracker.modems.completeFetch? ticket properties).getD tracker.modems).ClearAt path
    cases hfetch : tracker.modems.completeFetch? ticket properties with
    | none => exact hclear
    | some modems =>
      obtain ⟨entry, hentry, -, rfl⟩ := ModemRoster.completeFetch?_eq_some_iff.1 hfetch
      obtain ⟨hfind, -⟩ := ModemRoster.attached?_eq_some_iff.1 hentry
      apply (ModemRoster.clearAt_putCounted_of_ne _).2 hclear
      intro hpath
      rw [hkeyed ticket.path.text entry hfind] at hpath
      cases hfetch.symm.trans (hsilent.unreported ticket properties rfl hpath)
  | commanded number command =>
    exact iff_of_true (hkeyed.clearAt_command hclear command) (hother nofun)
  | callFinished call outcome =>
    exact iff_of_true (hkeyed.clearAt_complete hclear call.modem call.request outcome)
      (hother nofun)
  | modemsListed | modemAdded | modemRefreshed | modemRemoved | modemChanged =>
    exact absurd ⟨rfl, nofun, nofun⟩ hmodems
  | _ => exact iff_of_true hclear (hother nofun)

theorem SilentOnPin.of_ne (hchanged : ∀ sim value, event ≠ .simChanged sim "PinRequired" value)
    (hfetched : ∀ ticket properties, event ≠ .simFetched ticket properties) :
    SilentOnPin path tracker event where
  unchanged sim value hevent := absurd hevent (hchanged sim value)
  unreported ticket properties hevent := absurd hevent (hfetched ticket properties)

/-- A call that succeeds for what a lock waits for clears it, and leaves on record what the SIM
asked for. While nothing newer is said of that, the lock stays clear exactly until the attempts left
are reported with it on record. -/
theorem unlocked_stays_iff {unlocking : Event} {since : List Event} (h : tracker.Reachable)
    (hunlocks : Unlocks path tracker unlocking)
    (hsilent : (tracker.handle unlocking).tracker.Along (SilentOnPin path) since) :
    (∃ modem, (tracker.handle unlocking).tracker.modems.find? path = some modem ∧
      modem.lock.state = .clear ∧ modem.required ≠ none) ∧
    ((tracker.handle unlocking).tracker.Throughout
        (fun later ↦ later.modems.ClearAt path) since ↔
      (tracker.handle unlocking).tracker.Along
        (fun later event ↦ ¬ RecallsPin path later event) since) := by
  have hclear := hunlocks.clearAt h.keyed
  constructor
  · obtain ⟨call, before, rfl, rfl, hbefore, hmeant⟩ := hunlocks
    have hafter : (tracker.modems.complete call.modem call.request (.ok ())).find? call.modem =
        some { before with lock := before.lock.complete call.request (.ok ()) } := by
      rw [ModemRoster.find?_complete h.keyed, if_pos rfl, hbefore]
      rfl
    refine ⟨_, hafter, hclear _ hafter, fun hrequired ↦ ?_⟩
    have hstate := (h.find?_agrees hbefore).state
    change before.required = none at hrequired
    rw [hrequired] at hstate
    rw [hstate.eq_clear] at hmeant
    revert hmeant
    cases call.request <;> nofun
  · apply throughout_iff_along _ (.handled unlocking h) hclear hsilent
    exact fun later event hreachable hnow hquiet ↦ clearAt_handle_iff hreachable hnow hquiet

/-! ## A PIN that is accepted -/

/-- The PIN is typed in for a SIM that waits for it. -/
def pinEntered : Tracker := run (lockedSim ++ [.commanded 0 (.enter "/modem" "1234")])

def pinAccepted : Event := .callFinished ⟨0, "/modem", .enter .pin "1234"⟩ (.ok ())

theorem unlocks_pinAccepted : Unlocks "/modem" pinEntered pinAccepted := by
  have hwaits : (pinEntered.modems.find? "/modem").map (·.lock.state) =
      some (.pinRequired .pin) := by decide +kernel
  obtain ⟨modem, hmodem, hstate⟩ := Option.map_eq_some_iff.1 hwaits
  exact ⟨_, modem, rfl, rfl, hmodem, hstate⟩

/-- The SIM and its modem go on to report about themselves, and the lock stays clear. -/
theorem unlocked_stays_powered :
    let unlocked := (pinEntered.handle pinAccepted).tracker
    let since : List Event := [.simChanged onlyModem "Present" (.bool true),
      .modemChanged onlyModem "Powered" (.bool true)]
    pinEntered.Reachable ∧ Unlocks "/modem" pinEntered pinAccepted ∧
      unlocked.Along (SilentOnPin "/modem") since ∧
      unlocked.Throughout (fun later ↦ later.modems.ClearAt "/modem") since := by
  intro unlocked since
  have hsilent : unlocked.Along (SilentOnPin "/modem") since :=
    ⟨.of_ne (by simp) nofun, .of_ne nofun nofun, trivial⟩
  have hunrecalled : unlocked.Along
      (fun later event ↦ ¬ RecallsPin "/modem" later event) since := by
    refine ⟨?_, ?_, trivial⟩
    · rintro ⟨sim, value, -, hevent, -⟩
      simp at hevent
    · rintro ⟨sim, value, -, hevent, -⟩
      cases hevent
  have hstays := (unlocked_stays_iff (reachable_run _) unlocks_pinAccepted hsilent).2
  exact ⟨reachable_run _, unlocks_pinAccepted, hsilent, hstays.2 hunrecalled⟩

/-- The attempts left go back to three, and the lock waits for the accepted PIN again. -/
theorem unlocked_recalled :
    let unlocked := (pinEntered.handle pinAccepted).tracker
    let report := Event.simChanged onlyModem "Retries" (.ofProperties [("pin", .byte 3)])
    pinEntered.Reachable ∧ Unlocks "/modem" pinEntered pinAccepted ∧
      (unlocked.modems.find? "/modem").map (·.lock.state) = some .clear ∧
      SilentOnPin "/modem" unlocked report ∧
      ((unlocked.handle report).tracker.modems.find? "/modem").map (·.lock.state) =
        some (.pinRequired .pin) := by
  intro unlocked report
  refine ⟨reachable_run _, unlocks_pinAccepted, by decide +kernel, .of_ne (by simp [report]) nofun,
    by decide +kernel⟩

end Tracker

end Uplink
