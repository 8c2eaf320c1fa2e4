import Uplink.Proofs.Service.Transition
import Uplink.Proofs.Tracker.History
/-!
# The service that was connected last

Every reply and every announcement that shows a service connected makes it the one that was
connected last, whether it has just come to be connected or was so before. The two notions part
exactly where a service is shown to be connected still while another one counts as the last.
-/

namespace Uplink

open Wire (Value Properties)

namespace ServiceRoster

variable {roster : ServiceRoster} {path : ObjectPath} {entry : Entry} {event : Event}

/-! ## What makes a service the last one -/

theorem lastActive_change_state (hentry : roster.get? path = some entry) (value : Value) :
    (roster.change path "State" value).1.lastActive =
      if (entry.service.setProperty "State" value).isConnected then some path
      else roster.lastActive := by
  unfold change
  rw [hentry]
  dsimp only
  rw [if_neg (by decide), if_pos rfl]
  split <;> split
  next _ hconnected => exact (if_pos hconnected).symm
  next _ hconnected => exact (if_neg hconnected).symm
  next _ hconnected => exact (if_pos hconnected).symm
  next _ hconnected => exact (if_neg hconnected).symm

theorem lastActive_change_of_ne {key : String} (hkey : key ≠ "State") (value : Value) :
    (roster.change path key value).1.lastActive = roster.lastActive := by
  unfold change
  split
  · rfl
  · dsimp only
    split <;> rfl

theorem lastActive_change_of_none (h : roster.get? path = none) (key : String) (value : Value) :
    (roster.change path key value).1.lastActive = roster.lastActive := by
  unfold change
  rw [h]

/-- A new list keeps the service that was connected last as long as it is listed. -/
theorem ActiveTracked.lastActive_reconcile (h : roster.ActiveTracked) {listed : List ObjectPath} :
    (roster.reconcile listed).1.lastActive = some path ↔
      roster.lastActive = some path ∧ path ∈ (roster.reconcile listed).1.paths := by
  rw [paths_reconcile, List.mem_eraseDups]
  change roster.lastActive.filter _ = some path ↔ _
  rw [Option.filter_eq_some_iff]
  apply and_congr_right
  intro hactive
  have htracked : path ∈ roster.paths := h path hactive
  simp [htracked]

end ServiceRoster

namespace Tracker

variable {tracker : Tracker} {event : Event} {path : ObjectPath}

/-- Whether the event takes the service into a connected state that it was not in before. -/
def ReachesConnected (path : ObjectPath) (tracker : Tracker) (event : Event) : Prop :=
  ∃ before after, tracker.services.service? path = some before ∧
    (tracker.handle event).tracker.services.service? path = some after ∧
    after.isConnected = true ∧ after.state ≠ before.state

instance : Decidable (ReachesConnected path tracker event) :=
  decidable_of_iff
    ((tracker.services.service? path).any (fun before ↦
      ((tracker.handle event).tracker.services.service? path).any fun after ↦
        after.isConnected && after.state ≠ before.state) = true) (by
      simp only [ReachesConnected, Option.any_eq_true, Bool.and_eq_true, decide_eq_true_eq,
        exists_and_left])

/-- Whether the event announces the state of the service, or is a reply, and shows it connected. -/
def ShowsConnected (path : ObjectPath) (tracker : Tracker) (event : Event) : Prop :=
  ((∃ value, event = .serviceChanged path "State" value) ∨
    ∃ properties, tracker.services.TakesReply path properties event) ∧
  ∃ after, (tracker.handle event).tracker.services.service? path = some after ∧
    after.isConnected = true

/-- Whether the event shows the service connected in the state that it was in before. -/
def ConfirmsConnected (path : ObjectPath) (tracker : Tracker) (event : Event) : Prop :=
  ShowsConnected path tracker event ∧ ¬ ReachesConnected path tracker event

theorem ReachesConnected.mem_paths (h : ReachesConnected path tracker event) :
    path ∈ tracker.services.paths := by
  obtain ⟨before, -, hbefore, -⟩ := h
  obtain ⟨entry, hentry, -⟩ := Option.map_eq_some_iff.1 hbefore
  exact ServiceRoster.mem_paths_of_get? hentry

theorem ReachesConnected.shows (h : ReachesConnected path tracker event) :
    ShowsConnected path tracker event := by
  obtain ⟨before, after, hbefore, hafter, hconnected, hstate⟩ := h
  refine ⟨?_, after, hafter, hconnected⟩
  obtain ⟨earlier, hearlier, rfl⟩ := Option.map_eq_some_iff.1 hbefore
  obtain ⟨later, hlater, rfl⟩ := Option.map_eq_some_iff.1 hafter
  cases becomes_handle hearlier hlater with
  | answered htaken => exact .inr ⟨_, htaken⟩
  | doubted hkey => exact absurd (earlier.state_invalidated hkey _ _) hstate
  | @changed key value hkey =>
    by_cases hname : key = "State"
    · exact .inl ⟨value, by rw [hname]⟩
    · exact absurd (earlier.service.state_setProperty_of_ne hname value) hstate
  | commanded => exact absurd rfl hstate
  | kept => exact absurd rfl hstate

/-- A service that is shown connected is from then on the one that was connected last. -/
theorem ShowsConnected.lastActive (h : ShowsConnected path tracker event) :
    (tracker.handle event).tracker.services.lastActive = some path := by
  obtain ⟨hshown, after, hafter, hconnected⟩ := h
  rw [services_handle] at hafter ⊢
  obtain ⟨later, hlater, rfl⟩ := Option.map_eq_some_iff.1 hafter
  rcases hshown with ⟨value, rfl⟩ | ⟨properties, ticket, rfl, rfl, htaken⟩
  · change (tracker.services.change path "State" value).1.get? path = some later at hlater
    change (tracker.services.change path "State" value).1.lastActive = some path
    have htracked := ServiceRoster.mem_paths_of_get? hlater
    rw [ServiceRoster.paths_change] at htracked
    obtain ⟨entry, hentry⟩ := ServiceRoster.exists_get?_of_mem_paths htracked
    rw [ServiceRoster.get?_change_of_not_needsRefetch hentry (by decide)] at hlater
    rw [← Option.some.inj hlater] at hconnected
    rw [ServiceRoster.lastActive_change_state hentry]
    exact if_pos hconnected
  · obtain ⟨services, hfetch⟩ := Option.isSome_iff_exists.1 htaken
    obtain ⟨entry, hentry, hgeneration, rfl⟩ :=
      ServiceRoster.completeFetch?_eq_some_iff.1 hfetch
    change ((tracker.services.completeFetch? ticket properties).getD _).get? ticket.path =
      some later at hlater
    change ((tracker.services.completeFetch? ticket properties).getD _).lastActive =
      some ticket.path
    rw [ServiceRoster.get?_completeFetch? hentry hgeneration] at hlater
    rw [← Option.some.inj hlater] at hconnected
    rw [hfetch]
    exact if_pos hconnected

theorem lastActive_handle_of_not_listed (hlisted : event.listed? = none)
    (hnone : ∀ other, ¬ ShowsConnected other tracker event) :
    (tracker.handle event).tracker.services.lastActive = tracker.services.lastActive := by
  rw [services_handle]
  cases event with
  | managerReported properties => rw [ServiceRoster.follow_managerReported, hlisted]; rfl
  | managerChanged key value => rw [ServiceRoster.follow_managerChanged, hlisted]; rfl
  | serviceFetched ticket properties =>
    change ((tracker.services.completeFetch? ticket properties).getD _).lastActive = _
    cases hfetch : tracker.services.completeFetch? ticket properties with
    | none => rfl
    | some services =>
      obtain ⟨entry, hentry, hgeneration, rfl⟩ :=
        ServiceRoster.completeFetch?_eq_some_iff.1 hfetch
      have hanswered := ServiceRoster.get?_completeFetch? hentry hgeneration properties
      have hdisconnected : ¬ (entry.fetched properties).isConnected = true := by
        intro hconnected
        have htaken : (tracker.services.completeFetch? ticket properties).isSome = true := by
          rw [hfetch]
          rfl
        apply hnone ticket.path
        refine ⟨.inr ⟨properties, ticket, rfl, rfl, htaken⟩, entry.fetched properties, ?_,
          hconnected⟩
        rw [services_handle]
        exact congrArg (Option.map (·.service)) hanswered
      exact if_neg hdisconnected
  | serviceChanged path key value =>
    change (tracker.services.change path key value).1.lastActive = _
    by_cases hkey : key = "State"
    · subst hkey
      cases hentry : tracker.services.get? path with
      | none => exact ServiceRoster.lastActive_change_of_none hentry "State" value
      | some entry =>
        rw [ServiceRoster.lastActive_change_state hentry]
        apply if_neg
        intro hconnected
        have hkey : ServiceRoster.needsRefetch "State" = false := by decide
        have hchanged := ServiceRoster.get?_change_of_not_needsRefetch hentry hkey value
        apply hnone path
        refine ⟨.inl ⟨value, rfl⟩, entry.service.setProperty "State" value, ?_, hconnected⟩
        rw [services_handle]
        exact congrArg (Option.map (·.service)) hchanged
    · exact ServiceRoster.lastActive_change_of_ne hkey value
  | passphraseSubmitted path passphrase =>
    exact ServiceRoster.lastActive_echoPassphrase? _ path passphrase
  | serviceForgotten path => exact ServiceRoster.lastActive_forgetPassphrase? _ path
  | _ => rfl

theorem ShowsConnected.mem_paths (h : ShowsConnected path tracker event) :
    path ∈ (tracker.handle event).tracker.services.paths := by
  obtain ⟨-, after, hafter, -⟩ := h
  obtain ⟨entry, hentry, -⟩ := Option.map_eq_some_iff.1 hafter
  exact ServiceRoster.mem_paths_of_get? hentry

/-- An event shows no more than one service connected. -/
theorem ShowsConnected.eq {other : ObjectPath} (h : ShowsConnected path tracker event)
    (hother : ShowsConnected other tracker event) : path = other :=
  Option.some.inj (h.lastActive.symm.trans hother.lastActive)

/-- If no service is shown connected, the one that was connected last is so still, while it is
tracked. -/
theorem lastActive_of_not_shows (h : tracker.services.ActiveTracked)
    (hnone : ∀ other, ¬ ShowsConnected other tracker event) :
    (tracker.handle event).tracker.services.lastActive = some path ↔
      tracker.services.lastActive = some path ∧
        path ∈ (tracker.handle event).tracker.services.paths := by
  cases hlisted : event.listed? with
  | some paths =>
    rw [services_handle, ServiceRoster.follow_of_listed hlisted]
    exact h.lastActive_reconcile
  | none =>
    rw [lastActive_handle_of_not_listed hlisted hnone, services_handle,
      ServiceRoster.paths_follow_of_not_listed hlisted]
    exact (and_iff_left_of_imp (h path)).symm

theorem lastActive_handle_iff (h : tracker.services.ActiveTracked) :
    (tracker.handle event).tracker.services.lastActive = some path ↔
      ShowsConnected path tracker event ∨
        tracker.services.lastActive = some path ∧
          (∀ other, ¬ ShowsConnected other tracker event) ∧
            path ∈ (tracker.handle event).tracker.services.paths := by
  by_cases hshown : ∃ other, ShowsConnected other tracker event
  · obtain ⟨other, hother⟩ := hshown
    constructor
    · intro hactive
      obtain rfl : other = path := Option.some.inj (hother.lastActive.symm.trans hactive)
      exact .inl hother
    · rintro (hpath | ⟨-, hnone, -⟩)
      · exact hpath.lastActive
      · exact absurd hother (hnone other)
  · have hnone := not_exists.1 hshown
    rw [lastActive_of_not_shows h hnone, or_iff_right (hnone path), and_iff_right hnone]

end Tracker

namespace Publisher

open Tracker (ShowsConnected ReachesConnected ConfirmsConnected)

variable {events : List Event} {event : Event} {path : ObjectPath}

/-- Whether of all services this one was shown connected last, and has been tracked since. -/
def ShownLast (path : ObjectPath) : List Event → Prop :=
  Since (ShowsConnected path) fun tracker event ↦
    (∀ other, ¬ ShowsConnected other tracker event) ∧
      path ∈ (tracker.handle event).tracker.services.paths

/-- Whether of all services this one came to be connected last, and has been tracked since. -/
def ReachedLast (path : ObjectPath) : List Event → Prop :=
  Since (ReachesConnected path) fun tracker event ↦
    (∀ other, ¬ ReachesConnected other tracker event) ∧
      path ∈ (tracker.handle event).tracker.services.paths

theorem ReachedLast.concat (h : ReachedLast path events)
    (hnone : ∀ other ∈ (run events).tracker.services.paths,
      ¬ ReachesConnected other (run events).tracker event)
    (htracked : path ∈ ((run events).tracker.handle event).tracker.services.paths) :
    ReachedLast path (events ++ [event]) := by
  have hunreached (other : ObjectPath) : ¬ ReachesConnected other (run events).tracker event :=
    fun hother ↦ hnone other hother.mem_paths hother
  exact since_concat_iff.2 (.inr ⟨h, hunreached, htracked⟩)

theorem lastActive_concat_iff :
    (run (events ++ [event])).tracker.services.lastActive = some path ↔
      ShowsConnected path (run events).tracker event ∨
        (run events).tracker.services.lastActive = some path ∧
          (∀ other, ¬ ShowsConnected other (run events).tracker event) ∧
            path ∈ ((run events).tracker.handle event).tracker.services.paths := by
  rw [run_concat, tracker_advance]
  exact Tracker.lastActive_handle_iff (reachable_run events).activeTracked

theorem lastActive_iff_shownLast (events : List Event) (path : ObjectPath) :
    (run events).tracker.services.lastActive = some path ↔ ShownLast path events := by
  induction events using List.reverseRecOn with
  | nil => exact iff_of_false nofun not_since_nil
  | append_singleton events event ih =>
    rw [lastActive_concat_iff, ih]
    exact since_concat_iff.symm

/-- While the service that counts as connected last is the one that came to be so last, an event
keeps it that way unless it shows another one connected still. -/
theorem reachedLast_concat_iff
    (hbefore : ∀ path, (run events).tracker.services.lastActive = some path ↔
      ReachedLast path events)
    (hconfirms : ∀ path, ConfirmsConnected path (run events).tracker event →
      (run events).tracker.services.lastActive = some path) :
    (run (events ++ [event])).tracker.services.lastActive = some path ↔
      ReachedLast path (events ++ [event]) := by
  rw [lastActive_concat_iff]
  refine Iff.trans ?_ since_concat_iff.symm
  change _ ↔ _ ∨ ReachedLast path events ∧ _
  rw [← hbefore path]
  by_cases hshown : ∃ other, ShowsConnected other (run events).tracker event
  · obtain ⟨other, hother⟩ := hshown
    -- The service that is shown comes to be connected now, or it was the last one already.
    by_cases hreached : ReachesConnected other (run events).tracker event
    · constructor
      · rintro (hpath | ⟨-, hnone, -⟩)
        · exact .inl (hpath.eq hother ▸ hreached)
        · exact absurd hother (hnone other)
      · rintro (hpath | ⟨-, hnone, -⟩)
        · exact .inl hpath.shows
        · exact absurd hreached (hnone other)
    · have hactive := hconfirms other ⟨hother, hreached⟩
      have hunreached (third : ObjectPath) :
          ¬ ReachesConnected third (run events).tracker event := by
        intro hthird
        exact hreached (hthird.shows.eq hother ▸ hthird)
      constructor
      · rintro (hpath | ⟨-, hnone, -⟩)
        · obtain rfl := hpath.eq hother
          exact .inr ⟨hactive, hunreached, hother.mem_paths⟩
        · exact absurd hother (hnone other)
      · rintro (hpath | ⟨hpath, -, -⟩)
        · exact .inl hpath.shows
        · obtain rfl : path = other := Option.some.inj (hpath.symm.trans hactive)
          exact .inl hother
  · have hnone := not_exists.1 hshown
    have hunreached (other : ObjectPath) : ¬ ReachesConnected other (run events).tracker event :=
      fun hother ↦ hnone other hother.shows
    rw [or_iff_right (hnone path), or_iff_right (hunreached path), and_iff_right hnone,
      and_iff_right hunreached]

/-- After every run the service that counts as connected last is the one that was shown connected
last and has been tracked since. It is the one that came to be connected last, throughout a run,
exactly if no event of the run shows a service connected still while another one, or none, counts as
the last. -/
theorem lastActive_reached_iff (events : List Event) :
    (∀ path, (run events).tracker.services.lastActive = some path ↔ ShownLast path events) ∧
    ((∀ start, start <+: events → ∀ path,
        (run start).tracker.services.lastActive = some path ↔ ReachedLast path start) ↔
      ∀ start next path, start ++ [next] <+: events →
        ConfirmsConnected path (run start).tracker next →
        (run start).tracker.services.lastActive = some path) := by
  refine ⟨lastActive_iff_shownLast events, fun hreached start next path hstart hconfirms ↦ ?_,
    fun hconfirms start ↦ ?_⟩
  · have hactive : (run (start ++ [next])).tracker.services.lastActive = some path :=
      lastActive_concat_iff.2 (.inl hconfirms.1)
    have hlast := (hreached (start ++ [next]) hstart path).1 hactive
    rcases since_concat_iff.1 hlast with hnow | ⟨hbefore, -⟩
    · exact absurd hnow hconfirms.2
    · exact (hreached start ((List.prefix_append start [next]).trans hstart) path).2 hbefore
  · induction start using List.reverseRecOn with
    | nil => exact fun _ _ ↦ iff_of_false nofun not_since_nil
    | append_singleton start next ih =>
      intro hstart path
      apply reachedLast_concat_iff
      · exact ih ((List.prefix_append start [next]).trans hstart)
      · exact fun path ↦ hconfirms start next path hstart

/-- The paths of two services. -/
def wlan : ObjectPath := ⟨"/wlan", by decide⟩

def lan : ObjectPath := ⟨"/lan", by decide⟩

/-- Two services are listed. -/
def wlanAndLan : Event := .managerChanged "Services" (.ofTexts ["/wlan", "/lan"])

/-- A reply that shows the service of this ticket connected. -/
def shownReady (ticket : Ticket) : Event :=
  .serviceFetched ticket (.ofPairs [("State", .text "ready")])

theorem not_confirmsConnected_shownReady {tracker : Tracker} {ticket : Ticket}
    (hreached : ReachesConnected ticket.path tracker (shownReady ticket)) :
    ¬ ConfirmsConnected path tracker (shownReady ticket) := by
  rintro ⟨⟨⟨value, hevent⟩ | ⟨properties, given, hevent, rfl, -⟩, -⟩, hunmoved⟩
  · cases hevent
  · cases hevent
    exact hunmoved hreached

/-- One step of a run is its last one, or a step of the run before it. -/
theorem eq_or_prefix_of_prefix_concat {start events : List Event} {next event : Event}
    (h : start ++ [next] <+: events ++ [event]) :
    (start = events ∧ next = event) ∨ start ++ [next] <+: events := by
  rcases List.prefix_concat_iff.1 h with hlast | hearlier
  · obtain ⟨hstart, hnext⟩ := List.append_inj' hlast rfl
    exact .inl ⟨hstart, List.singleton_inj.1 hnext⟩
  · exact .inr hearlier

/-- The two come to be connected, one after the other, and the second one is the last. -/
theorem lastActive_reached_inTurn :
    let events := [wlanAndLan] ++ [shownReady ⟨wlan, 1⟩] ++ [shownReady ⟨lan, 2⟩]
    (run events).tracker.services.lastActive = some lan ∧ ReachedLast lan events := by
  intro events
  have hlast : (run events).tracker.services.lastActive = some lan := by decide +kernel
  have hunconfirmed (start : List Event) (next : Event) (path : ObjectPath)
      (hstart : start ++ [next] <+: events) :
      ¬ ConfirmsConnected path (run start).tracker next := by
    rcases eq_or_prefix_of_prefix_concat hstart with ⟨rfl, rfl⟩ | hearlier
    · exact not_confirmsConnected_shownReady (by decide +kernel)
    · rcases eq_or_prefix_of_prefix_concat hearlier with ⟨rfl, rfl⟩ | hlisted
      · exact not_confirmsConnected_shownReady (by decide +kernel)
      · have hlist : start ++ [next] <+: [] ++ [wlanAndLan] := hlisted
        rcases eq_or_prefix_of_prefix_concat hlist with ⟨-, rfl⟩ | hnone
        · rintro ⟨⟨⟨value, hevent⟩ | ⟨properties, given, hevent, -⟩, -⟩, -⟩ <;> cases hevent
        · simp at hnone
  have hreached := (lastActive_reached_iff events).2.2
    fun start next path hstart hconfirms ↦ absurd hconfirms (hunconfirmed start next path hstart)
  exact ⟨hlast, (hreached events List.prefix_rfl lan).1 hlast⟩

/-- The two come to be connected, and the first one is set up anew. -/
def setUpAnew : List Event :=
  [wlanAndLan, shownReady ⟨wlan, 1⟩] ++ [shownReady ⟨lan, 2⟩] ++
    [.serviceChanged wlan "SetupRequired" (.bool false)]

/-- The reply for the first one shows it connected still: it counts as connected last from then on,
and yet the other one came to be so last. -/
theorem lastActive_confirmed :
    let reply := shownReady ⟨wlan, 3⟩
    (run setUpAnew).tracker.services.lastActive = some lan ∧
      ConfirmsConnected wlan (run setUpAnew).tracker reply ∧
      (run (setUpAnew ++ [reply])).tracker.services.lastActive = some wlan ∧
      ReachedLast lan (setUpAnew ++ [reply]) ∧ ¬ ReachedLast wlan (setUpAnew ++ [reply]) := by
  intro reply
  have hunmoved : ¬ ReachesConnected wlan (run setUpAnew).tracker reply := by decide +kernel
  have hlan : ReachesConnected lan (run [wlanAndLan, shownReady ⟨wlan, 1⟩]).tracker
      (shownReady ⟨lan, 2⟩) := by decide +kernel
  refine ⟨by decide +kernel, ⟨?_, hunmoved⟩, by decide +kernel, ?_, ?_⟩
  · have htaken : ((run setUpAnew).tracker.services.completeFetch? ⟨wlan, 3⟩
        (.ofPairs [("State", .text "ready")])).isSome = true := by decide +kernel
    refine ⟨.inr ⟨_, _, rfl, rfl, htaken⟩, ?_⟩
    apply (Option.any_eq_true _ _).1
    decide +kernel
  · have hreached : ReachedLast lan
        ([wlanAndLan, shownReady ⟨wlan, 1⟩] ++ [shownReady ⟨lan, 2⟩]) :=
      since_concat_iff.2 (.inl hlan)
    have hdoubted : ReachedLast lan setUpAnew :=
      hreached.concat (by decide +kernel) (by decide +kernel)
    exact hdoubted.concat (by decide +kernel) (by decide +kernel)
  · intro hreply
    rcases since_concat_iff.1 hreply with hnow | ⟨hdoubt, -⟩
    · exact hunmoved hnow
    · rcases since_concat_iff.1 hdoubt with hnow | ⟨hjoined, -⟩
      · revert hnow
        decide +kernel
      · rcases since_concat_iff.1 hjoined with hnow | ⟨-, hnone, -⟩
        · revert hnow
          decide +kernel
        · exact hnone lan hlan

end Publisher

end Uplink
