import Uplink.Proofs.Service.Enumeration
/-!
# What an event makes of one service

A service that is tracked before and after an event was answered for, doubted, changed or left with
a passphrase by a command, or else nothing happened to it but that its place in the list can be
another one. Whatever is kept of a service is checked against these five cases.
-/

namespace Uplink

open Wire (Value Properties)

/-- Whether the event is a command that leaves the service at this path with this passphrase. -/
inductive Event.LeavesPassphrase (path : ObjectPath) : Event → Option String → Prop
  | submitted (passphrase : String) :
    LeavesPassphrase path (.passphraseSubmitted path passphrase) (some passphrase)
  | forgotten : LeavesPassphrase path (.serviceForgotten path) none

theorem Service.state_setProperty_of_ne (service : Service) {key : String} (hkey : key ≠ "State")
    (value : Value) : (service.setProperty key value).state = service.state := by
  rw [setProperty_eq_amended]
  change (if key = "State" then some value else none).elim _ _ = _
  rw [if_neg hkey, Option.elim_none]

namespace ServiceRoster

/-- What is known of a service, if it is tracked. -/
def service? (roster : ServiceRoster) (path : ObjectPath) : Option Service :=
  (roster.get? path).map (·.service)

/-- Asking for a fetch leaves the state alone. -/
theorem Entry.state_invalidated (entry : Entry) {key : String} (hkey : needsRefetch key = true)
    (generation : Nat) (value : Value) :
    (entry.invalidated generation key value).service.state = entry.service.state := by
  have hne : key ≠ "State" := by
    rintro rfl
    cases hkey
  calc
    (entry.invalidated generation key value).service.state =
        (entry.service.setProperty key value).state := by
      unfold invalidated
      dsimp only
      split <;> rfl
    _ = entry.service.state := entry.service.state_setProperty_of_ne hne value

def Entry.withPassphrase (entry : Entry) (passphrase : Option String) : Entry :=
  { entry with service := { entry.service with passphrase } }

@[simp] theorem Entry.state_withPassphrase (entry : Entry) (passphrase : Option String) :
    (entry.withPassphrase passphrase).service.state = entry.service.state := rfl

@[simp] theorem Entry.state_moved (entry : Entry) (place : Nat) :
    (entry.moved place).service.state = entry.service.state := rfl

/-- Whether the event is a reply to the latest fetch of the service at this path. -/
def TakesReply (roster : ServiceRoster) (path : ObjectPath) (properties : Properties)
    (event : Event) : Prop :=
  ∃ ticket, event = .serviceFetched ticket properties ∧ ticket.path = path ∧
    (roster.completeFetch? ticket properties).isSome = true

/-- What an event makes of the entry of a service that is tracked before and after it. -/
inductive Entry.Becomes (roster : ServiceRoster) (path : ObjectPath) (entry : Entry) :
    Event → Entry → Prop
  | answered {event : Event} {properties : Properties}
    (htaken : roster.TakesReply path properties event) :
    Becomes roster path entry event (entry.answered properties)
  | doubted {key : String} {value : Value} (hkey : needsRefetch key = true) :
    Becomes roster path entry (.serviceChanged path key value)
      (entry.invalidated (roster.generation + 1) key value)
  | changed {key : String} {value : Value} (hkey : needsRefetch key = false) :
    Becomes roster path entry (.serviceChanged path key value)
      ((entry.record key value).setProperty key value)
  | commanded {event : Event} {passphrase : Option String}
    (hcommand : event.LeavesPassphrase path passphrase) :
    Becomes roster path entry event (entry.withPassphrase passphrase)
  | kept {event : Event} (hreply : ∀ properties, ¬ roster.TakesReply path properties event)
    (hchange : ∀ key value, event ≠ .serviceChanged path key value)
    (hcommand : ∀ passphrase, ¬ event.LeavesPassphrase path passphrase) (place : Nat) :
    Becomes roster path entry event (entry.moved place)

variable {roster : ServiceRoster} {path : ObjectPath} {entry after : Entry} {event : Event}

theorem Entry.moved_self (entry : Entry) : entry.moved entry.service.index = entry := rfl

theorem not_takesReply_of_ne (h : ∀ ticket properties, event ≠ .serviceFetched ticket properties)
    (properties : Properties) : ¬ roster.TakesReply path properties event := by
  rintro ⟨ticket, hevent, -⟩
  exact h ticket properties hevent

theorem not_takesReply_serviceChanged {changed : ObjectPath} {key : String} {value : Value}
    (properties : Properties) :
    ¬ roster.TakesReply path properties (.serviceChanged changed key value) :=
  not_takesReply_of_ne (by nofun) properties

theorem not_leavesPassphrase_of_ne {passphrase : Option String}
    (hsubmit : ∀ passphrase, event ≠ .passphraseSubmitted path passphrase)
    (hforget : event ≠ .serviceForgotten path) : ¬ event.LeavesPassphrase path passphrase := by
  rintro (⟨passphrase⟩ | _)
  · exact hsubmit passphrase rfl
  · exact hforget rfl

/-- An event that is about none of the services can only move this one. -/
theorem Entry.Becomes.of_moved
    (hreply : ∀ ticket properties, event ≠ .serviceFetched ticket properties)
    (hchange : ∀ key value, event ≠ .serviceChanged path key value)
    (hsubmit : ∀ passphrase, event ≠ .passphraseSubmitted path passphrase)
    (hforget : event ≠ .serviceForgotten path) {place : Nat} :
    entry.Becomes roster path event (entry.moved place) :=
  .kept (not_takesReply_of_ne hreply) hchange
    (fun _ ↦ not_leavesPassphrase_of_ne hsubmit hforget) place

theorem Entry.Becomes.of_same
    (hreply : ∀ ticket properties, event ≠ .serviceFetched ticket properties)
    (hchange : ∀ key value, event ≠ .serviceChanged path key value)
    (hsubmit : ∀ passphrase, event ≠ .passphraseSubmitted path passphrase)
    (hforget : event ≠ .serviceForgotten path) (hsame : after = entry) :
    entry.Becomes roster path event after := by
  rw [hsame, ← entry.moved_self]
  exact .of_moved hreply hchange hsubmit hforget

theorem becomes_of_listed {paths : List ObjectPath} (hlisted : event.listed? = some paths)
    (hbefore : roster.get? path = some entry)
    (hafter : (roster.follow event).get? path = some after) :
    entry.Becomes roster path event after := by
  rw [follow_of_listed hlisted] at hafter
  obtain ⟨place, rfl⟩ := get?_reconcile hbefore hafter
  cases event with
  | managerReported properties => apply Entry.Becomes.of_moved <;> nofun
  | managerChanged key value => apply Entry.Becomes.of_moved <;> nofun
  | _ => cases hlisted

theorem becomes_serviceFetched {ticket : Ticket} {properties : Properties}
    (hbefore : roster.get? path = some entry)
    (hafter : ((roster.completeFetch? ticket properties).getD roster).get? path = some after) :
    entry.Becomes roster path (.serviceFetched ticket properties) after := by
  by_cases htaken : roster.TakesReply path properties (.serviceFetched ticket properties)
  · obtain ⟨ticket', hevent, rfl, hsome⟩ := id htaken
    cases hevent
    obtain ⟨roster', hfetch⟩ := Option.isSome_iff_exists.1 hsome
    obtain ⟨other, hother, hgeneration, -⟩ := completeFetch?_eq_some_iff.1 hfetch
    obtain rfl := Option.some.inj (hbefore.symm.trans hother)
    rw [get?_completeFetch? hbefore hgeneration] at hafter
    rw [← Option.some.inj hafter]
    exact .answered htaken
  · have hsame : ((roster.completeFetch? ticket properties).getD roster).get? path =
        roster.get? path := by
      by_cases hpath : ticket.path = path
      · have hnone : roster.completeFetch? ticket properties = none := by
          by_contra hsome
          exact htaken ⟨ticket, rfl, hpath, Option.isSome_iff_ne_none.2 hsome⟩
        rw [hnone]
        rfl
      · exact get?_completeFetch?_of_ne hpath properties
    rw [hsame, hbefore] at hafter
    obtain rfl := Option.some.inj hafter
    rw [← entry.moved_self]
    refine .kept ?_ ?_ ?_ _
    · intro other hreply
      obtain ⟨ticket', hevent, -⟩ := id hreply
      cases hevent
      exact htaken hreply
    · nofun
    · rintro passphrase ⟨⟩

theorem becomes_serviceChanged {changed : ObjectPath} {key : String} {value : Value}
    (hbefore : roster.get? path = some entry)
    (hafter : (roster.change changed key value).1.get? path = some after) :
    entry.Becomes roster path (.serviceChanged changed key value) after := by
  by_cases hpath : changed = path
  · subst hpath
    cases hkey : needsRefetch key with
    | true =>
      rw [get?_change_of_needsRefetch hbefore hkey] at hafter
      rw [← Option.some.inj hafter]
      exact .doubted hkey
    | false =>
      rw [get?_change_of_not_needsRefetch hbefore hkey] at hafter
      rw [← Option.some.inj hafter]
      exact .changed hkey
  · rw [get?_change_of_ne hpath, hbefore] at hafter
    refine .of_same nofun (fun key value hevent ↦ ?_) nofun nofun (Option.some.inj hafter).symm
    cases hevent
    exact hpath rfl

theorem get?_setPassphrase {other : Entry} {changed : ObjectPath}
    (hother : roster.get? changed = some other) (passphrase : Option String)
    (hbefore : roster.get? path = some entry) :
    (roster.setPassphrase other passphrase).get? path =
      some (if changed = path then entry.withPassphrase passphrase else entry) := by
  have hpath := path_of_get? hother
  split
  next hsame =>
    subst hsame
    obtain rfl := Option.some.inj (hbefore.symm.trans hother)
    exact get?_put_self hbefore hpath
  next hne =>
    rw [← hpath] at hne
    have hother' : (other.withPassphrase passphrase).path ≠ path := hne
    exact (get?_put_of_ne hother').trans hbefore

theorem becomes_passphraseSubmitted {changed : ObjectPath} {passphrase : String}
    (hbefore : roster.get? path = some entry)
    (hafter : ((roster.echoPassphrase? changed passphrase).getD roster).get? path = some after) :
    entry.Becomes roster path (.passphraseSubmitted changed passphrase) after := by
  unfold echoPassphrase? at hafter
  by_cases hpath : changed = path
  · subst hpath
    rw [hbefore] at hafter
    change (roster.setPassphrase entry (some passphrase)).get? changed = some after at hafter
    rw [get?_setPassphrase hbefore _ hbefore, if_pos rfl] at hafter
    rw [← Option.some.inj hafter]
    exact .commanded (.submitted passphrase)
  · refine .of_same nofun nofun (fun passphrase hevent ↦ ?_) nofun ?_
    · cases hevent
      exact hpath rfl
    · cases hother : roster.get? changed with
      | none =>
        rw [hother] at hafter
        exact Option.some.inj (hafter.symm.trans hbefore)
      | some other =>
        rw [hother] at hafter
        change (roster.setPassphrase other (some passphrase)).get? path = some after at hafter
        rw [get?_setPassphrase hother _ hbefore, if_neg hpath] at hafter
        exact (Option.some.inj hafter).symm

/-- A passphrase is forgotten, or there is none to forget. -/
theorem becomes_serviceForgotten {changed : ObjectPath}
    (hbefore : roster.get? path = some entry)
    (hafter : ((roster.forgetPassphrase? changed).getD roster).get? path = some after) :
    entry.Becomes roster path (.serviceForgotten changed) after := by
  by_cases hpath : changed = path
  · subst hpath
    suffices after = entry.withPassphrase none by
      rw [this]
      exact .commanded .forgotten
    cases hpassphrase : entry.service.passphrase with
    | none =>
      have hnone : roster.forgetPassphrase? changed = none := by
        unfold forgetPassphrase?
        rw [hbefore]
        simp [hpassphrase]
      rw [hnone] at hafter
      obtain rfl := Option.some.inj (hbefore.symm.trans hafter)
      unfold Entry.withPassphrase
      rw [← hpassphrase]
    | some passphrase =>
      have hsome : entry.service.passphrase.isSome = true := by rw [hpassphrase]; rfl
      have hforget : roster.forgetPassphrase? changed = some (roster.setPassphrase entry none) :=
        forgetPassphrase?_eq_some_iff.2 ⟨entry, hbefore, hsome, rfl⟩
      rw [hforget, Option.getD_some, get?_setPassphrase hbefore _ hbefore, if_pos rfl] at hafter
      exact (Option.some.inj hafter).symm
  · refine .of_same nofun nofun nofun (fun hevent ↦ ?_) ?_
    · cases hevent
      exact hpath rfl
    · cases hforget : roster.forgetPassphrase? changed with
      | none =>
        rw [hforget] at hafter
        exact Option.some.inj (hafter.symm.trans hbefore)
      | some roster' =>
        obtain ⟨other, hother, -, rfl⟩ := forgetPassphrase?_eq_some_iff.1 hforget
        rw [hforget, Option.getD_some, get?_setPassphrase hother _ hbefore, if_neg hpath] at hafter
        exact (Option.some.inj hafter).symm

/-- Every event makes of a service one of the five. -/
theorem becomes_follow (hbefore : roster.get? path = some entry)
    (hafter : (roster.follow event).get? path = some after) :
    entry.Becomes roster path event after := by
  cases hlisted : event.listed? with
  | some paths => exact becomes_of_listed hlisted hbefore hafter
  | none =>
    cases event with
    | serviceFetched ticket properties => exact becomes_serviceFetched hbefore hafter
    | serviceChanged changed key value => exact becomes_serviceChanged hbefore hafter
    | passphraseSubmitted changed passphrase => exact becomes_passphraseSubmitted hbefore hafter
    | serviceForgotten changed => exact becomes_serviceForgotten hbefore hafter
    | managerReported properties =>
      rw [follow_managerReported, hlisted, Option.elim_none, hbefore] at hafter
      exact .of_same nofun nofun nofun nofun (Option.some.inj hafter).symm
    | managerChanged key value =>
      rw [follow_managerChanged, hlisted, Option.elim_none, hbefore] at hafter
      exact .of_same nofun nofun nofun nofun (Option.some.inj hafter).symm
    | _ =>
      exact .of_same nofun nofun nofun nofun (Option.some.inj (hafter.symm.trans hbefore))

end ServiceRoster

namespace Tracker

theorem becomes_handle {tracker : Tracker} {event : Event} {path : ObjectPath}
    {before after : ServiceRoster.Entry} (hbefore : tracker.services.get? path = some before)
    (hafter : (tracker.handle event).tracker.services.get? path = some after) :
    before.Becomes tracker.services path event after := by
  rw [services_handle] at hafter
  exact ServiceRoster.becomes_follow hbefore hafter

end Tracker

end Uplink
