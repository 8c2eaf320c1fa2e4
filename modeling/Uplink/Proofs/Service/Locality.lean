import Uplink.Proofs.Service.Transition
import Uplink.Proofs.Tracker.Subject
/-!
# Events about one service

An event about one service leaves the entry of every other service exactly as it is, and the order
of the services too. What it makes of its own service depends on the entry of this service alone,
and not on the other services, the generation given out last or the service that was connected last.
-/

namespace Uplink

open Wire (Value Properties)

/-- An event about one service or modem reports no list of services. -/
theorem Event.listed?_of_object? {event : Event} {object : Object}
    (h : event.object? = some object) : event.listed? = none := by
  cases event <;> first | rfl | cases h

namespace ServiceRoster

variable {roster roster' : ServiceRoster} {path other : ObjectPath} {event : Event}

theorem get?_setPassphrase_of_ne {entry : Entry} (hentry : roster.get? path = some entry)
    (h : other ≠ path) (passphrase : Option String) :
    (roster.setPassphrase entry passphrase).get? other = roster.get? other := by
  have hpath : (entry.withPassphrase passphrase).path ≠ other := by
    change entry.path ≠ other
    rw [path_of_get? hentry]
    exact h.symm
  exact get?_put_of_ne hpath

/-- An event about one service leaves the entries of all others as they are. -/
theorem get?_follow_of_ne (roster : ServiceRoster) (hobject : event.object? = some (.service path))
    (h : other ≠ path) : (roster.follow event).get? other = roster.get? other := by
  cases event with
  | serviceFetched ticket properties =>
    cases hobject
    exact get?_completeFetch?_of_ne h.symm properties
  | serviceChanged path key value =>
    cases hobject
    exact get?_change_of_ne h.symm key value
  | passphraseSubmitted path passphrase =>
    cases hobject
    unfold follow echoPassphrase?
    dsimp only
    cases hentry : roster.get? path with
    | none => rfl
    | some entry => exact get?_setPassphrase_of_ne hentry h (some passphrase)
  | serviceForgotten path =>
    cases hobject
    unfold follow
    dsimp only
    cases hforget : roster.forgetPassphrase? path with
    | none => rfl
    | some roster' =>
      obtain ⟨entry, hentry, -, rfl⟩ := forgetPassphrase?_eq_some_iff.1 hforget
      exact get?_setPassphrase_of_ne hentry h none
  | _ => cases hobject

theorem completeFetch?_of_untracked {ticket : Ticket} (h : roster.get? ticket.path = none)
    (properties : Properties) : roster.completeFetch? ticket properties = none := by
  unfold completeFetch?
  rw [h]
  rfl

theorem service?_completeFetch?_congr {ticket : Ticket}
    (h : roster.get? ticket.path = roster'.get? ticket.path) (properties : Properties) :
    ((roster.completeFetch? ticket properties).getD roster).service? ticket.path =
      ((roster'.completeFetch? ticket properties).getD roster').service? ticket.path := by
  unfold service?
  cases hentry : roster.get? ticket.path with
  | none =>
    rw [completeFetch?_of_untracked hentry, completeFetch?_of_untracked (h.symm.trans hentry),
      Option.getD_none, Option.getD_none, h]
  | some entry =>
    have hentry' := h.symm.trans hentry
    by_cases hgeneration : entry.generation = ticket.generation
    · rw [get?_completeFetch? hentry hgeneration, get?_completeFetch? hentry' hgeneration]
    · rw [completeFetch?_of_ne hentry hgeneration, completeFetch?_of_ne hentry' hgeneration,
        Option.getD_none, Option.getD_none, h]

theorem service?_change_congr (h : roster.get? path = roster'.get? path) (key : String)
    (value : Value) :
    (roster.change path key value).1.service? path =
      (roster'.change path key value).1.service? path := by
  unfold service?
  cases hentry : roster.get? path with
  | none =>
    unfold change
    rw [← h, hentry]
    dsimp only
    rw [h]
  | some entry =>
    have hentry' := h.symm.trans hentry
    cases hkey : needsRefetch key with
    | true =>
      rw [get?_change_of_needsRefetch hentry hkey, get?_change_of_needsRefetch hentry' hkey]
      rfl
    | false =>
      rw [get?_change_of_not_needsRefetch hentry hkey,
        get?_change_of_not_needsRefetch hentry' hkey]

theorem service?_setPassphrase {entry : Entry} (hentry : roster.get? path = some entry)
    (passphrase : Option String) :
    (roster.setPassphrase entry passphrase).service? path =
      some { entry.service with passphrase } := by
  unfold service?
  rw [get?_setPassphrase hentry passphrase hentry, if_pos rfl]
  rfl

theorem service?_echoPassphrase?_congr (h : roster.get? path = roster'.get? path)
    (passphrase : String) :
    ((roster.echoPassphrase? path passphrase).getD roster).service? path =
      ((roster'.echoPassphrase? path passphrase).getD roster').service? path := by
  unfold echoPassphrase?
  rw [← h]
  cases hentry : roster.get? path with
  | none => exact congrArg (Option.map Entry.service) h
  | some entry =>
    exact (service?_setPassphrase hentry _).trans
      (service?_setPassphrase (h.symm.trans hentry) _).symm

theorem service?_forgetPassphrase?_congr (h : roster.get? path = roster'.get? path) :
    ((roster.forgetPassphrase? path).getD roster).service? path =
      ((roster'.forgetPassphrase? path).getD roster').service? path := by
  have hsame : roster.service? path = roster'.service? path :=
    congrArg (Option.map Entry.service) h
  cases hentry : roster.get? path with
  | none =>
    unfold forgetPassphrase?
    rw [← h, hentry]
    exact hsame
  | some entry =>
    have hforget {roster : ServiceRoster} (hentry : roster.get? path = some entry) :
        roster.forgetPassphrase? path =
          if entry.service.passphrase.isSome then some (roster.setPassphrase entry none)
          else none := by
      unfold forgetPassphrase?
      rw [hentry]
      by_cases hsome : entry.service.passphrase.isSome = true <;> simp [hsome]
    have hentry' := h.symm.trans hentry
    rw [hforget hentry, hforget hentry']
    split
    · exact (service?_setPassphrase hentry none).trans (service?_setPassphrase hentry' none).symm
    · exact hsame

/-- What an event about one service makes of it depends on the entry of this service alone. -/
theorem service?_follow_congr (hobject : event.object? = some (.service path))
    (h : roster.get? path = roster'.get? path) :
    (roster.follow event).service? path = (roster'.follow event).service? path := by
  cases event with
  | serviceFetched ticket properties =>
    cases hobject
    exact service?_completeFetch?_congr h properties
  | serviceChanged path key value =>
    cases hobject
    exact service?_change_congr h key value
  | passphraseSubmitted path passphrase =>
    cases hobject
    exact service?_echoPassphrase?_congr h passphrase
  | serviceForgotten path =>
    cases hobject
    exact service?_forgetPassphrase?_congr h
  | _ => cases hobject

end ServiceRoster

end Uplink
