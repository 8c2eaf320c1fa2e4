import Uplink.Proofs.Service.Roster
import Uplink.Proofs.Tracker.Subject
/-!
# Where the tickets of services come from

A ticket is given out with the attachment of a service that is new in the list, and with a change
that makes everything else that is known of the service doubtful. In both cases its generation is
the one that the entry of the service has from then on.
-/

namespace Uplink

open Wire (Value Properties)

namespace Tracker

variable {tracker : Tracker} {ticket : Ticket}

theorem setManagerProperties_cons (tracker : Tracker) (property : String × Value)
    (rest : List (String × Value)) :
    let first := tracker.setManagerProperty property.1 property.2
    let later := first.1.setManagerProperties rest
    tracker.setManagerProperties (property :: rest) = (later.1, first.2 ++ later.2) :=
  foldl_collect_cons
    (fun (tracker : Tracker) (property : String × Value) ↦
      tracker.setManagerProperty property.1 property.2)
    property rest tracker

/-- Whether the service of this ticket is new in the list, and its entry waits for the ticket. -/
def Attaches (services : ServiceRoster) (ticket : Ticket) : Prop :=
  ∃ place, services.get? ticket.path = some (.new ticket.path place ticket.generation)

theorem attaches_setManagerProperty (h : tracker.services.WellFormed) {key : String}
    {value : Value}
    (hasked : .attachService ticket ∈ (tracker.setManagerProperty key value).2) :
    key = "Services" ∧ Attaches (tracker.setManagerProperty key value).1.services ticket := by
  have hkey : key = "Services" := by
    by_contra hother
    unfold setManagerProperty at hasked
    rw [if_neg hother] at hasked
    split at hasked <;> simp at hasked
  rw [services_setManagerProperty]
  unfold setManagerProperty at hasked
  unfold ServiceRoster.followManager
  rw [if_pos hkey] at hasked ⊢
  unfold setServices at hasked
  split at hasked
  · simp at hasked
  next paths hpaths =>
    have hadded : ticket ∈ (tracker.services.reconcile paths).2.added := by
      simpa using hasked
    rw [hpaths]
    exact ⟨hkey, (h.get?_reconcile_of_added hadded).2⟩

theorem attaches_setManagerProperties (h : tracker.services.WellFormed)
    {properties : List (String × Value)} (hdistinct : (properties.map (·.1)).Nodup)
    (hasked : .attachService ticket ∈ (tracker.setManagerProperties properties).2) :
    Attaches (tracker.setManagerProperties properties).1.services ticket := by
  induction properties generalizing tracker with
  | nil => cases hasked
  | cons property rest ih =>
    obtain ⟨hfresh, hrest⟩ := List.nodup_cons.1 hdistinct
    rw [setManagerProperties_cons] at hasked ⊢
    rcases List.mem_append.1 hasked with hhere | hlater
    · obtain ⟨hkey, hattaches⟩ := attaches_setManagerProperty h hhere
      have hnone : Properties.lookup "Services" rest = none :=
        Properties.lookup_eq_none_of_not_mem (hkey ▸ hfresh)
      rw [services_setManagerProperties, ServiceRoster.foldl_followManager hrest, hnone]
      exact hattaches
    · refine ih ?_ hrest hlater
      rw [services_setManagerProperty]
      exact h.followManager property.1 property.2

/-- Only a list of services attaches services. -/
theorem attaches_handle (h : tracker.Reachable) {event : Event}
    (hasked : .attachService ticket ∈ (tracker.handle event).actions) :
    Attaches (tracker.handle event).tracker.services ticket := by
  have hsubject : event.subject = .services := (subject_of_mem_handle hasked).symm
  cases event with
  | managerReported properties =>
    let manager := { tracker.manager with available := true }
    have hservices : ({ tracker with manager } : Tracker).touched.services.WellFormed :=
      h.wellFormed
    exact attaches_setManagerProperties hservices properties.distinct hasked
  | managerChanged key value => exact (attaches_setManagerProperty h.wellFormed hasked).2
  | serviceChanged path key value =>
    change .attachService ticket ∈ (tracker.changeService path key value).actions at hasked
    unfold changeService at hasked
    split at hasked <;> simp at hasked
  | serviceFetched ticket properties => simp [handle] at hasked
  | passphraseSubmitted path passphrase => simp [handle] at hasked
  | serviceForgotten path => simp [handle] at hasked
  | shutdown => simp [handle] at hasked
  | _ => cases hsubject

/-- A change that makes the other properties doubtful asks for one fetch, and no other does. -/
theorem actions_changeService {path : ObjectPath} {entry : ServiceRoster.Entry}
    (hentry : tracker.services.get? path = some entry) (key : String) (value : Value) :
    .refetchService ticket ∈ (tracker.changeService path key value).actions ↔
      ServiceRoster.needsRefetch key = true ∧
        ticket = ⟨path, tracker.services.generation + 1⟩ := by
  rw [actions_changeService_eq]
  cases hkey : ServiceRoster.needsRefetch key with
  | true =>
    rw [ServiceRoster.change_of_needsRefetch hentry hkey]
    simp [ServiceChange.actions]
  | false =>
    obtain ⟨-, -, hother⟩ := ServiceRoster.change_of_not_needsRefetch hentry hkey value
    cases hchange : (tracker.services.change path key value).2 with
    | refetch refetched => exact absurd hchange (hother refetched)
    | _ => simp [ServiceChange.actions]

end Tracker

end Uplink
