import Uplink.Proofs.Tracker.Run
/-!
# What events and actions are about

Every event is about the services, about the modems or about a call to a SIM, and it asks only for
actions about the same. An event about something else leaves the services, or the modems, as they
are. Most events are about one service or one modem.
-/

namespace Uplink

open Wire (Value Properties)

inductive Subject where
  | services
  | modems
  | calls
deriving DecidableEq

def Action.subject : Action → Subject
  | attachService _ => .services
  | detachService _ => .services
  | refetchService _ => .services
  | removeProvider _ => .services
  | attachModem _ => .modems
  | detachModem _ => .modems
  | attachSim _ => .modems
  | detachSim _ => .modems
  | simCall _ => .calls

def Event.subject : Event → Subject
  | modemsListed _ => .modems
  | modemAdded .. => .modems
  | modemRefreshed .. => .modems
  | modemRemoved _ => .modems
  | modemChanged .. => .modems
  | simFetched .. => .modems
  | simChanged .. => .modems
  | commanded .. => .calls
  | callFinished .. => .calls
  | _ => .services

/-- A service, or a modem under the name by which it is looked up. -/
inductive Object where
  | service (path : ObjectPath)
  | modem (path : String)
deriving DecidableEq

/-- The one service or modem that the event is about. -/
def Event.object? : Event → Option Object
  | serviceFetched ticket _ => some (.service ticket.path)
  | serviceChanged path .. => some (.service path)
  | passphraseSubmitted path _ => some (.service path)
  | serviceForgotten path => some (.service path)
  | modemAdded path _ => some (.modem path.text)
  | modemRefreshed path _ => some (.modem path.text)
  | modemRemoved path => some (.modem path.text)
  | modemChanged path .. => some (.modem path.text)
  | simFetched ticket _ => some (.modem ticket.path.text)
  | simChanged path .. => some (.modem path.text)
  | commanded _ command => some (.modem command.modem)
  | callFinished call _ => some (.modem call.modem)
  | _ => none

theorem Event.subject_of_service {event : Event} {path : ObjectPath}
    (h : event.object? = some (.service path)) : event.subject = .services := by
  cases event <;> first | rfl | cases h

theorem Event.subject_of_modem {event : Event} {path : String}
    (h : event.object? = some (.modem path)) : event.subject ≠ .services := by
  cases event <;> first | cases h; done | exact Subject.noConfusion

/-- What the tracker asks for after a change of a service. -/
def ServiceChange.actions : ServiceChange → List Action
  | untracked => []
  | applied => []
  | refetch ticket => [.refetchService ticket]
  | removeProvider path => [.removeProvider path]

theorem ServiceRoster.follow_of_subject {event : Event} (h : event.subject ≠ .services)
    (roster : ServiceRoster) : roster.follow event = roster := by
  cases event <;> first | rfl | exact absurd rfl h

theorem ModemRoster.follow_of_subject {event : Event} (h : event.subject = .services)
    (roster : ModemRoster) : roster.follow event = roster := by
  cases event <;> first | rfl | cases h

/-- What every step collects, the whole run collects. -/
theorem forall_mem_foldl_collect {σ α β : Type} {step : σ → α → σ × List β} {P : β → Prop}
    (hstep : ∀ state next, ∀ item ∈ (step state next).2, P item) (items : List α)
    (state : σ × List β) (h : ∀ item ∈ state.2, P item) :
    ∀ item ∈ (items.foldl
      (fun state next ↦ ((step state.1 next).1, state.2 ++ (step state.1 next).2)) state).2,
      P item := by
  induction items generalizing state with
  | nil => exact h
  | cons next items ih =>
    apply ih
    intro item hitem
    rcases List.mem_append.1 hitem with hbefore | hnow
    · exact h item hbefore
    · exact hstep state.1 next item hnow

namespace Tracker

variable {tracker : Tracker} {action : Action}

@[simp] theorem actions_withServices? (tracker : Tracker) (services : Option ServiceRoster) :
    (tracker.withServices? services).actions = [] := by
  cases services <;> rfl

@[simp] theorem actions_withModems? (tracker : Tracker) (modems : Option ModemRoster) :
    (tracker.withModems? modems).actions = [] := by
  cases modems <;> rfl

/-- A property of the network manager only ends or begins the attachment of services. -/
theorem eq_of_mem_setManagerProperty {key : String} {value : Value}
    (h : action ∈ (tracker.setManagerProperty key value).2) :
    (∃ path, action = .detachService path) ∨ ∃ ticket, action = .attachService ticket := by
  unfold setManagerProperty setServices at h
  split at h
  · split at h
    · cases h
    · rcases List.mem_append.1 h with hremoved | hadded
      · obtain ⟨path, -, hpath⟩ := List.mem_map.1 hremoved
        exact .inl ⟨path, hpath.symm⟩
      · obtain ⟨ticket, -, hticket⟩ := List.mem_map.1 hadded
        exact .inr ⟨ticket, hticket.symm⟩
  · split at h <;> cases h

theorem subject_setManagerProperty {key : String} {value : Value}
    (h : action ∈ (tracker.setManagerProperty key value).2) : action.subject = .services := by
  rcases eq_of_mem_setManagerProperty h with ⟨path, rfl⟩ | ⟨ticket, rfl⟩ <;> rfl

theorem actions_changeService_eq (tracker : Tracker) (path : ObjectPath) (key : String)
    (value : Value) :
    (tracker.changeService path key value).actions =
      (tracker.services.change path key value).2.actions := by
  unfold changeService
  generalize tracker.services.change path key value = result
  obtain ⟨services, change⟩ := result
  cases change <;> rfl

theorem subject_changeService {path : ObjectPath} {key : String} {value : Value}
    (h : action ∈ (tracker.changeService path key value).actions) :
    action.subject = .services := by
  rw [actions_changeService_eq] at h
  cases hchange : (tracker.services.change path key value).2 <;> rw [hchange] at h
  case untracked => cases h
  case applied => cases h
  all_goals
    rw [List.mem_singleton.1 h]
    rfl

theorem subject_followModem {result : ModemRoster × ModemChange}
    (h : action ∈ (tracker.followModem result).2) : action.subject = .modems := by
  obtain ⟨modems, change⟩ := result
  cases change with
  | untracked => cases h
  | applied => cases h
  | attachSim ticket =>
    rw [List.mem_singleton.1 h]
    rfl
  | detachSim path =>
    rw [List.mem_singleton.1 h]
    rfl

theorem subject_addModem {path : ObjectPath} {properties : Properties}
    (h : action ∈ (tracker.addModem path properties).2) : action.subject = .modems := by
  rcases List.mem_append.1 h with hattach | hfollow
  · split at hattach
    · cases hattach
    · rw [List.mem_singleton.1 hattach]
      rfl
  · exact subject_followModem hfollow

/-- A command asks for nothing but a call to the SIM. -/
theorem subject_command {number : Nat} {command : SimCommand}
    (h : action ∈ (tracker.command number command).actions) : action.subject = .calls := by
  rw [command_eq] at h
  split at h
  · rw [List.mem_singleton.1 h]
    rfl
  · cases h
  · cases h

/-- An event asks only for actions about its own subject. -/
theorem subject_of_mem_handle {event : Event} (h : action ∈ (tracker.handle event).actions) :
    action.subject = event.subject := by
  cases event with
  | managerReported properties =>
    have hstep (state : Tracker) (property : String × Value) :
        ∀ asked ∈ (state.setManagerProperty property.1 property.2).2, asked.subject = .services :=
      fun _ ↦ subject_setManagerProperty
    exact forall_mem_foldl_collect hstep properties.entries _
      (fun _ hnone ↦ absurd hnone List.not_mem_nil) action h
  | managerChanged key value => exact subject_setManagerProperty h
  | serviceChanged path key value => exact subject_changeService h
  | modemsListed modems =>
    have hstep (state : Tracker) (modem : ObjectPath × Properties) :
        ∀ asked ∈ (state.addModem modem.1 modem.2).2, asked.subject = .modems :=
      fun _ ↦ subject_addModem
    exact forall_mem_foldl_collect hstep modems _
      (fun _ hnone ↦ absurd hnone List.not_mem_nil) action h
  | modemAdded path properties => exact subject_addModem h
  | modemRefreshed path properties => exact subject_followModem h
  | modemRemoved path =>
    unfold handle at h
    dsimp only at h
    split at h
    · rw [List.mem_singleton.1 h]
      rfl
    · cases h
  | modemChanged path key value => exact subject_followModem h
  | commanded number command => exact subject_command h
  | _ => simp [handle] at h

theorem subject_ne_of_mem_handle {event : Event} (h : action ∈ (tracker.handle event).actions)
    {subject : Subject} (hevent : event.subject ≠ subject) : action.subject ≠ subject := by
  rw [subject_of_mem_handle h]
  exact hevent

end Tracker

end Uplink
