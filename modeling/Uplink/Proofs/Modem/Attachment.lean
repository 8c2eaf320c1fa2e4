import Uplink.Proofs.Modem.Course
import Uplink.Proofs.Tracker.History
/-!
# Which replies about SIMs are taken

Every attachment of a SIM manager has a ticket of its own. Which one the entry of a modem shows is
told by the last action that is about its SIM manager: the ticket of that action if it began an
attachment, and none if it ended one, be it with the modem or without. The reply to any other fetch
is late, and changes nothing.
-/

namespace Uplink

open Wire (Value Properties)

namespace Action

/-- Whether the action begins or ends an attachment of the SIM manager at this path. -/
def concernsSim (path : ObjectPath) : Action → Bool
  | attachSim ticket => ticket.path = path
  | detachSim other => other = path
  | detachModem other => other = path
  | _ => false

/-- The ticket of the attachment that the action begins. -/
def simTicket? : Action → Option Ticket
  | attachSim ticket => some ticket
  | _ => none

/-- The last of these actions that begins or ends an attachment of the SIM manager at this path. -/
def lastOfSim? (actions : List Action) (path : ObjectPath) : Option Action :=
  (actions.filter (concernsSim path)).getLast?

variable {path : ObjectPath} {action : Action} {actions : List Action}

theorem lastOfSim?_append (earlier later : List Action) (path : ObjectPath) :
    lastOfSim? (earlier ++ later) path = (lastOfSim? later path).or (lastOfSim? earlier path) := by
  unfold lastOfSim?
  rw [List.filter_append, List.getLast?_append]

theorem lastOfSim?_singleton (action : Action) (path : ObjectPath) :
    lastOfSim? [action] path = if concernsSim path action then some action else none := by
  unfold lastOfSim?
  rw [List.filter_singleton]
  cases concernsSim path action <;> rfl

theorem concernsSim_of_subject (h : action.subject ≠ .modems) (path : ObjectPath) :
    concernsSim path action = false := by
  cases action <;> first | rfl | exact absurd rfl h

theorem simTicket?_eq_none (h : ∀ path, concernsSim path action = false) :
    action.simTicket? = none := by
  cases action with
  | attachSim ticket => simpa [concernsSim] using h ticket.path
  | _ => rfl

theorem lastOfSim?_eq_none (h : ∀ action ∈ actions, concernsSim path action = false) :
    lastOfSim? actions path = none := by
  unfold lastOfSim?
  rw [List.getLast?_eq_none_iff, List.filter_eq_nil_iff]
  intro action haction
  rw [h action haction]
  exact Bool.false_ne_true

end Action

/-- The data of a SIM. -/
structure SimData where
  present : Bool
  identity : Option String
  retries : Retries
  required : Option CredentialKind

/-- The data that a full report of a SIM stands for. -/
def SimData.ofReport (properties : Properties) : SimData where
  present := (properties.get? "Present" >>= Value.bool?).getD false
  identity := properties.get? "SubscriberIdentity" >>= Value.nonemptyText?
  retries := (properties.get? "Retries").elim ∅ Retries.ofValue
  required := properties.get? "PinRequired" >>= CredentialKind.required?

def Modem.simData (modem : Modem) : SimData where
  present := modem.simPresent
  identity := modem.subscriberIdentity
  retries := modem.retries
  required := modem.required

theorem Counted.simData_report (counted : Counted) (properties : Properties) :
    (counted.report properties).modem.simData = .ofReport properties := rfl

namespace ModemRoster

variable {roster roster' : ModemRoster} {entry : Entry} {path : ObjectPath} {ticket : Ticket}
  {actions : List Action}

/-- The ticket of an attachment. -/
def Entry.simTicket? (entry : Entry) : Option Ticket :=
  if entry.modem.hasSimManager then some ⟨entry.modem.path, entry.simGeneration⟩ else none

/-- The ticket of the attachment that there is at this path. -/
def simTicket? (roster : ModemRoster) (path : ObjectPath) : Option Ticket :=
  (roster.entries.get? path).bind Entry.simTicket?

/-- A reply is taken if it shows the ticket of the attachment that there is. -/
theorem Keyed.isSome_completeFetch?_iff (hkeyed : roster.Keyed) {properties : Properties} :
    (roster.completeFetch? ticket properties).isSome = true ↔
      roster.simTicket? ticket.path = some ticket := by
  rw [Option.isSome_iff_exists, simTicket?, Option.bind_eq_some_iff]
  constructor
  · rintro ⟨roster', htaken⟩
    obtain ⟨entry, hentry, hgeneration, -⟩ := completeFetch?_eq_some_iff.1 htaken
    obtain ⟨hfind, hattached⟩ := attached?_eq_some_iff.1 hentry
    refine ⟨entry, hfind, ?_⟩
    unfold Entry.simTicket?
    rw [if_pos hattached, hkeyed.path_of_get? hfind, hgeneration]
  · rintro ⟨entry, hfind, hticket⟩
    unfold Entry.simTicket? at hticket
    split at hticket
    next hattached =>
      have hgeneration : entry.simGeneration = ticket.generation :=
        congrArg Ticket.generation (Option.some.inj hticket)
      have hentry := attached?_eq_some_iff.2 ⟨hfind, hattached⟩
      exact ⟨_, completeFetch?_eq_some_iff.2 ⟨entry, hentry, hgeneration, rfl⟩⟩
    next => cases hticket

theorem simTicket?_of_get? (h : roster.entries.get? path = some entry) :
    roster.simTicket? path = entry.simTicket? := by
  unfold simTicket?
  rw [h]
  rfl

theorem exists_attached_of_simTicket? (h : roster.simTicket? path = some ticket) :
    ∃ modem, roster.find? path.text = some modem ∧ modem.hasSimManager = true := by
  obtain ⟨entry, hfind, hticket⟩ := Option.bind_eq_some_iff.1 h
  have hattached : entry.modem.hasSimManager = true := by
    by_contra hbare
    unfold Entry.simTicket? at hticket
    rw [if_neg hbare] at hticket
    cases hticket
  exact ⟨entry.modem, find?_of_entry hfind, hattached⟩

/-- What is taken replaces all data of the SIM. -/
theorem Keyed.simData_completeFetch? (hkeyed : roster.Keyed) {properties : Properties}
    (htaken : roster.completeFetch? ticket properties = some roster') :
    (roster'.find? ticket.path.text).map Modem.simData = some (.ofReport properties) := by
  obtain ⟨entry, hentry, -, rfl⟩ := completeFetch?_eq_some_iff.1 htaken
  have hpath := hkeyed.path_of_get? (attached?_eq_some_iff.1 hentry).1
  unfold find?
  rw [find?_putCounted, if_pos (congrArg ObjectPath.text hpath)]
  exact congrArg some (Counted.simData_report _ properties)

theorem simTicket?_update {value : Option Entry}
    (h : ∀ text, roster'.entries.find? text =
      if path.text = text then value else roster.entries.find? text) (other : ObjectPath) :
    roster'.simTicket? other =
      if other = path then value.bind Entry.simTicket? else roster.simTicket? other := by
  unfold simTicket?
  rw [get?_update h]
  split <;> rfl

/-- The attachments that begin and end on the way from one roster to another: their generations
increase, and the attachment that there is in the end is the one that began last, if none ended
since. -/
structure Attends (roster : ModemRoster) (actions : List Action) (roster' : ModemRoster) :
    Prop where
  later : roster.generation ≤ roster'.generation
  within : ∀ ticket ∈ actions.filterMap Action.simTicket?,
    roster.generation < ticket.generation ∧ ticket.generation ≤ roster'.generation
  increasing : (actions.filterMap Action.simTicket?).Pairwise
    fun earlier later ↦ earlier.generation < later.generation
  current : ∀ path, roster'.simTicket? path =
    (Action.lastOfSim? actions path).elim (roster.simTicket? path) Action.simTicket?

theorem Attends.trans {roster'' : ModemRoster} {more : List Action}
    (h : Attends roster actions roster') (h' : Attends roster' more roster'') :
    Attends roster (actions ++ more) roster'' where
  later := Nat.le_trans h.later h'.later
  within ticket hticket := by
    rw [List.filterMap_append, List.mem_append] at hticket
    rcases hticket with hearlier | hlater
    · obtain ⟨hafter, hbefore⟩ := h.within ticket hearlier
      exact ⟨hafter, Nat.le_trans hbefore h'.later⟩
    · obtain ⟨hafter, hbefore⟩ := h'.within ticket hlater
      exact ⟨Nat.lt_of_le_of_lt h.later hafter, hbefore⟩
  increasing := by
    rw [List.filterMap_append, List.pairwise_append]
    refine ⟨h.increasing, h'.increasing, fun earlier hearlier later hlater ↦ ?_⟩
    calc
      earlier.generation ≤ roster'.generation := (h.within earlier hearlier).2
      _ < later.generation := (h'.within later hlater).1
  current path := by
    rw [h'.current, h.current, Action.lastOfSim?_append]
    cases Action.lastOfSim? more path <;> rfl

/-- In a run from the start, the attachment that there is shows in the actions alone. -/
theorem Attends.simTicket?_eq_some_iff (h : Attends {} actions roster) :
    roster.simTicket? path = some ticket ↔
      Action.lastOfSim? actions path = some (.attachSim ticket) := by
  have hstart : ({} : ModemRoster).simTicket? path = none := rfl
  rw [h.current, hstart]
  cases Action.lastOfSim? actions path with
  | none => simp
  | some action => cases action <;> simp [Action.simTicket?]

/-- No attachment changes, and no action says so. -/
theorem Attends.of_same (hother : ∀ action ∈ actions, ∀ path, action.concernsSim path = false)
    (hlater : roster.generation ≤ roster'.generation)
    (hsame : roster'.simTicket? = roster.simTicket?) : Attends roster actions roster' := by
  have hnone : actions.filterMap Action.simTicket? = [] :=
    List.filterMap_eq_nil_iff.2 fun action haction ↦
      Action.simTicket?_eq_none (hother action haction)
  refine ⟨hlater, ?_, ?_, fun path ↦ ?_⟩
  · intro ticket hticket
    rw [hnone] at hticket
    cases hticket
  · rw [hnone]
    exact .nil
  · have hlast : Action.lastOfSim? actions path = none :=
      Action.lastOfSim?_eq_none fun action haction ↦ hother action haction path
    rw [hlast, hsame]
    rfl

/-- An entry is changed in its place, and its attachment stays as it is. -/
theorem Attends.of_put (hentry : roster.Holds entry) {changed : Entry}
    (hfind : ∀ text, roster'.entries.find? text =
      if entry.modem.path.text = text then some changed else roster.entries.find? text)
    (hticket : changed.simTicket? = entry.simTicket?)
    (hgeneration : roster'.generation = roster.generation) : Attends roster [] roster' := by
  refine .of_same (fun _ hnone ↦ absurd hnone List.not_mem_nil) (Nat.le_of_eq hgeneration.symm) ?_
  funext path
  rw [simTicket?_update hfind]
  split
  next hpath =>
    rw [hpath, simTicket?_of_get? hentry]
    exact hticket
  next => rfl

/-- One attachment begins or ends, as the action says. -/
theorem Attends.of_action {action : Action} {value : Option Entry}
    (hfind : ∀ text, roster'.entries.find? text =
      if path.text = text then value else roster.entries.find? text)
    (hconcerns : ∀ other, action.concernsSim other = decide (other = path))
    (hticket : value.bind Entry.simTicket? = action.simTicket?)
    (hgeneration : ∀ ticket, action.simTicket? = some ticket →
      roster.generation < ticket.generation ∧ ticket.generation ≤ roster'.generation)
    (hlater : roster.generation ≤ roster'.generation) : Attends roster [action] roster' where
  later := hlater
  within ticket hgiven := by
    obtain ⟨asked, hasked, hticket⟩ := List.mem_filterMap.1 hgiven
    rw [List.mem_singleton.1 hasked] at hticket
    exact hgeneration ticket hticket
  increasing := by
    cases h : action.simTicket? with
    | none => simp [h]
    | some ticket => simp [h]
  current other := by
    rw [simTicket?_update hfind, Action.lastOfSim?_singleton, hconcerns, hticket]
    by_cases hother : other = path <;> simp [hother]

theorem Course.attends {typed : Prop} (h : Course typed roster actions roster')
    (hkeyed : roster.Keyed) : Attends roster actions roster' := by
  induction h with
  | idle hcalls =>
    refine .of_same (fun action haction ↦ Action.concernsSim_of_subject ?_) (Nat.le_refl _) rfl
    rw [hcalls action haction]
    exact Subject.noConfusion
  | trans h _ ih ih' => exact (ih hkeyed).trans (ih' (h.keyed hkeyed))
  | @announce roster path hfresh =>
    refine .of_same (fun action haction other ↦ ?_) (Nat.le_refl _) (funext fun other ↦ ?_)
    · rw [List.mem_singleton.1 haction]
      rfl
    · rw [simTicket?_update (find?_put roster _)]
      split
      next hpath =>
        unfold simTicket?
        rw [hpath, hfresh]
        rfl
      next => rfl
  | @describe roster entry modem hentry hsame =>
    have hfind := find?_put roster { entry with modem }
    dsimp only at hfind
    rw [← hsame.path] at hfind
    refine .of_put hentry hfind ?_ rfl
    unfold Entry.simTicket?
    rw [hsame.path, hsame.hasSimManager]
  | count => exact .of_same (fun _ hnone ↦ absurd hnone List.not_mem_nil) (Nat.le_succ _) rfl
  | attach hentry hbare =>
    refine .of_action (find?_put _ _) (fun other ↦ decide_eq_decide.2 eq_comm) rfl ?_
      (Nat.le_succ _)
    rintro ticket ⟨⟩
    exact ⟨Nat.lt_succ_self _, Nat.le_refl _⟩
  | detach hentry hattached =>
    refine .of_action (find?_putCounted _ _ _) (fun other ↦ decide_eq_decide.2 eq_comm) rfl ?_
      (Nat.le_succ _)
    rintro ticket ⟨⟩
  | report hentry hattached => exact .of_put hentry (find?_putCounted _ _ _) rfl rfl
  | change hentry hattached hchange =>
    refine .of_put hentry (find?_putCounted _ _ _) ?_ rfl
    unfold Entry.simTicket?
    rw [Counted.path_setProperty? hchange, Counted.hasSimManager_setProperty? hchange]
    rfl
  | note hentry hattached kind => exact .of_put hentry (find?_put _ _) rfl rfl
  | submit hentry hattached htyped hsubmit => exact .of_put hentry (find?_put _ _) rfl rfl
  | complete hentry => exact .of_put hentry (find?_put _ _) rfl rfl
  | @forget roster entry hentry =>
    have hgone := find?_erase roster entry.modem.path (roster.counted entry).clearSim.totals
    refine .of_action hgone (fun other ↦ decide_eq_decide.2 eq_comm) rfl ?_ (Nat.le_refl _)
    rintro ticket ⟨⟩

end ModemRoster

namespace Tracker

variable {tracker : Tracker}

theorem attends_handle (hkeyed : tracker.modems.Keyed) (event : Event) :
    tracker.modems.Attends (tracker.handle event).actions
      (tracker.handle event).tracker.modems := by
  by_cases hsubject : event.subject = .services
  · rw [modems_handle_of_services hsubject]
    refine .of_same (fun action haction ↦ Action.concernsSim_of_subject ?_) (Nat.le_refl _) rfl
    exact subject_ne_of_mem_handle haction (hsubject ▸ Subject.noConfusion)
  · exact (course_handle hkeyed hsubject).attends hkeyed

end Tracker

namespace Publisher

theorem attends_emitted (events : List Event) :
    ModemRoster.Attends {} (emitted events) (run events).tracker.modems := by
  apply emitted_induction (R := fun actions tracker ↦ ModemRoster.Attends {} actions tracker.modems)
  · exact .of_same (fun _ hnone ↦ absurd hnone List.not_mem_nil) (Nat.le_refl _) rfl
  · exact fun actions tracker event h hattends ↦
      hattends.trans (Tracker.attends_handle h.keyed event)

/-- The attachments of a run have tickets of increasing generations. A reply about a SIM is taken
exactly if the SIM manager of the modem is attached and the last action that began or ended an
attachment of it gave out the ticket of the reply. What is taken replaces all data of the SIM; any
other reply changes nothing and asks for nothing. -/
theorem simFetched_taken_iff (events : List Event) :
    let tracker := (run events).tracker
    let issued := (emitted events).filterMap Action.simTicket?
    issued.Pairwise (fun earlier later ↦ earlier.generation < later.generation) ∧
    ∀ (ticket : Ticket) (properties : Properties),
      ((tracker.modems.completeFetch? ticket properties).isSome = true ↔
        (∃ modem, tracker.modems.find? ticket.path.text = some modem ∧
          modem.hasSimManager = true) ∧
        Action.lastOfSim? (emitted events) ticket.path = some (.attachSim ticket)) ∧
      (tracker.modems.completeFetch? ticket properties = none →
        tracker.handle (.simFetched ticket properties) = { tracker }) ∧
      ((tracker.modems.completeFetch? ticket properties).isSome = true →
        ((tracker.handle (.simFetched ticket properties)).tracker.modems.find?
          ticket.path.text).map Modem.simData = some (.ofReport properties)) := by
  intro tracker issued
  have hattends : ModemRoster.Attends {} (emitted events) tracker.modems := attends_emitted events
  have hkeyed : tracker.modems.Keyed := (reachable_run events).keyed
  refine ⟨hattends.increasing, fun ticket properties ↦ ⟨?_, ?_, ?_⟩⟩
  · rw [hkeyed.isSome_completeFetch?_iff, hattends.simTicket?_eq_some_iff]
    constructor
    · intro hlast
      have hshown := hattends.simTicket?_eq_some_iff.2 hlast
      exact ⟨ModemRoster.exists_attached_of_simTicket? hshown, hlast⟩
    · exact And.right
  · intro hrejected
    unfold Tracker.handle
    dsimp only
    rw [hrejected]
    rfl
  · intro haccepted
    obtain ⟨modems, htaken⟩ := Option.isSome_iff_exists.1 haccepted
    rw [Tracker.modems_handle]
    unfold ModemRoster.follow
    dsimp only
    rw [htaken]
    exact hkeyed.simData_completeFetch? htaken

/-- A SIM manager is reported twice, goes, and comes back with the modem. -/
def reattached : List Event :=
  let properties := Properties.ofPairs [("Interfaces", .ofTexts [Modem.simManagerInterface])]
  [.modemAdded Tracker.onlyModem properties,
    .modemChanged Tracker.onlyModem "Interfaces" (.ofTexts [Modem.simManagerInterface]),
    .modemChanged Tracker.onlyModem "Interfaces" (.ofTexts []),
    .modemRemoved Tracker.onlyModem, .modemAdded Tracker.onlyModem properties]

/-- Of its two tickets, and of all others, only the last one is of use. -/
theorem simFetched_taken_reattached :
    let modems := (run reattached).tracker.modems
    (emitted reattached).filterMap Action.simTicket? =
        [⟨Tracker.onlyModem, 1⟩, ⟨Tracker.onlyModem, 4⟩] ∧
      ∀ generation properties,
        (modems.completeFetch? ⟨Tracker.onlyModem, generation⟩ properties).isSome = true ↔
          generation = 4 := by
  intro modems
  have hlast : Action.lastOfSim? (emitted reattached) Tracker.onlyModem =
      some (.attachSim ⟨Tracker.onlyModem, 4⟩) := by decide +kernel
  have hattached : (modems.find? Tracker.onlyModem.text).any Modem.hasSimManager = true := by
    decide +kernel
  obtain ⟨-, htaken⟩ := simFetched_taken_iff reattached
  refine ⟨by decide +kernel, fun generation properties ↦ ⟨fun haccepted ↦ ?_, ?_⟩⟩
  · have hshown := ((htaken _ _).1.1 haccepted).2
    rw [hlast] at hshown
    have hticket := Action.attachSim.inj (Option.some.inj hshown)
    exact (congrArg Ticket.generation hticket).symm
  · rintro rfl
    exact (htaken _ _).1.2 ⟨(Option.any_eq_true _ _).1 hattached, hlast⟩

end Publisher

end Uplink
