import Mathlib.Data.List.Induction
import Uplink.Tracker.Step
/-!
# Runs of the tracker

Which states the tracker can get into, and how its two halves get there: an event acts on the
services by `ServiceRoster.follow` and on the modems by `ModemRoster.follow`, and neither half looks
at the other. What is invariant in each half can therefore be proved of that half alone.
-/

namespace Uplink

open Wire (Value Properties)

namespace Tracker

/-- The states that are reached by handling events and by asking whether anything changed. -/
inductive Reachable : Tracker → Prop
  | start : Reachable {}
  | handled {tracker : Tracker} (event : Event) (h : Reachable tracker) :
    Reachable (tracker.handle event).tracker
  | asked {tracker : Tracker} (h : Reachable tracker) : Reachable tracker.takeDirty.1

/-- The tracker after these events. -/
def run (events : List Event) : Tracker :=
  events.foldl (fun tracker event ↦ (tracker.handle event).tracker) {}

@[simp] theorem run_concat (events : List Event) (event : Event) :
    run (events ++ [event]) = ((run events).handle event).tracker := by
  simp [run]

theorem reachable_run (events : List Event) : (run events).Reachable := by
  induction events using List.reverseRecOn with
  | nil => exact .start
  | append_singleton events event ih =>
    rw [run_concat]
    exact .handled event ih

/-- The path of a modem. -/
def onlyModem : ObjectPath := ⟨"/modem", by decide⟩

/-- A modem comes with a SIM that waits for its PIN. -/
def lockedSim : List Event :=
  [.modemAdded onlyModem (.ofPairs [("Interfaces", .ofTexts [Modem.simManagerInterface])]),
    .simFetched ⟨onlyModem, 1⟩ (.ofPairs [("PinRequired", .text "pin")])]

end Tracker

namespace ServiceRoster

/-- Takes one property of the network manager, of which only the list of services matters here. -/
def followManager (roster : ServiceRoster) (key : String) (value : Value) : ServiceRoster :=
  if key = "Services" then
    match value.paths? with
    | some paths => (roster.reconcile paths).1
    | none => roster
  else roster

/-- What an event does to the services. -/
def follow (roster : ServiceRoster) : Event → ServiceRoster
  | .managerReported properties =>
    properties.entries.foldl (fun roster property ↦ roster.followManager property.1 property.2)
      roster
  | .managerChanged key value => roster.followManager key value
  | .serviceFetched ticket properties => (roster.completeFetch? ticket properties).getD roster
  | .serviceChanged path key value => (roster.change path key value).1
  | .passphraseSubmitted path passphrase => (roster.echoPassphrase? path passphrase).getD roster
  | .serviceForgotten path => (roster.forgetPassphrase? path).getD roster
  | _ => roster

end ServiceRoster

namespace ModemRoster

/-- What a command does to the modems: it notes a credential, or is refused. -/
def command (roster : ModemRoster) : SimCommand → ModemRoster
  | .enter modem pin =>
    match roster.enter modem pin with
    | .ok (roster, _) => roster
    | .error _ => roster
  | .submitPuk modem puk =>
    match roster.submitPuk modem puk with
    | .ok roster => roster
    | .error _ => roster
  | .reset .. => roster
  | .change modem kind oldPin newPin =>
    match roster.changePin modem kind oldPin newPin with
    | .ok (roster, _) => roster
    | .error _ => roster

/-- What a command comes to: the modems afterwards, with the request that is to be sent if there is
one, or why it is refused. -/
def carryOut (roster : ModemRoster) :
    SimCommand → Except Failure (ModemRoster × Option SimRequest)
  | .enter modem pin => (roster.enter modem pin).map fun prepared ↦ (prepared.1, some prepared.2)
  | .submitPuk modem puk => (roster.submitPuk modem puk).map fun modems ↦ (modems, none)
  | .reset modem newPin => (roster.reset modem newPin).map fun request ↦ (roster, some request)
  | .change modem kind oldPin newPin =>
    (roster.changePin modem kind oldPin newPin).map fun prepared ↦ (prepared.1, some prepared.2)

theorem command_eq_carryOut (roster : ModemRoster) (command : SimCommand) :
    roster.command command =
      match roster.carryOut command with
      | .ok (modems, _) => modems
      | .error _ => roster := by
  cases command with
  | enter modem pin =>
    unfold ModemRoster.command carryOut
    dsimp only
    cases roster.enter modem pin <;> rfl
  | submitPuk modem puk =>
    unfold ModemRoster.command carryOut
    dsimp only
    cases roster.submitPuk modem puk <;> rfl
  | reset modem newPin =>
    unfold ModemRoster.command carryOut
    dsimp only
    cases roster.reset modem newPin <;> rfl
  | change modem kind oldPin newPin =>
    unfold ModemRoster.command carryOut
    dsimp only
    cases roster.changePin modem kind oldPin newPin <;> rfl

/-- What an event does to the modems. -/
def follow (roster : ModemRoster) : Event → ModemRoster
  | .modemsListed modems => modems.foldl (fun roster modem ↦ (roster.add modem.1 modem.2).1) roster
  | .modemAdded path properties => (roster.add path properties).1
  | .modemRefreshed path properties => (roster.refresh path properties).1
  | .modemRemoved path => (roster.remove? path).getD roster
  | .modemChanged path key value => (roster.change path key value).1
  | .simFetched ticket properties => (roster.completeFetch? ticket properties).getD roster
  | .simChanged path key value => (roster.changeSim? path key value).getD roster
  | .commanded _ command => roster.command command
  | .callFinished call outcome => roster.complete call.modem call.request outcome
  | _ => roster

end ModemRoster

/-- What a run of steps makes of the state does not depend on what it collects on the way. -/
theorem foldl_collect_fst {σ α β : Type} (step : σ → α → σ × List β) (items : List α)
    (state : σ × List β) :
    (items.foldl (fun state item ↦ ((step state.1 item).1, state.2 ++ (step state.1 item).2))
      state).1 = items.foldl (fun state item ↦ (step state item).1) state.1 := by
  induction items generalizing state with
  | nil => rfl
  | cons item items ih => exact ih _

theorem foldl_collect_snd {σ α β : Type} (step : σ → α → σ × List β) (items : List α)
    (state : σ) (collected : List β) :
    (items.foldl (fun state item ↦ ((step state.1 item).1, state.2 ++ (step state.1 item).2))
      (state, collected)).2 =
    collected ++ (items.foldl
      (fun state item ↦ ((step state.1 item).1, state.2 ++ (step state.1 item).2))
      (state, [])).2 := by
  induction items generalizing state collected with
  | nil => simp
  | cons item items ih =>
    rw [List.foldl_cons, List.foldl_cons, ih, ih (step state item).1 ([] ++ _)]
    simp

/-- A run of steps is its first step, and the run from there. -/
theorem foldl_collect_cons {σ α β : Type} (step : σ → α → σ × List β) (item : α)
    (items : List α) (state : σ) :
    let collect (state : σ × List β) (item : α) : σ × List β :=
      ((step state.1 item).1, state.2 ++ (step state.1 item).2)
    let rest := items.foldl collect ((step state item).1, [])
    (item :: items).foldl collect (state, []) = (rest.1, (step state item).2 ++ rest.2) := by
  intro collect rest
  refine Prod.ext ?_ (foldl_collect_snd step items (step state item).1 _)
  rw [foldl_collect_fst, foldl_collect_fst]
  rfl

namespace ServiceRoster

theorem change_of_untracked {roster : ServiceRoster} {path : ObjectPath} {key : String}
    {value : Value} (h : (roster.change path key value).2 = .untracked) :
    (roster.change path key value).1 = roster := by
  unfold change at h ⊢
  cases hentry : roster.get? path with
  | none => rfl
  | some entry =>
    rw [hentry] at h
    dsimp only at h
    split at h
    · cases h
    · split at h
      · split at h <;> cases h
      · cases h

end ServiceRoster

namespace ModemRoster

theorem setSimManager_ne_untracked (roster : ModemRoster) (entry : Entry) (attached : Bool) :
    (roster.setSimManager entry attached).2 ≠ .untracked := by
  unfold setSimManager
  cases entry.modem.hasSimManager <;> cases attached <;> simp

theorem setProperty_ne_untracked (roster : ModemRoster) (entry : Entry) (key : String)
    (value : Value) : (roster.setProperty entry key value).2 ≠ .untracked := by
  unfold setProperty
  split
  case h_6 => exact setSimManager_ne_untracked roster _ _
  all_goals simp

theorem change_of_untracked {roster : ModemRoster} {path : ObjectPath} {key : String}
    {value : Value} (h : (roster.change path key value).2 = .untracked) :
    (roster.change path key value).1 = roster := by
  unfold change at h ⊢
  cases hentry : roster.entries.get? path with
  | none => rfl
  | some entry =>
    rw [hentry] at h
    exact absurd h (setProperty_ne_untracked roster entry key value)

theorem laterChange_ne_untracked {earlier later : ModemChange} (h : earlier ≠ .untracked) :
    laterChange earlier later ≠ .untracked := by
  cases later <;> simp [laterChange, h]

/-- What holds at first, and is kept by each property of a report, holds after the report. -/
theorem merge_induction {P : ModemRoster × ModemChange → Prop} (roster : ModemRoster)
    (path : ObjectPath) (properties : Properties) (hstart : P (roster, .applied))
    (hchange : ∀ (state : ModemRoster × ModemChange) (key : String) (value : Value), P state →
      P ((state.1.change path key value).1,
        laterChange state.2 (state.1.change path key value).2)) :
    P (roster.merge path properties) := by
  unfold merge
  generalize (roster, ModemChange.applied) = state at hstart ⊢
  induction properties.entries generalizing state with
  | nil => exact hstart
  | cons entry entries ih => exact ih _ (hchange state entry.1 entry.2 hstart)

theorem merge_ne_untracked (roster : ModemRoster) (path : ObjectPath) (properties : Properties) :
    (roster.merge path properties).2 ≠ .untracked := by
  apply merge_induction (P := fun state ↦ state.2 ≠ .untracked)
  · exact ModemChange.noConfusion
  · exact fun state key value hstate ↦ laterChange_ne_untracked hstate

theorem add_ne_untracked (roster : ModemRoster) (path : ObjectPath) (properties : Properties) :
    (roster.add path properties).2 ≠ .untracked := merge_ne_untracked _ path properties

theorem refresh_of_untracked {roster : ModemRoster} {path : ObjectPath} {properties : Properties}
    (h : (roster.refresh path properties).2 = .untracked) :
    (roster.refresh path properties).1 = roster := by
  unfold refresh at h ⊢
  split
  next htracked =>
    rw [if_pos htracked] at h
    exact absurd h (add_ne_untracked roster path properties)
  next => rfl

end ModemRoster

namespace Tracker

theorem services_setServices (tracker : Tracker) (value : Value) :
    (tracker.setServices value).1.services =
      match value.paths? with
      | some paths => (tracker.services.reconcile paths).1
      | none => tracker.services := by
  unfold setServices
  cases value.paths? with
  | none => rfl
  | some paths => dsimp only; split <;> rfl

theorem modems_setServices (tracker : Tracker) (value : Value) :
    (tracker.setServices value).1.modems = tracker.modems := by
  unfold setServices
  cases value.paths? with
  | none => rfl
  | some paths => dsimp only; split <;> rfl

theorem services_setManagerProperty (tracker : Tracker) (key : String) (value : Value) :
    (tracker.setManagerProperty key value).1.services =
      tracker.services.followManager key value := by
  unfold setManagerProperty ServiceRoster.followManager
  split
  · exact services_setServices tracker value
  · split <;> rfl

theorem modems_setManagerProperty (tracker : Tracker) (key : String) (value : Value) :
    (tracker.setManagerProperty key value).1.modems = tracker.modems := by
  unfold setManagerProperty
  split
  · exact modems_setServices tracker value
  · split <;> rfl

theorem setManagerProperties_fst (tracker : Tracker) (properties : List (String × Value)) :
    (tracker.setManagerProperties properties).1 =
      properties.foldl
        (fun tracker property ↦ (tracker.setManagerProperty property.1 property.2).1) tracker := by
  exact foldl_collect_fst
    (fun (tracker : Tracker) property ↦ tracker.setManagerProperty property.1 property.2)
    properties (tracker, [])

theorem services_setManagerProperties (tracker : Tracker) (properties : List (String × Value)) :
    (tracker.setManagerProperties properties).1.services =
      properties.foldl (fun roster property ↦ roster.followManager property.1 property.2)
        tracker.services := by
  rw [setManagerProperties_fst]
  induction properties generalizing tracker with
  | nil => rfl
  | cons property properties ih =>
    rw [List.foldl_cons, ih, services_setManagerProperty, List.foldl_cons]

theorem modems_setManagerProperties (tracker : Tracker) (properties : List (String × Value)) :
    (tracker.setManagerProperties properties).1.modems = tracker.modems := by
  rw [setManagerProperties_fst]
  induction properties generalizing tracker with
  | nil => rfl
  | cons property properties ih => rw [List.foldl_cons, ih, modems_setManagerProperty]

@[simp] theorem services_followModem (tracker : Tracker) (result : ModemRoster × ModemChange) :
    (tracker.followModem result).1.services = tracker.services := by
  obtain ⟨modems, change⟩ := result
  cases change <;> rfl

theorem modems_followModem (tracker : Tracker) (result : ModemRoster × ModemChange)
    (h : result.2 = .untracked → result.1 = tracker.modems) :
    (tracker.followModem result).1.modems = result.1 := by
  obtain ⟨modems, change⟩ := result
  cases change with
  | untracked => exact (h rfl).symm
  | _ => rfl

theorem services_addModem (tracker : Tracker) (path : ObjectPath) (properties : Properties) :
    (tracker.addModem path properties).1.services = tracker.services :=
  services_followModem tracker _

theorem modems_addModem (tracker : Tracker) (path : ObjectPath) (properties : Properties) :
    (tracker.addModem path properties).1.modems = (tracker.modems.add path properties).1 :=
  modems_followModem tracker _ fun h ↦
    absurd h (ModemRoster.add_ne_untracked tracker.modems path properties)

theorem addModems_fst (tracker : Tracker) (modems : List (ObjectPath × Properties)) :
    (tracker.addModems modems).1 =
      modems.foldl (fun tracker modem ↦ (tracker.addModem modem.1 modem.2).1) tracker := by
  exact foldl_collect_fst (fun (tracker : Tracker) modem ↦ tracker.addModem modem.1 modem.2)
    modems (tracker, [])

theorem services_addModems (tracker : Tracker) (modems : List (ObjectPath × Properties)) :
    (tracker.addModems modems).1.services = tracker.services := by
  rw [addModems_fst]
  induction modems generalizing tracker with
  | nil => rfl
  | cons modem modems ih => rw [List.foldl_cons, ih, services_addModem]

theorem modems_addModems (tracker : Tracker) (modems : List (ObjectPath × Properties)) :
    (tracker.addModems modems).1.modems =
      modems.foldl (fun roster modem ↦ (roster.add modem.1 modem.2).1) tracker.modems := by
  rw [addModems_fst]
  induction modems generalizing tracker with
  | nil => rfl
  | cons modem modems ih => rw [List.foldl_cons, ih, modems_addModem, List.foldl_cons]

theorem services_changeService (tracker : Tracker) (path : ObjectPath) (key : String)
    (value : Value) : (tracker.changeService path key value).tracker.services =
      (tracker.services.change path key value).1 := by
  unfold changeService
  split
  next services h =>
    have hsame := ServiceRoster.change_of_untracked (congrArg Prod.snd h)
    exact hsame.symm
  all_goals
    next h => rw [h]; rfl

theorem modems_changeService (tracker : Tracker) (path : ObjectPath) (key : String)
    (value : Value) :
    (tracker.changeService path key value).tracker.modems = tracker.modems := by
  unfold changeService
  split <;> rfl

/-- A command that is carried out leads to a call or is answered at once, as is one that is refused.
-/
theorem command_eq (tracker : Tracker) (number : Nat) (command : SimCommand) :
    tracker.command number command =
      match tracker.modems.carryOut command with
      | .ok (modems, some request) =>
        { tracker := { tracker with modems }
          actions := [.simCall ⟨number, command.modem, request⟩] }
      | .ok (modems, none) =>
        { tracker := tracker.withModems modems, replies := [⟨number, .ok ()⟩] }
      | .error failure => tracker.refused number failure := by
  cases command with
  | enter modem pin =>
    unfold Tracker.command ModemRoster.carryOut
    dsimp only
    cases tracker.modems.enter modem pin <;> rfl
  | submitPuk modem puk =>
    unfold Tracker.command ModemRoster.carryOut
    dsimp only
    cases tracker.modems.submitPuk modem puk <;> rfl
  | reset modem newPin =>
    unfold Tracker.command ModemRoster.carryOut
    dsimp only
    cases tracker.modems.reset modem newPin <;> rfl
  | change modem kind oldPin newPin =>
    unfold Tracker.command ModemRoster.carryOut
    dsimp only
    cases tracker.modems.changePin modem kind oldPin newPin <;> rfl

theorem services_command (tracker : Tracker) (number : Nat) (command : SimCommand) :
    (tracker.command number command).tracker.services = tracker.services := by
  rw [command_eq]
  split <;> rfl

theorem modems_command (tracker : Tracker) (number : Nat) (command : SimCommand) :
    (tracker.command number command).tracker.modems = tracker.modems.command command := by
  rw [command_eq, ModemRoster.command_eq_carryOut]
  cases tracker.modems.carryOut command with
  | error failure => rfl
  | ok result =>
    obtain ⟨modems, request⟩ := result
    cases request <;> rfl

/-- An event acts on the services alone, whatever the modems are. -/
theorem services_handle (tracker : Tracker) (event : Event) :
    (tracker.handle event).tracker.services = tracker.services.follow event := by
  cases event with
  | managerReported properties => exact services_setManagerProperties _ properties.entries
  | managerChanged key value => exact services_setManagerProperty tracker key value
  | serviceFetched ticket properties =>
    simp only [handle, ServiceRoster.follow]
    cases tracker.services.completeFetch? ticket properties <;> rfl
  | serviceChanged path key value => exact services_changeService tracker path key value
  | modemsListed modems => exact services_addModems tracker modems
  | modemAdded path properties => exact services_addModem tracker path properties
  | modemRefreshed path properties => exact services_followModem tracker _
  | modemRemoved path =>
    simp only [handle]
    cases tracker.modems.remove? path <;> rfl
  | modemChanged path key value => exact services_followModem tracker _
  | simFetched ticket properties =>
    simp only [handle]
    cases tracker.modems.completeFetch? ticket properties <;> rfl
  | simChanged path key value =>
    simp only [handle]
    cases tracker.modems.changeSim? path key value <;> rfl
  | passphraseSubmitted path passphrase =>
    simp only [handle, ServiceRoster.follow]
    cases tracker.services.echoPassphrase? path passphrase <;> rfl
  | serviceForgotten path =>
    simp only [handle, ServiceRoster.follow]
    cases tracker.services.forgetPassphrase? path <;> rfl
  | commanded number command => exact services_command tracker number command
  | callFinished call outcome => rfl
  | shutdown => rfl

/-- An event acts on the modems alone, whatever the services are. -/
theorem modems_handle (tracker : Tracker) (event : Event) :
    (tracker.handle event).tracker.modems = tracker.modems.follow event := by
  cases event with
  | managerReported properties => exact modems_setManagerProperties _ properties.entries
  | managerChanged key value => exact modems_setManagerProperty tracker key value
  | serviceFetched ticket properties =>
    simp only [handle]
    cases tracker.services.completeFetch? ticket properties <;> rfl
  | serviceChanged path key value => exact modems_changeService tracker path key value
  | modemsListed modems => exact modems_addModems tracker modems
  | modemAdded path properties => exact modems_addModem tracker path properties
  | modemRefreshed path properties =>
    exact modems_followModem tracker _ ModemRoster.refresh_of_untracked
  | modemRemoved path =>
    simp only [handle, ModemRoster.follow]
    cases tracker.modems.remove? path <;> rfl
  | modemChanged path key value =>
    exact modems_followModem tracker _ ModemRoster.change_of_untracked
  | simFetched ticket properties =>
    simp only [handle, ModemRoster.follow]
    cases tracker.modems.completeFetch? ticket properties <;> rfl
  | simChanged path key value =>
    simp only [handle, ModemRoster.follow]
    cases tracker.modems.changeSim? path key value <;> rfl
  | passphraseSubmitted path passphrase =>
    simp only [handle]
    cases tracker.services.echoPassphrase? path passphrase <;> rfl
  | serviceForgotten path =>
    simp only [handle]
    cases tracker.services.forgetPassphrase? path <;> rfl
  | commanded number command => exact modems_command tracker number command
  | callFinished call outcome => rfl
  | shutdown => rfl

end Tracker

end Uplink
