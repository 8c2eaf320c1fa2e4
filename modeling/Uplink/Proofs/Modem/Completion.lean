import Uplink.Proofs.Modem.Course
/-!
# Calls that outlive their SIM

The end of a call to a SIM is taken by the modem that is at the path of the call at that time, and
no other part of the state changes. Nothing relates the call to the attachment of the SIM manager
for which it was made: the SIM of that time can be gone, and another one in its place. What such a
late end changes is exact, and a modem without a SIM manager can only get a fault from it.
-/

namespace Uplink

open Wire (Value Properties)

namespace Modem

/-- Whether the lock of a modem without a SIM manager is as new, but for the fault of the call that
ended last. -/
def BareButFault (modem : Modem) : Prop :=
  modem.hasSimManager = false → modem.lock = { lastFault := modem.lock.lastFault }

theorem stable_bareButFault : Stable BareButFault := by
  apply Stable.of_bare
  · exact fun path ↦ rfl
  · intro modem described h hsame
    rw [← hsame.lock]
    exact h
  · exact fun modem ↦ rfl
  · intro modem request outcome hlock
    have hstate : modem.lock.state = .clear := by rw [hlock]
    have hpuk : modem.lock.pendingPuk = none := by rw [hlock]
    change modem.lock.complete request outcome =
      { lastFault := (modem.lock.complete request outcome).lastFault }
    rw [SimLock.complete_of_clear hstate hpuk, hlock]

end Modem

namespace ModemRoster

variable {roster : ModemRoster}

theorem find?_complete (hkeyed : roster.Keyed) (path : String) (request : SimRequest)
    (outcome : Outcome) (text : String) :
    (roster.complete path request outcome).find? text =
      if path = text then
        (roster.find? path).map fun modem ↦
          { modem with lock := modem.lock.complete request outcome }
      else roster.find? text := by
  unfold complete find?
  cases hfind : roster.entries.find? path with
  | none =>
    dsimp only
    split
    next htext =>
      rw [← htext, hfind]
      rfl
    next => rfl
  | some entry =>
    have hpath : entry.modem.path.text = path := hkeyed path entry hfind
    dsimp only [setLock]
    rw [find?_put]
    dsimp only
    rw [hpath]
    split <;> rfl

/-- The end of a call leaves the modems alone exactly if the lock that takes it does. -/
theorem complete_eq_self_iff (hkeyed : roster.Keyed) {path : String} {request : SimRequest}
    {outcome : Outcome} :
    roster.complete path request outcome = roster ↔
      ∀ modem, roster.find? path = some modem → modem.lock.Ignores request outcome := by
  constructor
  · intro hsame modem hfind
    have hafter := find?_complete hkeyed path request outcome path
    rw [hsame, if_pos rfl, hfind] at hafter
    have hlock : modem.lock = modem.lock.complete request outcome :=
      congrArg Modem.lock (Option.some.inj hafter)
    exact SimLock.complete_eq_self_iff.1 hlock.symm
  · intro hignores
    unfold complete
    cases hfind : roster.entries.find? path with
    | none => rfl
    | some entry =>
      have hlock := SimLock.complete_eq_self_iff.2 (hignores entry.modem (find?_of_entry hfind))
      dsimp only [setLock]
      rw [hlock]
      exact put_eq_self (hkeyed.holds hfind)

end ModemRoster

namespace Tracker

/-- A PIN is typed in for one SIM; before the call ends, another SIM has come that waits for one
as well. -/
def swappedSim : List Event :=
  let manager := Value.ofTexts [Modem.simManagerInterface]
  lockedSim ++
    [.commanded 0 (.enter "/modem" "1234"), .modemChanged onlyModem "Interfaces" (.ofTexts []),
      .modemChanged onlyModem "Interfaces" manager,
      .simFetched ⟨onlyModem, 3⟩ (.ofPairs [("PinRequired", .text "pin")])]

/-- The end of a call, however late it comes, is taken by the modem that is at its path now, and by
its lock alone. It changes nothing exactly if there is no such modem or its lock ignores the end;
in a modem without a SIM manager, whose lock is otherwise as new, it leaves its fault. -/
theorem callFinished_changes {tracker : Tracker} (h : tracker.Reachable) (call : SimCall)
    (outcome : Outcome) :
    let after := (tracker.handle (.callFinished call outcome)).tracker
    (after.manager = tracker.manager ∧ after.services = tracker.services ∧
      after.modems.totals = tracker.modems.totals ∧
      ∀ text, text ≠ call.modem → after.modems.find? text = tracker.modems.find? text) ∧
    (after.modems = tracker.modems ↔
      ∀ modem, tracker.modems.find? call.modem = some modem →
        modem.lock.Ignores call.request outcome) ∧
    (∀ modem, tracker.modems.find? call.modem = some modem →
      after.modems.find? call.modem =
        some { modem with lock := modem.lock.complete call.request outcome } ∧
      (modem.hasSimManager = false →
        after.modems.find? call.modem =
          some { modem with lock := { lastFault := outcome.fault? } })) ∧
    ∀ text modem, tracker.modems.find? text = some modem → modem.hasSimManager = false →
      modem.lock = { lastFault := modem.lock.lastFault } := by
  intro after
  have hmodems : after.modems = tracker.modems.complete call.modem call.request outcome := rfl
  have hkeyed := h.keyed
  have hbare (text : String) (modem : Modem) (hfind : tracker.modems.find? text = some modem) :
      modem.BareButFault := by
    obtain ⟨entry, hentry, rfl⟩ := Option.map_eq_some_iff.1 hfind
    exact h.all Modem.stable_bareButFault text entry hentry
  have hother (text : String) (htext : text ≠ call.modem) :
      after.modems.find? text = tracker.modems.find? text := by
    rw [hmodems, ModemRoster.find?_complete hkeyed, if_neg htext.symm]
  have hthis (modem : Modem) (hfind : tracker.modems.find? call.modem = some modem) :
      after.modems.find? call.modem =
        some { modem with lock := modem.lock.complete call.request outcome } := by
    rw [hmodems, ModemRoster.find?_complete hkeyed, if_pos rfl, hfind]
    rfl
  refine ⟨⟨rfl, rfl, ?_, hother⟩, ModemRoster.complete_eq_self_iff hkeyed, ?_, hbare⟩
  · rw [hmodems]
    unfold ModemRoster.complete
    split <;> rfl
  · intro modem hfind
    refine ⟨hthis modem hfind, fun hmanager ↦ ?_⟩
    have hlock := hbare call.modem modem hfind hmanager
    have hstate : modem.lock.state = .clear := by rw [hlock]
    have hpuk : modem.lock.pendingPuk = none := by rw [hlock]
    rw [hthis modem hfind, SimLock.complete_of_clear hstate hpuk, hlock]

/-- The first call for the swapped SIM fails while no SIM is there. -/
theorem callFinished_changes_bare :
    let tracker := run (swappedSim.take 4)
    let call : SimCall := ⟨0, "/modem", .enter .pin "1234"⟩
    tracker.Reachable ∧ ∃ modem, tracker.modems.find? "/modem" = some modem ∧
      modem.hasSimManager = false ∧
      ((tracker.handle (.callFinished call (.error .timeout))).tracker.modems.find? "/modem" =
        some { modem with lock := { lastFault := some .other } }) := by
  intro tracker call
  have hreachable : tracker.Reachable := reachable_run _
  have hsome : (tracker.modems.find? "/modem").isSome = true := by decide +kernel
  have hbare : (tracker.modems.find? "/modem").any (·.hasSimManager) = false := by decide +kernel
  obtain ⟨modem, hfind⟩ := Option.isSome_iff_exists.1 hsome
  rw [hfind] at hbare
  have hchanges := callFinished_changes hreachable call (.error .timeout)
  exact ⟨hreachable, modem, hfind, hbare, (hchanges.2.2.1 modem hfind).2 hbare⟩

/-- Whether the event at this place of the run led to this action. -/
def Emits (events : List Event) (place : Nat) (action : Action) : Prop :=
  ∃ event, events[place]? = some event ∧
    action ∈ ((run (events.take place)).handle event).actions

/-- Whether the call was made in this run for a SIM that has gone since: the SIM manager of its
modem was detached, or the modem removed. -/
def Outlived (events : List Event) (call : SimCall) : Prop :=
  ∃ made gone path, made < gone ∧ path.text = call.modem ∧ Emits events made (.simCall call) ∧
    (Emits events gone (.detachSim path) ∨ Emits events gone (.detachModem path))

/-- The end of the old call unlocks the new SIM. -/
theorem callFinished_changes_swapped :
    ¬ ∀ events call outcome, Outlived events call →
      ((run events).handle (.callFinished call outcome)).tracker.modems = (run events).modems := by
  intro h
  have hmade : Emits swappedSim 2 (.simCall ⟨0, "/modem", .enter .pin "1234"⟩) :=
    ⟨_, rfl, by decide +kernel⟩
  have hgone : Emits swappedSim 3 (.detachSim onlyModem) := ⟨_, rfl, by decide +kernel⟩
  have hsame := h swappedSim ⟨0, "/modem", .enter .pin "1234"⟩ (.ok ())
    ⟨2, 3, onlyModem, by decide, rfl, hmade, .inl hgone⟩
  revert hsame
  decide +kernel

end Tracker

end Uplink
