import Uplink.Proofs.Modem.Course
import Uplink.Proofs.Service.Roster
/-!
# What is published

After each event that marked the tracker as changed, its snapshot is published. Whatever changes the
snapshot sets the mark, with one exception: a command that prepares a call to the SIM notes the kind
of the credential and leaves the mark alone. Without such a command the snapshot that was published
last is the current one at all times, and with one it is not.
-/

namespace Uplink

open Wire (Value Properties)

namespace Tracker

/-- Whether nothing changed, or the change is marked. -/
def Marks (before after : Tracker) : Prop := after = before ∨ after.dirty = true

variable {tracker : Tracker}

theorem Marks.refl (tracker : Tracker) : Marks tracker tracker := .inl rfl

theorem Marks.trans {first second third : Tracker} (h : Marks first second)
    (h' : Marks second third) : Marks first third := by
  rcases h' with hsame | hdirty
  · rw [hsame]
    exact h
  · exact .inr hdirty

/-! ## The network manager and the services -/

theorem dirty_setServices (h : tracker.dirty = true) (value : Value) :
    (tracker.setServices value).1.dirty = true := by
  unfold setServices
  split
  · exact h
  · dsimp only
    split
    · exact h
    · rfl

theorem dirty_setManagerProperty (h : tracker.dirty = true) (key : String) (value : Value) :
    (tracker.setManagerProperty key value).1.dirty = true := by
  unfold setManagerProperty
  split
  · exact dirty_setServices h value
  · split
    · rfl
    · exact h

theorem dirty_setManagerProperties (h : tracker.dirty = true)
    (properties : List (String × Value)) :
    (tracker.setManagerProperties properties).1.dirty = true := by
  rw [setManagerProperties_fst]
  induction properties generalizing tracker with
  | nil => exact h
  | cons property rest ih => exact ih (dirty_setManagerProperty h property.1 property.2)

/-- A list of services that is not marked as a change was none. -/
theorem marks_setServices (h : tracker.services.WellFormed) (value : Value) :
    Marks tracker (tracker.setServices value).1 := by
  unfold setServices
  split
  · exact .refl tracker
  next paths _ =>
    dsimp only
    split
    next hempty =>
      left
      rw [h.reconcile_eq_self hempty]
    next => exact .inr rfl

theorem marks_setManagerProperty (h : tracker.services.WellFormed) (key : String)
    (value : Value) : Marks tracker (tracker.setManagerProperty key value).1 := by
  unfold setManagerProperty
  split
  · exact marks_setServices h value
  · split
    · exact .inr rfl
    · exact .refl tracker

theorem marks_changeService (path : ObjectPath) (key : String) (value : Value) :
    Marks tracker (tracker.changeService path key value).tracker := by
  unfold changeService
  split
  · exact .refl tracker
  all_goals exact .inr rfl

theorem marks_withServices? (services : Option ServiceRoster) :
    Marks tracker (tracker.withServices? services).tracker := by
  cases services with
  | none => exact .refl tracker
  | some services => exact .inr rfl

/-! ## The modems -/

theorem marks_withModems? (modems : Option ModemRoster) :
    Marks tracker (tracker.withModems? modems).tracker := by
  cases modems with
  | none => exact .refl tracker
  | some modems => exact .inr rfl

theorem marks_followModem (result : ModemRoster × ModemChange) :
    Marks tracker (tracker.followModem result).1 := by
  obtain ⟨modems, change⟩ := result
  cases change with
  | untracked => exact .refl tracker
  | _ => exact .inr rfl

theorem marks_addModems (modems : List (ObjectPath × Properties)) :
    Marks tracker (tracker.addModems modems).1 := by
  rw [addModems_fst]
  induction modems generalizing tracker with
  | nil => exact .refl tracker
  | cons modem rest ih => exact (marks_followModem _).trans ih

/-! ## Commands -/

/-- Whether the event is a command that prepares the entry or the change of a PIN, of a kind other
than the one submitted last. -/
def NotesKind (tracker : Tracker) : Event → Prop
  | .commanded _ (.enter path pin) =>
    ∃ modem kind, tracker.modems.find? path = some modem ∧ modem.hasSimManager = true ∧
      modem.lock.state = .pinRequired kind ∧ kind.Accepts pin ∧ modem.lock.lastKind ≠ some kind
  | .commanded _ (.change path kind oldPin newPin) =>
    ∃ modem, tracker.modems.find? path = some modem ∧ modem.hasSimManager = true ∧
      kind.isPin = true ∧ kind.Accepts oldPin ∧ kind.Accepts newPin ∧
      modem.lock.lastKind ≠ some kind
  | _ => False

end Tracker

namespace ModemRoster

variable {roster : ModemRoster}

theorem setLock_lock {entry : Entry} (h : roster.Holds entry) :
    roster.setLock entry entry.modem.lock = roster := put_eq_self h

theorem find?_setLock (roster : ModemRoster) (entry : Entry) (lock : SimLock) :
    (roster.setLock entry lock).find? entry.modem.path.text =
      some { entry.modem with lock } := by
  unfold find? setLock
  rw [find?_put, if_pos rfl]
  rfl

end ModemRoster

namespace Tracker

variable {tracker : Tracker} {event : Event}

theorem marks_setLock (h : tracker.Reachable) {path : String} {entry : ModemRoster.Entry}
    {kind : CredentialKind} (hfind : tracker.modems.entries.find? path = some entry)
    (hkind : entry.modem.lock.lastKind = some kind) :
    Marks tracker
      { tracker with
        modems :=
          tracker.modems.setLock entry { entry.modem.lock with lastKind := some kind } } := by
  left
  rw [← hkind, ModemRoster.setLock_lock (h.keyed.holds hfind)]

/-- A command that notes no other kind is marked, or changes nothing. -/
theorem marks_command (h : tracker.Reachable) {number : Nat} {command : SimCommand}
    (hquiet : ¬ tracker.NotesKind (.commanded number command)) :
    Marks tracker (tracker.command number command).tracker := by
  cases command with
  | enter path pin =>
    unfold Tracker.command
    dsimp only
    split
    next modems request henter =>
      obtain ⟨entry, lock, ⟨hfind, hattached⟩, hlock, rfl⟩ :=
        ModemRoster.enter_eq_ok_iff.1 henter
      obtain ⟨kind, hstate, haccepts, rfl, -⟩ := SimLock.enter_eq_ok_iff.1 hlock
      have hkind : entry.modem.lock.lastKind = some kind := by
        by_contra hother
        exact hquiet ⟨entry.modem, kind, ModemRoster.find?_eq_some_iff.2 ⟨entry, hfind, rfl⟩,
          hattached, hstate, haccepts, hother⟩
      exact marks_setLock h hfind hkind
    next => exact .refl tracker
  | submitPuk path puk =>
    unfold Tracker.command
    dsimp only
    split
    · exact .inr rfl
    · exact .refl tracker
  | reset path newPin =>
    unfold Tracker.command
    dsimp only
    split <;> exact .refl tracker
  | change path kind oldPin newPin =>
    unfold Tracker.command
    dsimp only
    split
    next modems request hchange =>
      obtain ⟨entry, lock, ⟨hfind, hattached⟩, hlock, rfl⟩ :=
        ModemRoster.changePin_eq_ok_iff.1 hchange
      obtain ⟨hpin, hold, hnew, rfl, -⟩ := SimLock.change_eq_ok_iff.1 hlock
      have hkind : entry.modem.lock.lastKind = some kind := by
        by_contra hother
        exact hquiet ⟨entry.modem, ModemRoster.find?_eq_some_iff.2 ⟨entry, hfind, rfl⟩,
          hattached, hpin, hold, hnew, hother⟩
      exact marks_setLock h hfind hkind
    next => exact .refl tracker

/-- Every event that notes no other kind is marked, or changes nothing. -/
theorem marks_handle (h : tracker.Reachable) (hquiet : ¬ tracker.NotesKind event) :
    Marks tracker (tracker.handle event).tracker := by
  cases event with
  | managerReported properties => exact .inr (dirty_setManagerProperties rfl properties.entries)
  | managerChanged key value => exact marks_setManagerProperty h.wellFormed key value
  | serviceFetched ticket properties => exact marks_withServices? _
  | serviceChanged path key value => exact marks_changeService path key value
  | modemsListed modems => exact marks_addModems modems
  | modemAdded path properties => exact marks_followModem _
  | modemRefreshed path properties => exact marks_followModem _
  | modemRemoved path =>
    unfold handle
    dsimp only
    split
    · exact .inr rfl
    · exact .refl tracker
  | modemChanged path key value => exact marks_followModem _
  | simFetched ticket properties => exact marks_withModems? _
  | simChanged path key value => exact marks_withModems? _
  | passphraseSubmitted path passphrase => exact marks_withServices? _
  | serviceForgotten path => exact marks_withServices? _
  | commanded number command => exact marks_command h hquiet
  | callFinished call outcome => exact .inr rfl
  | shutdown => exact .refl tracker

/-- A command that notes another kind does this and nothing else. -/
theorem handle_of_notesKind (h : tracker.Reachable) (hnotes : tracker.NotesKind event) :
    ∃ entry kind, tracker.modems.Holds entry ∧ entry.modem.lock.lastKind ≠ some kind ∧
      (tracker.handle event).tracker =
        { tracker with
          modems :=
            tracker.modems.setLock entry { entry.modem.lock with lastKind := some kind } } := by
  cases event with
  | commanded number command =>
    cases command with
    | enter path pin =>
      obtain ⟨modem, kind, hfind, hattached, hstate, haccepts, hkind⟩ := hnotes
      obtain ⟨entry, hentry, rfl⟩ := ModemRoster.find?_eq_some_iff.1 hfind
      refine ⟨entry, kind, h.keyed.holds hentry, hkind, ?_⟩
      have henter := ModemRoster.enter_eq_ok_iff.2 ⟨entry, _, ⟨hentry, hattached⟩,
        SimLock.enter_eq_ok_iff.2 ⟨kind, hstate, haccepts, rfl, rfl⟩, rfl⟩
      unfold handle Tracker.command
      dsimp only
      rw [henter]
    | change path kind oldPin newPin =>
      obtain ⟨modem, hfind, hattached, hpin, hold, hnew, hkind⟩ := hnotes
      obtain ⟨entry, hentry, rfl⟩ := ModemRoster.find?_eq_some_iff.1 hfind
      refine ⟨entry, kind, h.keyed.holds hentry, hkind, ?_⟩
      have hchange := ModemRoster.changePin_eq_ok_iff.2 ⟨entry, _, ⟨hentry, hattached⟩,
        SimLock.change_eq_ok_iff.2 ⟨hpin, hold, hnew, rfl, rfl⟩, rfl⟩
      unfold handle Tracker.command
      dsimp only
      rw [hchange]
    | submitPuk path puk => exact hnotes.elim
    | reset path newPin => exact hnotes.elim
  | _ => exact hnotes.elim

theorem Reachable.snapshot_modem? (h : tracker.Reachable) (path : String) :
    tracker.snapshot.modem? path = tracker.modems.find? path := h.keyed.find?_modems path

/-- The kind that was noted shows in the snapshot, but not in the mark. -/
theorem snapshot_of_notesKind (h : tracker.Reachable) (hnotes : tracker.NotesKind event) :
    (tracker.handle event).tracker.snapshot ≠ tracker.snapshot ∧
      (tracker.handle event).tracker.dirty = tracker.dirty := by
  obtain ⟨entry, kind, hentry, hkind, hafter⟩ := handle_of_notesKind h hnotes
  refine ⟨fun hsame ↦ ?_, by rw [hafter]⟩
  have hbefore : tracker.modems.find? entry.modem.path.text = some entry.modem :=
    ModemRoster.find?_eq_some_iff.2 ⟨entry, hentry, rfl⟩
  have hfind := (Reachable.handled event h).snapshot_modem? entry.modem.path.text
  rw [hsame, h.snapshot_modem?, hafter, ModemRoster.find?_setLock, hbefore] at hfind
  have hlock := congrArg (fun modem ↦ modem.lock.lastKind) (Option.some.inj hfind)
  exact hkind hlock

/-- A change of the snapshot goes unmarked exactly if it is the note of another kind. -/
theorem unmarked_iff (h : tracker.Reachable) (event : Event) :
    ((tracker.handle event).tracker.snapshot ≠ tracker.snapshot ∧
      (tracker.handle event).tracker.dirty = false) ↔
    tracker.dirty = false ∧ tracker.NotesKind event := by
  constructor
  · rintro ⟨hchanged, hclean⟩
    by_cases hnotes : tracker.NotesKind event
    · rw [(snapshot_of_notesKind h hnotes).2] at hclean
      exact ⟨hclean, hnotes⟩
    · rcases marks_handle h hnotes with hsame | hdirty
      · exact absurd (congrArg snapshot hsame) hchanged
      · exact absurd (hdirty.symm.trans hclean) (by decide)
  · rintro ⟨hclean, hnotes⟩
    obtain ⟨hchanged, hdirty⟩ := snapshot_of_notesKind h hnotes
    exact ⟨hchanged, hdirty.trans hclean⟩

end Tracker

namespace Publisher

/-- The publisher after these events. -/
def run (events : List Event) : Publisher :=
  events.foldl (fun publisher event ↦ (publisher.advance event).1) {}

@[simp] theorem run_concat (events : List Event) (event : Event) :
    run (events ++ [event]) = ((run events).advance event).1 := by
  simp [run]

theorem tracker_advance (publisher : Publisher) (event : Event) :
    (publisher.advance event).1.tracker =
      { (publisher.tracker.handle event).tracker with dirty := false } := by
  unfold advance Tracker.takeDirty
  dsimp only
  split <;> rfl

theorem published_advance (publisher : Publisher) (event : Event) :
    (publisher.advance event).1.published =
      if (publisher.tracker.handle event).tracker.dirty then
        (publisher.tracker.handle event).tracker.snapshot
      else publisher.published := by
  unfold advance Tracker.takeDirty
  dsimp only
  split <;> rfl

theorem reachable_run (events : List Event) : (run events).tracker.Reachable := by
  induction events using List.reverseRecOn with
  | nil => exact .start
  | append_singleton events event ih =>
    rw [run_concat, tracker_advance]
    exact .asked (.handled event ih)

theorem dirty_run (events : List Event) : (run events).tracker.dirty = false := by
  induction events using List.reverseRecOn with
  | nil => rfl
  | append_singleton events event ih => rw [run_concat, tracker_advance]

/-- If the snapshot published last is the current one, it stays so exactly if the next event notes
no other kind. -/
theorem published_concat_iff {events : List Event} (event : Event)
    (hbefore : (run events).published = (run events).tracker.snapshot) :
    (run (events ++ [event])).published = (run (events ++ [event])).tracker.snapshot ↔
      ¬ (run events).tracker.NotesKind event := by
  have hreachable := reachable_run events
  have hsnapshot : (run (events ++ [event])).tracker.snapshot =
      ((run events).tracker.handle event).tracker.snapshot := by
    rw [run_concat, tracker_advance]
    rfl
  rw [hsnapshot, run_concat, published_advance, hbefore]
  constructor
  · intro hafter hnotes
    obtain ⟨hchanged, hdirty⟩ := Tracker.snapshot_of_notesKind hreachable hnotes
    rw [hdirty, dirty_run] at hafter
    exact hchanged hafter.symm
  · intro hquiet
    rcases Tracker.marks_handle hreachable hquiet with hsame | hdirty
    · rw [hsame]
      split <;> rfl
    · rw [hdirty]
      rfl

/-- Every change of the snapshot is marked but for the note of another kind in a state that is not
marked yet, and in a run the snapshot published last is the current one at all times exactly if no
event notes another kind. -/
theorem publication_complete_iff {tracker : Tracker} (h : tracker.Reachable) (event : Event)
    (events : List Event) :
    (((tracker.handle event).tracker.snapshot ≠ tracker.snapshot →
        (tracker.handle event).tracker.dirty = true) ↔
      ¬ (tracker.dirty = false ∧ tracker.NotesKind event)) ∧
    ((∀ start, start <+: events →
        (run start).published = (run start).tracker.snapshot) ↔
      ∀ start next, start ++ [next] <+: events → ¬ (run start).tracker.NotesKind next) := by
  refine ⟨?_, fun hcurrent start next hstart ↦ ?_, fun hquiet start hstart ↦ ?_⟩
  · rw [← Tracker.unmarked_iff h event, not_and, Bool.not_eq_false]
  · have hbefore := hcurrent start ((List.prefix_append start [next]).trans hstart)
    exact (published_concat_iff next hbefore).1 (hcurrent (start ++ [next]) hstart)
  · induction start using List.reverseRecOn with
    | nil => rfl
    | append_singleton start next ih =>
      have hbefore := ih ((List.prefix_append start [next]).trans hstart)
      exact (published_concat_iff next hbefore).2 (hquiet start next hstart)

theorem publication_complete_powered :
    let tracker := (run Tracker.lockedSim).tracker
    let event := Event.modemChanged Tracker.onlyModem "Powered" (.bool true)
    tracker.Reachable ∧ (tracker.handle event).tracker.snapshot ≠ tracker.snapshot ∧
      (tracker.handle event).tracker.dirty = true := by
  intro tracker event
  have hreachable : tracker.Reachable := reachable_run Tracker.lockedSim
  have hchanged : (tracker.handle event).tracker.snapshot ≠ tracker.snapshot := by decide +kernel
  have hmarked := (publication_complete_iff hreachable event []).1.2 And.right
  exact ⟨hreachable, hchanged, hmarked hchanged⟩

/-- The PIN that is typed in for a locked SIM is noted without a mark, and stays unpublished. -/
theorem publication_incomplete :
    (¬ ∀ (tracker : Tracker) (event : Event), tracker.Reachable →
      (tracker.handle event).tracker.snapshot ≠ tracker.snapshot →
      (tracker.handle event).tracker.dirty = true) ∧
    ¬ ∀ events, (run events).published = (run events).tracker.snapshot := by
  let event := Event.commanded 0 (.enter "/modem" "1234")
  constructor
  · intro h
    have hdirty := h (run Tracker.lockedSim).tracker event (reachable_run _) (by decide +kernel)
    revert hdirty
    decide +kernel
  · intro h
    have hpublished := h (Tracker.lockedSim ++ [event])
    revert hpublished
    decide +kernel

end Publisher

end Uplink
