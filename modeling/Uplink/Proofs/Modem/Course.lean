import Uplink.Proofs.Modem.Move
import Uplink.Proofs.Tracker.Subject
/-!
# How the tracked modems change, and what that asks for

Every event changes the modems by a chain of elementary moves, each of which asks for no more than
one action: to subscribe to a modem or to a SIM manager that came, or to end this when it goes. The
chain and the actions are told together, so that what is said of the actions of an event can be
checked move by move.
-/

namespace Uplink

open Wire (Value Properties)

/-- What the tracker asks for after a change of a modem. -/
def ModemChange.actions : ModemChange → List Action
  | untracked => []
  | applied => []
  | attachSim ticket => [.attachSim ticket]
  | detachSim path => [.detachSim path]

/-- Whether this is the command to take a PUK. -/
def SimCommand.TypesPuk : SimCommand → Prop
  | submitPuk .. => True
  | _ => False

def Event.TypesPuk : Event → Prop
  | commanded _ command => command.TypesPuk
  | _ => False

namespace ModemRoster

/-- A chain of elementary changes, with the actions that they ask for in their order. A lock takes a
PUK only if one was typed in. Calls to a SIM are made without a change. -/
inductive Course (typed : Prop) : ModemRoster → List Action → ModemRoster → Prop
  | idle {roster : ModemRoster} {actions : List Action}
    (hcalls : ∀ action ∈ actions, action.subject = .calls) : Course typed roster actions roster
  | trans {roster roster' roster'' : ModemRoster} {actions more : List Action}
    (h : Course typed roster actions roster') (h' : Course typed roster' more roster'') :
    Course typed roster (actions ++ more) roster''
  | announce {roster : ModemRoster} {path : ObjectPath} (h : roster.entries.get? path = none) :
    Course typed roster [.attachModem path] (roster.put { modem := { path } })
  | describe {roster : ModemRoster} {entry : Entry} {modem : Modem} (h : roster.Holds entry)
    (hsame : entry.modem.SameSim modem) : Course typed roster [] (roster.put { entry with modem })
  | count {roster : ModemRoster} : Course typed roster [] roster.count
  | attach {roster : ModemRoster} {entry : Entry} (h : roster.Holds entry)
    (hbare : entry.modem.hasSimManager = false) :
    Course typed roster [.attachSim ⟨entry.modem.path, roster.generation + 1⟩]
      (roster.count.put (entry.attach (roster.generation + 1)))
  | detach {roster : ModemRoster} {entry : Entry} (h : roster.Holds entry)
    (hattached : entry.modem.hasSimManager = true) :
    Course typed roster [.detachSim entry.modem.path]
      (roster.count.putCounted entry.detach (roster.counted entry.detach).clearSim)
  | report {roster : ModemRoster} {entry : Entry} {properties : Properties}
    (h : roster.Holds entry) (hattached : entry.modem.hasSimManager = true) :
    Course typed roster [] (roster.putCounted entry ((roster.counted entry).report properties))
  | change {roster : ModemRoster} {entry : Entry} {key : String} {value : Value}
    {counted : Counted} (h : roster.Holds entry) (hattached : entry.modem.hasSimManager = true)
    (hchange : (roster.counted entry).setProperty? key value = some counted) :
    Course typed roster [] (roster.putCounted entry counted)
  | note {roster : ModemRoster} {entry : Entry} (h : roster.Holds entry)
    (hattached : entry.modem.hasSimManager = true) (kind : CredentialKind) :
    Course typed roster []
      (roster.setLock entry { entry.modem.lock with lastKind := some kind })
  | submit {roster : ModemRoster} {entry : Entry} {lock : SimLock} {puk : String}
    (h : roster.Holds entry) (hattached : entry.modem.hasSimManager = true) (htyped : typed)
    (hsubmit : entry.modem.lock.submitPuk puk = .ok lock) :
    Course typed roster [] (roster.setLock entry lock)
  | complete {roster : ModemRoster} {entry : Entry} {request : SimRequest} {outcome : Outcome}
    (h : roster.Holds entry) :
    Course typed roster []
      (roster.setLock entry (entry.modem.lock.complete request outcome))
  | forget {roster : ModemRoster} {entry : Entry} (h : roster.Holds entry) :
    Course typed roster [.detachModem entry.modem.path]
      { roster with
        entries := roster.entries.erase entry.modem.path
        totals := (roster.counted entry).clearSim.totals }

variable {typed : Prop} {roster roster' : ModemRoster} {entry : Entry} {actions : List Action}

theorem Course.rest (roster : ModemRoster) : Course typed roster [] roster :=
  .idle fun _ hnone ↦ absurd hnone List.not_mem_nil

/-- The changes alone are elementary moves. -/
theorem Course.moves (h : Course typed roster actions roster') : Moves roster roster' := by
  induction h with
  | idle => exact .refl
  | trans _ _ ih ih' => exact ih.trans ih'
  | announce h => exact .single (.announce h)
  | describe h hsame => exact .single (.describe h hsame)
  | count => exact .single .count
  | attach h hbare => exact .single (.attach h hbare)
  | detach h hattached => exact .single (.detach h hattached)
  | report h hattached => exact .single (.report h hattached)
  | change h hattached hchange => exact .single (.change h hattached hchange)
  | note h hattached kind => exact .single (.note h hattached (.inl ⟨kind, rfl⟩))
  | submit h hattached _ hsubmit => exact .single (.note h hattached (.inr ⟨_, hsubmit⟩))
  | complete h => exact .single (.complete h)
  | forget h => exact .single (.forget h)

theorem Course.keyed (h : Course typed roster actions roster') (hkeyed : roster.Keyed) :
    roster'.Keyed := h.moves.keyed hkeyed

/-! ## Descriptions of modems -/

/-- The interfaces of a modem are described first; then its SIM manager comes or goes. -/
theorem course_setSimManager {modem : Modem} (h : roster.Holds entry)
    (hsame : entry.modem.SameSim modem) (attached : Bool) :
    Course typed roster (roster.setSimManager { entry with modem } attached).2.actions
      (roster.setSimManager { entry with modem } attached).1 := by
  have hholds := holds_put roster { entry with modem }
  have hdescribe : Course typed roster [] (roster.put { entry with modem }) := .describe h hsame
  apply Course.trans hdescribe
  cases hmanager : modem.hasSimManager <;> cases attached
  case false.true =>
    rw [setSimManager_attach hmanager,
      ← put_put roster.count (Entry.path_attach _ _).symm]
    exact .attach hholds hmanager
  case true.false =>
    rw [setSimManager_detach hmanager,
      ← putCounted_put roster.count (Entry.path_detach _).symm]
    exact .detach hholds hmanager
  all_goals
    rw [setSimManager_same hmanager]
    exact .count

theorem course_setProperty (h : roster.Holds entry) (key : String) (value : Value) :
    Course typed roster (roster.setProperty entry key value).2.actions
      (roster.setProperty entry key value).1 := by
  rcases setProperty_cases h key value with
    ⟨-, modem, attached, hsame, hset⟩ | ⟨-, modem, hsame, hset⟩
  · rw [hset]
    exact course_setSimManager h hsame attached
  · rw [hset]
    exact .describe h hsame

theorem Keyed.course_change (hkeyed : roster.Keyed) (path : ObjectPath) (key : String)
    (value : Value) :
    Course typed roster (roster.change path key value).2.actions
      (roster.change path key value).1 := by
  unfold change
  cases hentry : roster.entries.get? path with
  | none => exact .rest roster
  | some entry => exact course_setProperty (hkeyed.holds hentry) key value

theorem Keyed.keyed_change (hkeyed : roster.Keyed) (path : ObjectPath) (key : String)
    (value : Value) : (roster.change path key value).1.Keyed := by
  have hcourse : Course False roster _ _ := hkeyed.course_change path key value
  exact hcourse.keyed hkeyed

/-- Only a report of the interfaces can have to be followed by something. -/
theorem Keyed.actions_change_of_ne (hkeyed : roster.Keyed) (path : ObjectPath) {key : String}
    (hkey : key ≠ "Interfaces") (value : Value) :
    (roster.change path key value).2.actions = [] := by
  unfold change
  cases hentry : roster.entries.get? path with
  | none => rfl
  | some entry =>
    rcases setProperty_cases (hkeyed.holds hentry) key value with
      ⟨hinterfaces, -⟩ | ⟨-, modem, -, hset⟩
    · exact absurd hinterfaces hkey
    · dsimp only
      rw [hset]
      rfl

theorem actions_laterChange {earlier later : ModemChange}
    (h : earlier.actions = [] ∨ later.actions = []) :
    (laterChange earlier later).actions = earlier.actions ++ later.actions := by
  cases earlier <;> cases later <;> simp_all [ModemChange.actions, laterChange]

/-- A full report tells of the interfaces once at most, so that no change has to be followed that
another one hides. -/
theorem Keyed.course_foldl_change (hkeyed : roster.Keyed) (path : ObjectPath)
    {start : ModemRoster} {earlier : ModemChange} {entries : List (String × Value)}
    (hdistinct : (entries.map (·.1)).Nodup)
    (hearlier : "Interfaces" ∈ entries.map (·.1) → earlier.actions = [])
    (h : Course typed start earlier.actions roster) :
    let merged := entries.foldl
      (fun (state : ModemRoster × ModemChange) entry ↦
        ((state.1.change path entry.1 entry.2).1,
          laterChange state.2 (state.1.change path entry.1 entry.2).2)) (roster, earlier)
    Course typed start merged.2.actions merged.1 := by
  induction entries generalizing roster earlier with
  | nil => exact h
  | cons entry rest ih =>
    obtain ⟨key, value⟩ := entry
    obtain ⟨hfresh, hrest⟩ := List.nodup_cons.1 hdistinct
    have hchange : Course typed roster _ _ := hkeyed.course_change path key value
    have honce : earlier.actions = [] ∨ (roster.change path key value).2.actions = [] := by
      by_cases hkey : key = "Interfaces"
      · exact .inl (hearlier (hkey ▸ List.mem_cons_self))
      · exact .inr (hkeyed.actions_change_of_ne path hkey value)
    have hactions := actions_laterChange honce
    -- Once something has to be followed, the interfaces were reported and do not come again.
    refine ih (hchange.keyed hkeyed) hrest (fun hlater ↦ ?_) ?_
    · have hkey : key ≠ "Interfaces" := fun hkey ↦ hfresh (hkey ▸ hlater)
      rw [hactions, hearlier (List.mem_cons_of_mem _ hlater),
        hkeyed.actions_change_of_ne path hkey value]
      rfl
    · rw [hactions]
      exact h.trans hchange

theorem Keyed.course_merge (hkeyed : roster.Keyed) (path : ObjectPath)
    (properties : Properties) :
    Course typed roster (roster.merge path properties).2.actions
      (roster.merge path properties).1 :=
  hkeyed.course_foldl_change path properties.distinct (fun _ ↦ rfl) (.rest roster)

/-- What each property keeps, a report keeps. -/
theorem Keyed.induction_merge {P : ModemRoster → Prop} (hkeyed : roster.Keyed) (path : ObjectPath)
    (properties : Properties) (hstart : P roster)
    (hchange : ∀ (roster : ModemRoster) (key : String) (value : Value), roster.Keyed → P roster →
      P (roster.change path key value).1) :
    P (roster.merge path properties).1 := by
  have hmerged : (roster.merge path properties).1.Keyed ∧ P (roster.merge path properties).1 := by
    apply merge_induction (P := fun state ↦ state.1.Keyed ∧ P state.1)
    · exact ⟨hkeyed, hstart⟩
    · rintro state key value ⟨hstate, hholds⟩
      exact ⟨hstate.keyed_change path key value, hchange state.1 key value hstate hholds⟩
  exact hmerged.2

/-- A modem is subscribed to if it is new, before its SIM manager is. -/
theorem Keyed.course_add (hkeyed : roster.Keyed) (path : ObjectPath) (properties : Properties) :
    Course typed roster
      ((if roster.contains path then [] else [.attachModem path]) ++
        (roster.add path properties).2.actions)
      (roster.add path properties).1 := by
  unfold add
  dsimp only
  split
  · exact hkeyed.course_merge path properties
  next hnew =>
    have hfresh : roster.entries.get? path = none := by
      simpa [contains, SortedMap.contains] using hnew
    exact .trans (.announce hfresh) ((hkeyed.put _).course_merge path properties)

theorem Keyed.keyed_add (hkeyed : roster.Keyed) (path : ObjectPath) (properties : Properties) :
    (roster.add path properties).1.Keyed := by
  have hcourse : Course False roster _ _ := hkeyed.course_add path properties
  exact hcourse.keyed hkeyed

theorem Keyed.course_refresh (hkeyed : roster.Keyed) (path : ObjectPath)
    (properties : Properties) :
    Course typed roster (roster.refresh path properties).2.actions
      (roster.refresh path properties).1 := by
  unfold refresh
  split
  next htracked =>
    have hadd : Course typed roster _ _ := hkeyed.course_add path properties
    rw [if_pos htracked, List.nil_append] at hadd
    exact hadd
  next => exact .rest roster

theorem Keyed.course_remove? {path : ObjectPath} (hkeyed : roster.Keyed)
    (hremove : roster.remove? path = some roster') :
    Course typed roster [.detachModem path] roster' := by
  obtain ⟨entry, hentry, rfl⟩ := Option.map_eq_some_iff.1 hremove
  rw [← hkeyed.path_of_get? hentry]
  exact .forget (hkeyed.holds hentry)

/-! ## SIM data and locks -/

theorem Keyed.course_completeFetch? (hkeyed : roster.Keyed) (ticket : Ticket)
    (properties : Properties) :
    Course typed roster [] ((roster.completeFetch? ticket properties).getD roster) := by
  cases hfetch : roster.completeFetch? ticket properties with
  | none => exact .rest roster
  | some roster' =>
    obtain ⟨entry, hentry, -, rfl⟩ := completeFetch?_eq_some_iff.1 hfetch
    obtain ⟨hfind, hattached⟩ := attached?_eq_some_iff.1 hentry
    exact .report (hkeyed.holds hfind) hattached

theorem Keyed.course_changeSim? (hkeyed : roster.Keyed) (path : ObjectPath) (key : String)
    (value : Value) :
    Course typed roster [] ((roster.changeSim? path key value).getD roster) := by
  cases hsim : roster.changeSim? path key value with
  | none => exact .rest roster
  | some roster' =>
    obtain ⟨entry, counted, hentry, hchange, rfl⟩ := changeSim?_eq_some_iff.1 hsim
    obtain ⟨hfind, hattached⟩ := attached?_eq_some_iff.1 hentry
    exact .change (hkeyed.holds hfind) hattached hchange

/-- A command changes nothing, or the lock of a SIM whose manager is attached: the lock notes the
kind of a credential, or takes a PUK. -/
theorem Keyed.command_cases (hkeyed : roster.Keyed) (command : SimCommand) :
    roster.command command = roster ∨
    ∃ entry lock, roster.Holds entry ∧ entry.modem.hasSimManager = true ∧
      ((∃ kind, lock = { entry.modem.lock with lastKind := some kind }) ∨
        command.TypesPuk ∧ ∃ puk, entry.modem.lock.submitPuk puk = .ok lock) ∧
      roster.command command = roster.setLock entry lock := by
  unfold ModemRoster.command
  split
  next modem pin =>
    split
    next roster' request henter =>
      obtain ⟨entry, lock, ⟨hfind, hattached⟩, hlock, rfl⟩ := enter_eq_ok_iff.1 henter
      obtain ⟨kind, -, -, hnote, -⟩ := SimLock.enter_eq_ok_iff.1 hlock
      exact .inr ⟨entry, lock, hkeyed.holds hfind, hattached, .inl ⟨kind, hnote⟩, rfl⟩
    next => exact .inl rfl
  next modem puk =>
    split
    next roster' hsubmit =>
      obtain ⟨entry, lock, ⟨hfind, hattached⟩, hlock, rfl⟩ := submitPuk_eq_ok_iff.1 hsubmit
      exact .inr ⟨entry, lock, hkeyed.holds hfind, hattached, .inr ⟨trivial, puk, hlock⟩, rfl⟩
    next => exact .inl rfl
  next => exact .inl rfl
  next modem kind oldPin newPin =>
    split
    next roster' request hchange =>
      obtain ⟨entry, lock, ⟨hfind, hattached⟩, hlock, rfl⟩ := changePin_eq_ok_iff.1 hchange
      obtain ⟨-, -, -, hnote, -⟩ := SimLock.change_eq_ok_iff.1 hlock
      exact .inr ⟨entry, lock, hkeyed.holds hfind, hattached, .inl ⟨kind, hnote⟩, rfl⟩
    next => exact .inl rfl

theorem Keyed.course_command (hkeyed : roster.Keyed) (command : SimCommand) :
    Course command.TypesPuk roster [] (roster.command command) := by
  rcases hkeyed.command_cases command with
    hsame | ⟨entry, lock, hentry, hattached, ⟨kind, rfl⟩ | ⟨htyped, puk, hsubmit⟩, hset⟩
  · rw [hsame]
    exact .rest roster
  · rw [hset]
    exact .note hentry hattached kind
  · rw [hset]
    exact .submit hentry hattached htyped hsubmit

theorem Keyed.course_complete (hkeyed : roster.Keyed) (path : String) (request : SimRequest)
    (outcome : Outcome) : Course typed roster [] (roster.complete path request outcome) := by
  unfold complete
  split
  · exact .rest roster
  next entry hfind => exact .complete (hkeyed.holds hfind)

end ModemRoster

/-! ## Events -/

namespace Tracker

open ModemRoster (Course)

variable {tracker : Tracker} {typed : Prop}

theorem followModem_snd (tracker : Tracker) (result : ModemRoster × ModemChange) :
    (tracker.followModem result).2 = result.2.actions := by
  obtain ⟨modems, change⟩ := result
  cases change <;> rfl

theorem addModem_snd (tracker : Tracker) (path : ObjectPath) (properties : Properties) :
    (tracker.addModem path properties).2 =
      (if tracker.modems.contains path then [] else [.attachModem path]) ++
        (tracker.modems.add path properties).2.actions := by
  rw [← followModem_snd]
  rfl

theorem course_addModem (hkeyed : tracker.modems.Keyed) (path : ObjectPath)
    (properties : Properties) :
    Course typed tracker.modems (tracker.addModem path properties).2
      (tracker.addModem path properties).1.modems := by
  rw [addModem_snd, modems_addModem]
  exact hkeyed.course_add path properties

theorem addModems_cons (tracker : Tracker) (modem : ObjectPath × Properties)
    (rest : List (ObjectPath × Properties)) :
    let first := tracker.addModem modem.1 modem.2
    let later := first.1.addModems rest
    tracker.addModems (modem :: rest) = (later.1, first.2 ++ later.2) :=
  foldl_collect_cons
    (fun (tracker : Tracker) (modem : ObjectPath × Properties) ↦
      tracker.addModem modem.1 modem.2)
    modem rest tracker

theorem course_addModems (hkeyed : tracker.modems.Keyed)
    (modems : List (ObjectPath × Properties)) :
    Course typed tracker.modems (tracker.addModems modems).2
      (tracker.addModems modems).1.modems := by
  induction modems generalizing tracker with
  | nil => exact .rest tracker.modems
  | cons modem rest ih =>
    have hadd : Course typed tracker.modems _ _ := course_addModem hkeyed modem.1 modem.2
    rw [addModems_cons]
    exact hadd.trans (ih (hadd.keyed hkeyed))

/-- Every event that is not about the services changes the modems by a course with its actions. -/
theorem course_handle (hkeyed : tracker.modems.Keyed) {event : Event}
    (hsubject : event.subject ≠ .services) :
    Course event.TypesPuk tracker.modems (tracker.handle event).actions
      (tracker.handle event).tracker.modems := by
  cases event with
  | modemsListed modems => exact course_addModems hkeyed modems
  | modemAdded path properties => exact course_addModem hkeyed path properties
  | modemRefreshed path properties =>
    rw [modems_handle]
    change Course _ _ (tracker.followModem _).2 _
    rw [followModem_snd]
    exact hkeyed.course_refresh path properties
  | modemRemoved path =>
    unfold handle
    dsimp only
    cases hremove : tracker.modems.remove? path with
    | none => exact .rest tracker.modems
    | some modems => exact hkeyed.course_remove? hremove
  | modemChanged path key value =>
    rw [modems_handle]
    change Course _ _ (tracker.followModem _).2 _
    rw [followModem_snd]
    exact hkeyed.course_change path key value
  | simFetched ticket properties =>
    rw [modems_handle]
    simp only [handle, actions_withModems?]
    exact hkeyed.course_completeFetch? ticket properties
  | simChanged path key value =>
    rw [modems_handle]
    simp only [handle, actions_withModems?]
    exact hkeyed.course_changeSim? path key value
  | commanded number command =>
    rw [modems_handle]
    have hcalls : ∀ action ∈ (tracker.command number command).actions, action.subject = .calls :=
      fun _ ↦ subject_command
    exact (hkeyed.course_command command).trans (.idle hcalls)
  | callFinished call outcome => exact hkeyed.course_complete call.modem call.request outcome
  | _ => exact absurd rfl hsubject

theorem modems_handle_of_services {event : Event} (hsubject : event.subject = .services) :
    (tracker.handle event).tracker.modems = tracker.modems := by
  rw [modems_handle, ModemRoster.follow_of_subject hsubject]

theorem moves_handle (hkeyed : tracker.modems.Keyed) (event : Event) :
    ModemRoster.Moves tracker.modems (tracker.handle event).tracker.modems := by
  by_cases hsubject : event.subject = .services
  · rw [modems_handle_of_services hsubject]
  · exact (course_handle hkeyed hsubject).moves

theorem keyed_empty : ({} : ModemRoster).Keyed := by
  intro text entry h
  cases h

/-- The modems of a reachable state come about by elementary moves. -/
theorem Reachable.moves {tracker : Tracker} (h : tracker.Reachable) :
    ModemRoster.Moves {} tracker.modems := by
  induction h with
  | start => exact .refl
  | handled event h ih => exact ih.trans (moves_handle (ih.keyed keyed_empty) event)
  | asked h ih => exact ih

theorem Reachable.keyed {tracker : Tracker} (h : tracker.Reachable) : tracker.modems.Keyed :=
  h.moves.keyed keyed_empty

/-- A stable property holds of every modem of every reachable state. -/
theorem Reachable.all {P : Modem → Prop} (hstable : Modem.Stable P) {tracker : Tracker}
    (h : tracker.Reachable) : tracker.modems.All P :=
  h.moves.all hstable fun _ _ hfind ↦ nomatch hfind

end Tracker

end Uplink
