import Uplink.Proofs.Modem.Course
/-!
# Events about one modem

An event about one modem leaves the entry of every other modem exactly as it is. What it makes of
its own modem, and what it asks for, depends on the entry of this modem alone, and not on the other
modems, the totals or the generation given out last; only the generations of new tickets do. Two
rosters that hold the same under the path of the modem are therefore the same after the event, as
far as this modem can be seen.
-/

namespace Uplink

open Wire (Value Properties)

/-- The ticket without its generation. -/
def Ticket.undated (ticket : Ticket) : Ticket := { ticket with generation := 0 }

/-- The action without the generation of its ticket. -/
def Action.undated : Action → Action
  | attachService ticket => .attachService ticket.undated
  | refetchService ticket => .refetchService ticket.undated
  | attachSim ticket => .attachSim ticket.undated
  | action => action

def ModemChange.undated : ModemChange → ModemChange
  | attachSim ticket => .attachSim ticket.undated
  | change => change

theorem ModemChange.map_undated_actions (change : ModemChange) :
    change.actions.map Action.undated = change.undated.actions := by
  cases change <;> rfl

/-- What a property makes of a modem does not depend on the totals. -/
theorem Counted.map_modem_setProperty? {counted counted' : Counted}
    (h : counted.modem = counted'.modem) (key : String) (value : Value) :
    (counted.setProperty? key value).map Counted.modem =
      (counted'.setProperty? key value).map Counted.modem := by
  obtain ⟨modem, totals⟩ := counted
  obtain ⟨modem', totals'⟩ := counted'
  obtain rfl : modem = modem' := h
  unfold setProperty?
  split <;> rfl

/-- What a lock makes of a command: the lock afterwards, and the request that is to be sent. -/
def SimLock.attempt (lock : SimLock) : SimCommand → Except Failure (SimLock × Option SimRequest)
  | .enter _ pin => (lock.enter pin).map fun result ↦ (result.1, some result.2)
  | .submitPuk _ puk => (lock.submitPuk puk).map fun result ↦ (result, none)
  | .reset _ newPin => (lock.reset newPin).map fun request ↦ (lock, some request)
  | .change _ kind oldPin newPin =>
    (lock.change kind oldPin newPin).map fun result ↦ (result.1, some result.2)

namespace ModemRoster

theorem undated_laterChange (earlier later : ModemChange) :
    (laterChange earlier later).undated = laterChange earlier.undated later.undated := by
  cases later <;> rfl

variable {roster roster' : ModemRoster} {entry entry' : Entry} {path : ObjectPath}

/-! ## Commands -/

/-- The modem that takes a command, and what the command comes to there. -/
def attempt (roster : ModemRoster) (command : SimCommand) :
    Except Failure (Entry × SimLock × Option SimRequest) := do
  let entry ← roster.simModem command.modem
  let (lock, prepared) ← entry.modem.lock.attempt command
  .ok (entry, lock, prepared)

theorem attempt_eq_ok_iff {command : SimCommand} {lock : SimLock}
    {prepared : Option SimRequest} :
    roster.attempt command = .ok (entry, lock, prepared) ↔
      (roster.entries.find? command.modem = some entry ∧ entry.modem.hasSimManager = true) ∧
        entry.modem.lock.attempt command = .ok (lock, prepared) := by
  simp only [attempt, bind_eq_ok_iff, simModem_eq_ok_iff, Except.ok.injEq, Prod.mk.injEq,
    Prod.exists]
  constructor
  · rintro ⟨held, hfind, lock', prepared', hlock, rfl, rfl, rfl⟩
    exact ⟨hfind, hlock⟩
  · rintro ⟨hfind, hlock⟩
    exact ⟨entry, hfind, lock, prepared, hlock, rfl, rfl, rfl⟩

/-- A command is an attempt on the lock of its modem, which is put back if the attempt succeeds. -/
theorem Keyed.carryOut_eq (hkeyed : roster.Keyed) (command : SimCommand) :
    roster.carryOut command =
      (roster.attempt command).map fun result ↦
        (roster.setLock result.1 result.2.1, result.2.2) := by
  cases command with
  | enter path pin =>
    unfold carryOut attempt ModemRoster.enter SimLock.attempt
    dsimp only [SimCommand.modem]
    cases roster.simModem path with
    | error failure => rfl
    | ok entry =>
      dsimp only [bind, Except.bind]
      cases entry.modem.lock.enter pin <;> rfl
  | submitPuk path puk =>
    unfold carryOut attempt ModemRoster.submitPuk SimLock.attempt
    dsimp only [SimCommand.modem]
    cases roster.simModem path with
    | error failure => rfl
    | ok entry =>
      dsimp only [bind, Except.bind]
      cases entry.modem.lock.submitPuk puk <;> rfl
  | reset path newPin =>
    -- A reset leaves the lock alone until the call has ended.
    unfold carryOut attempt ModemRoster.reset SimLock.attempt
    dsimp only [SimCommand.modem]
    cases hmodem : roster.simModem path with
    | error failure => rfl
    | ok entry =>
      have hsame : roster.setLock entry entry.modem.lock = roster :=
        put_eq_self (hkeyed.holds (simModem_eq_ok_iff.1 hmodem).1)
      dsimp only [bind, Except.bind]
      cases entry.modem.lock.reset newPin with
      | error failure => rfl
      | ok request =>
        dsimp only [Except.map]
        rw [hsame]
  | change path kind oldPin newPin =>
    unfold carryOut attempt ModemRoster.changePin SimLock.attempt
    dsimp only [SimCommand.modem]
    cases roster.simModem path with
    | error failure => rfl
    | ok entry =>
      dsimp only [bind, Except.bind]
      cases entry.modem.lock.change kind oldPin newPin <;> rfl

theorem Keyed.command_eq (hkeyed : roster.Keyed) (command : SimCommand) :
    roster.command command =
      match roster.attempt command with
      | .ok (entry, lock, _) => roster.setLock entry lock
      | .error _ => roster := by
  rw [command_eq_carryOut, hkeyed.carryOut_eq]
  cases roster.attempt command <;> rfl

/-! ## Other modems -/

/-- Whether no entry but the one at this path is different. -/
def OnlyAt (path : String) (roster roster' : ModemRoster) : Prop :=
  ∀ other, other ≠ path → roster'.entries.find? other = roster.entries.find? other

theorem OnlyAt.refl (path : String) (roster : ModemRoster) : OnlyAt path roster roster :=
  fun _ _ ↦ rfl

theorem OnlyAt.trans {path : String} {roster'' : ModemRoster} (h : OnlyAt path roster roster')
    (h' : OnlyAt path roster' roster'') : OnlyAt path roster roster'' :=
  fun other hother ↦ (h' other hother).trans (h other hother)

/-- One entry comes, goes or changes. -/
theorem OnlyAt.of_update {value : Option Entry}
    (h : ∀ text, roster'.entries.find? text =
      if path.text = text then value else roster.entries.find? text) :
    OnlyAt path.text roster roster' := by
  intro other hother
  rw [h, if_neg hother.symm]

theorem exists_update_setSimManager (roster : ModemRoster) (entry : Entry) (attached : Bool) :
    ∃ changed, ∀ text, (roster.setSimManager entry attached).1.entries.find? text =
      if entry.modem.path.text = text then some changed else roster.entries.find? text := by
  cases hmanager : entry.modem.hasSimManager <;> cases attached
  case false.true =>
    rw [setSimManager_attach hmanager]
    exact ⟨_, find?_put _ _⟩
  case true.false =>
    rw [setSimManager_detach hmanager]
    exact ⟨_, find?_putCounted _ _ _⟩
  all_goals
    rw [setSimManager_same hmanager]
    exact ⟨_, find?_put _ _⟩

/-- A property of a modem that is tracked changes its entry, and no other one. -/
theorem Keyed.exists_update_change (hkeyed : roster.Keyed)
    (hfind : roster.entries.get? path = some entry) (key : String) (value : Value) :
    ∃ changed, ∀ text, (roster.change path key value).1.entries.find? text =
      if path.text = text then some changed else roster.entries.find? text := by
  have hpath := hkeyed.path_of_get? hfind
  unfold change
  rw [hfind]
  dsimp only
  rcases setProperty_cases (hkeyed.holds hfind) key value with
    ⟨-, modem, attached, hsame, hset⟩ | ⟨-, modem, hsame, hset⟩
  · rw [hset, ← hpath, hsame.path]
    exact exists_update_setSimManager roster { entry with modem } attached
  · rw [hset, ← hpath, hsame.path]
    exact ⟨_, find?_put roster { entry with modem }⟩

theorem Keyed.onlyAt_change (hkeyed : roster.Keyed) (path : ObjectPath) (key : String)
    (value : Value) : OnlyAt path.text roster (roster.change path key value).1 := by
  cases hfind : roster.entries.get? path with
  | none =>
    unfold change
    rw [hfind]
    exact .refl _ _
  | some entry =>
    obtain ⟨changed, hupdate⟩ := hkeyed.exists_update_change hfind key value
    exact .of_update hupdate

theorem Keyed.onlyAt_merge (hkeyed : roster.Keyed) (path : ObjectPath) (properties : Properties) :
    OnlyAt path.text roster (roster.merge path properties).1 := by
  apply hkeyed.induction_merge (P := OnlyAt path.text roster)
  · exact .refl _ _
  · intro state key value hstate honly
    exact honly.trans (hstate.onlyAt_change path key value)

theorem Keyed.onlyAt_add (hkeyed : roster.Keyed) (path : ObjectPath) (properties : Properties) :
    OnlyAt path.text roster (roster.add path properties).1 := by
  unfold add
  dsimp only
  split
  · exact hkeyed.onlyAt_merge path properties
  · have hput : OnlyAt path.text roster (roster.put { modem := { path } }) :=
      .of_update (find?_put _ _)
    exact hput.trans ((hkeyed.put _).onlyAt_merge path properties)

theorem Keyed.onlyAt_refresh (hkeyed : roster.Keyed) (path : ObjectPath)
    (properties : Properties) : OnlyAt path.text roster (roster.refresh path properties).1 := by
  unfold refresh
  split
  · exact hkeyed.onlyAt_add path properties
  · exact .refl _ _

theorem onlyAt_remove? (roster : ModemRoster) (path : ObjectPath) :
    OnlyAt path.text roster ((roster.remove? path).getD roster) := by
  unfold remove?
  cases roster.entries.get? path with
  | none => exact .refl _ _
  | some entry => exact .of_update (find?_erase _ _ _)

theorem Keyed.onlyAt_completeFetch? (hkeyed : roster.Keyed) (ticket : Ticket)
    (properties : Properties) :
    OnlyAt ticket.path.text roster ((roster.completeFetch? ticket properties).getD roster) := by
  cases hfetch : roster.completeFetch? ticket properties with
  | none => exact .refl _ _
  | some roster' =>
    obtain ⟨entry, hentry, -, rfl⟩ := completeFetch?_eq_some_iff.1 hfetch
    rw [← hkeyed.path_of_get? (attached?_eq_some_iff.1 hentry).1]
    exact .of_update (find?_putCounted _ _ _)

theorem Keyed.onlyAt_changeSim? (hkeyed : roster.Keyed) (path : ObjectPath) (key : String)
    (value : Value) :
    OnlyAt path.text roster ((roster.changeSim? path key value).getD roster) := by
  cases hsim : roster.changeSim? path key value with
  | none => exact .refl _ _
  | some roster' =>
    obtain ⟨entry, counted, hentry, -, rfl⟩ := changeSim?_eq_some_iff.1 hsim
    rw [← hkeyed.path_of_get? (attached?_eq_some_iff.1 hentry).1]
    exact .of_update (find?_putCounted _ _ _)

theorem Keyed.onlyAt_setLock (hkeyed : roster.Keyed) {text : String}
    (hfind : roster.entries.find? text = some entry) (lock : SimLock) :
    OnlyAt text roster (roster.setLock entry lock) := by
  rw [← hkeyed text entry hfind]
  exact .of_update (find?_put roster { entry with modem := { entry.modem with lock } })

theorem Keyed.onlyAt_command (hkeyed : roster.Keyed) (command : SimCommand) :
    OnlyAt command.modem roster (roster.command command) := by
  rw [hkeyed.command_eq]
  split
  next entry lock prepared htaken =>
    exact hkeyed.onlyAt_setLock (attempt_eq_ok_iff.1 htaken).1.1 lock
  next => exact .refl _ _

theorem Keyed.onlyAt_complete (hkeyed : roster.Keyed) (path : String) (request : SimRequest)
    (outcome : Outcome) : OnlyAt path roster (roster.complete path request outcome) := by
  unfold complete
  split
  · exact .refl _ _
  next entry hfind => exact hkeyed.onlyAt_setLock hfind _

/-- An event about one modem leaves the entries of all others as they are. -/
theorem Keyed.onlyAt_follow (hkeyed : roster.Keyed) {event : Event} {path : String}
    (hobject : event.object? = some (.modem path)) : OnlyAt path roster (roster.follow event) := by
  cases event with
  | modemAdded path properties =>
    cases hobject
    exact hkeyed.onlyAt_add path properties
  | modemRefreshed path properties =>
    cases hobject
    exact hkeyed.onlyAt_refresh path properties
  | modemRemoved path =>
    cases hobject
    exact onlyAt_remove? roster path
  | modemChanged path key value =>
    cases hobject
    exact hkeyed.onlyAt_change path key value
  | simFetched ticket properties =>
    cases hobject
    exact hkeyed.onlyAt_completeFetch? ticket properties
  | simChanged path key value =>
    cases hobject
    exact hkeyed.onlyAt_changeSim? path key value
  | commanded number command =>
    cases hobject
    exact hkeyed.onlyAt_command command
  | callFinished call outcome =>
    cases hobject
    exact hkeyed.onlyAt_complete call.modem call.request outcome
  | _ => cases hobject

/-! ## The modem itself -/

/-- Whether two changes come to the same for the modem at this path, but for generations. -/
structure AgreeAt (path : String) (result result' : ModemRoster × ModemChange) : Prop where
  find? : result.1.find? path = result'.1.find? path
  change : result.2.undated = result'.2.undated

theorem find?_put_self (roster : ModemRoster) (entry : Entry) :
    (roster.put entry).find? entry.modem.path.text = some entry.modem := by
  unfold ModemRoster.find?
  rw [find?_put, if_pos rfl, Option.map_some]

theorem find?_putCounted_self (roster : ModemRoster) (entry : Entry) (counted : Counted) :
    (roster.putCounted entry counted).find? entry.modem.path.text = some counted.modem := by
  unfold ModemRoster.find?
  rw [find?_putCounted, if_pos rfl, Option.map_some]

theorem agreeAt_put (roster roster' : ModemRoster) {text : String}
    (hpath : entry.modem.path.text = text) (h : entry.modem = entry'.modem)
    {change change' : ModemChange} (hchange : change.undated = change'.undated) :
    AgreeAt text (roster.put entry, change) (roster'.put entry', change') where
  find? := by
    rw [← hpath, find?_put_self, h, find?_put_self]
  change := hchange

theorem agreeAt_putCounted (roster roster' : ModemRoster) {text : String}
    (hpath : entry.modem.path.text = text) (h : entry.modem = entry'.modem)
    {counted counted' : Counted} (hcounted : counted.modem = counted'.modem)
    {change change' : ModemChange} (hchange : change.undated = change'.undated) :
    AgreeAt text (roster.putCounted entry counted, change)
      (roster'.putCounted entry' counted', change') where
  find? := by
    rw [← hpath, find?_putCounted_self, h, find?_putCounted_self, hcounted]
  change := hchange

theorem agreeAt_setSimManager (roster roster' : ModemRoster) {text : String}
    (hpath : entry.modem.path.text = text) (h : entry.modem = entry'.modem) (attached : Bool) :
    AgreeAt text (roster.setSimManager entry attached) (roster'.setSimManager entry' attached) := by
  obtain ⟨modem, generation⟩ := entry
  obtain ⟨modem', generation'⟩ := entry'
  obtain rfl : modem = modem' := h
  cases hmanager : modem.hasSimManager <;> cases attached
  case false.true =>
    rw [setSimManager_attach hmanager, setSimManager_attach hmanager]
    apply agreeAt_put
    exacts [hpath, rfl, rfl]
  case true.false =>
    rw [setSimManager_detach hmanager, setSimManager_detach hmanager]
    apply agreeAt_putCounted
    exacts [hpath, rfl, rfl, rfl]
  all_goals
    rw [setSimManager_same hmanager, setSimManager_same hmanager]
    apply agreeAt_put
    exacts [hpath, rfl, rfl]

theorem agreeAt_setProperty (hentry : roster.Holds entry) (hentry' : roster'.Holds entry')
    (h : entry.modem = entry'.modem) (key : String) (value : Value) :
    AgreeAt entry.modem.path.text (roster.setProperty entry key value)
      (roster'.setProperty entry' key value) := by
  obtain ⟨modem, generation⟩ := entry
  obtain ⟨modem', generation'⟩ := entry'
  obtain rfl : modem = modem' := h
  unfold setProperty
  split
  case h_6 => exact agreeAt_setSimManager _ _ (by rfl) (by rfl) _
  case h_7 => exact ⟨(find?_of_entry hentry).trans (find?_of_entry hentry').symm, rfl⟩
  all_goals exact agreeAt_put _ _ (by rfl) (by rfl) (by rfl)

theorem Keyed.agreeAt_change (hkeyed : roster.Keyed) (hkeyed' : roster'.Keyed)
    (h : roster.find? path.text = roster'.find? path.text) (key : String) (value : Value) :
    AgreeAt path.text (roster.change path key value) (roster'.change path key value) := by
  have hentries : (roster.entries.get? path).map Entry.modem =
      (roster'.entries.get? path).map Entry.modem := h
  unfold ModemRoster.change
  cases hfind : roster.entries.get? path with
  | none =>
    rw [hfind, Option.map_none, eq_comm, Option.map_eq_none_iff] at hentries
    rw [hentries]
    exact ⟨h, rfl⟩
  | some entry =>
    rw [hfind, Option.map_some, eq_comm, Option.map_eq_some_iff] at hentries
    obtain ⟨entry', hfind', hmodem⟩ := hentries
    rw [hfind', ← hkeyed.path_of_get? hfind]
    exact agreeAt_setProperty (hkeyed.holds hfind) (hkeyed'.holds hfind') hmodem.symm key value

theorem AgreeAt.laterChange {path : String} {earlier earlier' : ModemChange}
    {result result' : ModemRoster × ModemChange} (h : AgreeAt path result result')
    (hearlier : earlier.undated = earlier'.undated) :
    AgreeAt path (result.1, ModemRoster.laterChange earlier result.2)
      (result'.1, ModemRoster.laterChange earlier' result'.2) where
  find? := h.find?
  change := by
    rw [undated_laterChange, undated_laterChange, hearlier, h.change]

theorem Keyed.agreeAt_merge (hkeyed : roster.Keyed) (hkeyed' : roster'.Keyed)
    (h : roster.find? path.text = roster'.find? path.text) (properties : Properties) :
    AgreeAt path.text (roster.merge path properties) (roster'.merge path properties) := by
  let step (state : ModemRoster × ModemChange) (property : String × Value) :=
    ((state.1.change path property.1 property.2).1,
      ModemRoster.laterChange state.2 (state.1.change path property.1 property.2).2)
  have hfold (entries : List (String × Value)) (state state' : ModemRoster × ModemChange)
      (hstate : state.1.Keyed) (hstate' : state'.1.Keyed)
      (hagree : AgreeAt path.text state state') :
      AgreeAt path.text (entries.foldl step state) (entries.foldl step state') := by
    induction entries generalizing state state' with
    | nil => exact hagree
    | cons property rest ih =>
      apply ih
      · exact hstate.keyed_change path property.1 property.2
      · exact hstate'.keyed_change path property.1 property.2
      · have hchange := hstate.agreeAt_change hstate' hagree.find? property.1 property.2
        exact hchange.laterChange hagree.change
  exact hfold properties.entries _ _ hkeyed hkeyed' ⟨h, rfl⟩

theorem contains_eq (roster : ModemRoster) (path : ObjectPath) :
    roster.contains path = (roster.find? path.text).isSome := by
  unfold contains SortedMap.contains ModemRoster.find?
  rw [Option.isSome_map]
  rfl

theorem Keyed.agreeAt_add (hkeyed : roster.Keyed) (hkeyed' : roster'.Keyed)
    (h : roster.find? path.text = roster'.find? path.text) (properties : Properties) :
    AgreeAt path.text (roster.add path properties) (roster'.add path properties) := by
  unfold add
  rw [contains_eq, contains_eq, h]
  dsimp only
  split
  · exact hkeyed.agreeAt_merge hkeyed' h properties
  · have hnew (roster : ModemRoster) :
        (roster.put { modem := { path } }).find? path.text = some { path } :=
      find?_put_self roster _
    exact (hkeyed.put _).agreeAt_merge (hkeyed'.put _) ((hnew _).trans (hnew _).symm) properties

theorem Keyed.agreeAt_refresh (hkeyed : roster.Keyed) (hkeyed' : roster'.Keyed)
    (h : roster.find? path.text = roster'.find? path.text) (properties : Properties) :
    AgreeAt path.text (roster.refresh path properties) (roster'.refresh path properties) := by
  unfold refresh
  rw [contains_eq, contains_eq, h]
  split
  · exact hkeyed.agreeAt_add hkeyed' h properties
  · exact ⟨h, rfl⟩

/-- Whether a modem is there to be removed, and afterwards it is not. -/
theorem find?_remove? (roster : ModemRoster) (path : ObjectPath) :
    (roster.remove? path).isSome = (roster.find? path.text).isSome ∧
      ((roster.remove? path).getD roster).find? path.text = none := by
  unfold remove? ModemRoster.find?
  cases hfind : roster.entries.get? path with
  | none =>
    have hnone : roster.entries.find? path.text = none := hfind
    rw [hnone]
    exact ⟨rfl, by rw [Option.map_none, Option.getD_none, hnone, Option.map_none]⟩
  | some entry =>
    have hsome : roster.entries.find? path.text = some entry := hfind
    rw [hsome]
    refine ⟨rfl, ?_⟩
    rw [Option.map_some, Option.getD_some, find?_erase, if_pos rfl, Option.map_none]

theorem attached?_congr (h : roster.entries.find? path.text = roster'.entries.find? path.text) :
    roster.attached? path = roster'.attached? path := by
  have hget : roster.entries.get? path = roster'.entries.get? path := h
  unfold attached?
  rw [hget]

theorem completeFetch?_of_attached {ticket : Ticket}
    (h : roster.attached? ticket.path = some entry) (properties : Properties) :
    roster.completeFetch? ticket properties =
      if entry.simGeneration = ticket.generation then
        some (roster.putCounted entry ((roster.counted entry).report properties))
      else none := by
  unfold completeFetch?
  rw [h]
  by_cases hgeneration : entry.simGeneration = ticket.generation <;> simp [hgeneration]

/-- Whether a reply is taken depends on the entry, and what it leaves there on the modem alone. -/
theorem Keyed.find?_completeFetch?_congr (hkeyed : roster.Keyed) {ticket : Ticket}
    (h : roster.entries.find? ticket.path.text = roster'.entries.find? ticket.path.text)
    (properties : Properties) :
    ((roster.completeFetch? ticket properties).getD roster).find? ticket.path.text =
      ((roster'.completeFetch? ticket properties).getD roster').find? ticket.path.text := by
  have hsame : roster.find? ticket.path.text = roster'.find? ticket.path.text :=
    congrArg (Option.map Entry.modem) h
  have hattached := attached?_congr h
  cases hentry : roster.attached? ticket.path with
  | none =>
    rw [hentry] at hattached
    unfold completeFetch?
    rw [hentry, ← hattached]
    exact hsame
  | some entry =>
    rw [hentry] at hattached
    rw [completeFetch?_of_attached hentry, completeFetch?_of_attached hattached.symm]
    split
    · rw [← hkeyed.path_of_get? (attached?_eq_some_iff.1 hentry).1]
      exact (find?_putCounted_self _ _ _).trans (find?_putCounted_self _ _ _).symm
    · exact hsame

theorem Keyed.find?_changeSim?_congr (hkeyed : roster.Keyed)
    (h : roster.entries.find? path.text = roster'.entries.find? path.text) (key : String)
    (value : Value) :
    ((roster.changeSim? path key value).getD roster).find? path.text =
      ((roster'.changeSim? path key value).getD roster').find? path.text := by
  have hsame : roster.find? path.text = roster'.find? path.text :=
    congrArg (Option.map Entry.modem) h
  unfold changeSim?
  rw [attached?_congr h]
  cases hentry : roster'.attached? path with
  | none => exact hsame
  | some entry =>
    have hfind := (attached?_eq_some_iff.1 ((attached?_congr h).trans hentry)).1
    have hmodem : ((roster.counted entry).setProperty? key value).map Counted.modem =
        ((roster'.counted entry).setProperty? key value).map Counted.modem :=
      Counted.map_modem_setProperty? (by rfl) key value
    rw [← hkeyed.path_of_get? hfind] at hsame ⊢
    dsimp only [bind, Option.bind]
    generalize (roster.counted entry).setProperty? key value = changed at hmodem ⊢
    generalize (roster'.counted entry).setProperty? key value = changed' at hmodem ⊢
    cases changed with
    | none =>
      rw [Option.map_none, eq_comm, Option.map_eq_none_iff] at hmodem
      rw [hmodem]
      exact hsame
    | some counted =>
      rw [Option.map_some, eq_comm, Option.map_eq_some_iff] at hmodem
      obtain ⟨counted', rfl, hcounted⟩ := hmodem
      dsimp only [Option.getD_some]
      rw [find?_putCounted_self, find?_putCounted_self, hcounted]

/-- Who takes a command, and what it comes to there, depends on the entry of the modem alone. -/
theorem attempt_congr {command : SimCommand}
    (h : roster.entries.find? command.modem = roster'.entries.find? command.modem) :
    roster.attempt command = roster'.attempt command := by
  unfold attempt simModem
  rw [h]

theorem Keyed.find?_command_congr (hkeyed : roster.Keyed) (hkeyed' : roster'.Keyed)
    {command : SimCommand}
    (h : roster.entries.find? command.modem = roster'.entries.find? command.modem) :
    (roster.command command).find? command.modem =
      (roster'.command command).find? command.modem := by
  rw [hkeyed.command_eq, hkeyed'.command_eq, attempt_congr h]
  split
  next entry lock prepared htaken =>
    rw [← hkeyed' _ entry (attempt_eq_ok_iff.1 htaken).1.1]
    exact (find?_put_self _ _).trans (find?_put_self _ _).symm
  next => exact congrArg (Option.map Entry.modem) h

theorem Keyed.find?_complete_congr (hkeyed : roster.Keyed) {text : String}
    (h : roster.entries.find? text = roster'.entries.find? text) (request : SimRequest)
    (outcome : Outcome) :
    (roster.complete text request outcome).find? text =
      (roster'.complete text request outcome).find? text := by
  unfold complete
  rw [← h]
  split
  · exact congrArg (Option.map Entry.modem) h
  next entry hfind =>
    rw [← hkeyed text entry hfind]
    exact (find?_put_self _ _).trans (find?_put_self _ _).symm

/-- What an event about one modem makes of it depends on the entry of this modem alone. -/
theorem Keyed.find?_follow_congr (hkeyed : roster.Keyed) (hkeyed' : roster'.Keyed) {event : Event}
    {path : String} (hobject : event.object? = some (.modem path))
    (h : roster.entries.find? path = roster'.entries.find? path) :
    (roster.follow event).find? path = (roster'.follow event).find? path := by
  have hsame : roster.find? path = roster'.find? path := congrArg (Option.map Entry.modem) h
  cases event with
  | modemAdded path properties =>
    cases hobject
    exact (hkeyed.agreeAt_add hkeyed' hsame properties).find?
  | modemRefreshed path properties =>
    cases hobject
    exact (hkeyed.agreeAt_refresh hkeyed' hsame properties).find?
  | modemRemoved path =>
    cases hobject
    exact (find?_remove? roster path).2.trans (find?_remove? roster' path).2.symm
  | modemChanged path key value =>
    cases hobject
    exact (hkeyed.agreeAt_change hkeyed' hsame key value).find?
  | simFetched ticket properties =>
    cases hobject
    exact hkeyed.find?_completeFetch?_congr h properties
  | simChanged path key value =>
    cases hobject
    exact hkeyed.find?_changeSim?_congr h key value
  | commanded number command =>
    cases hobject
    exact hkeyed.find?_command_congr hkeyed' h
  | callFinished call outcome =>
    cases hobject
    exact hkeyed.find?_complete_congr h call.request outcome
  | _ => cases hobject

end ModemRoster

end Uplink
