import Mathlib.Data.Option.Basic
import Mathlib.Logic.Relation
import Mathlib.Tactic.Common
import Uplink.Proofs.Sim.Lock
import Uplink.Proofs.Tracker.Run
/-!
# How the tracked modems can change

The modems change by elementary moves: a modem is announced, described or forgotten, its SIM manager
comes or goes, its SIM reports something, its lock notes a credential, or a call to the SIM ends.
Each move says exactly on which entry it acts and when it is possible, so that an invariant has to
be checked once for each move.
-/

namespace Uplink

open Wire (Value Properties)

/-- Whether two records tell the same of the SIM. -/
structure Modem.SameSim (a b : Modem) : Prop where
  path : a.path = b.path
  hasSimManager : a.hasSimManager = b.hasSimManager
  simPresent : a.simPresent = b.simPresent
  required : a.required = b.required
  retries : a.retries = b.retries
  subscriberIdentity : a.subscriberIdentity = b.subscriberIdentity
  lock : a.lock = b.lock

namespace Counted

theorem path_setProperty? {counted changed : Counted} {key : String} {value : Value}
    (h : counted.setProperty? key value = some changed) :
    changed.modem.path = counted.modem.path := by
  unfold setProperty? at h
  split at h <;> cases h <;> rfl

theorem hasSimManager_setProperty? {counted changed : Counted} {key : String} {value : Value}
    (h : counted.setProperty? key value = some changed) :
    changed.modem.hasSimManager = counted.modem.hasSimManager := by
  unfold setProperty? at h
  split at h <;> cases h <;> rfl

end Counted

namespace ModemRoster

/-- Whether this is the entry at its own path. -/
def Holds (roster : ModemRoster) (entry : Entry) : Prop :=
  roster.entries.get? entry.modem.path = some entry

/-- Every entry stands under the path of its modem. -/
def Keyed (roster : ModemRoster) : Prop :=
  ∀ text entry, roster.entries.find? text = some entry → entry.modem.path.text = text

def count (roster : ModemRoster) : ModemRoster :=
  { roster with generation := roster.generation + 1 }

/-- The entry with its SIM manager attached for the first time in this generation. -/
def Entry.attach (entry : Entry) (generation : Nat) : Entry where
  modem := { entry.modem with hasSimManager := true }
  simGeneration := generation

def Entry.detach (entry : Entry) : Entry :=
  { entry with modem := { entry.modem with hasSimManager := false } }

theorem Entry.path_attach (entry : Entry) (generation : Nat) :
    (entry.attach generation).modem.path = entry.modem.path := rfl

theorem Entry.path_detach (entry : Entry) : entry.detach.modem.path = entry.modem.path := rfl

/-- The elementary changes. -/
inductive Move : ModemRoster → ModemRoster → Prop
  | announce {roster : ModemRoster} {path : ObjectPath} (h : roster.entries.get? path = none) :
    Move roster (roster.put { modem := { path } })
  | describe {roster : ModemRoster} {entry : Entry} {modem : Modem} (h : roster.Holds entry)
    (hsame : entry.modem.SameSim modem) : Move roster (roster.put { entry with modem })
  | count {roster : ModemRoster} : Move roster roster.count
  | attach {roster : ModemRoster} {entry : Entry} (h : roster.Holds entry)
    (hbare : entry.modem.hasSimManager = false) :
    Move roster (roster.count.put (entry.attach (roster.generation + 1)))
  | detach {roster : ModemRoster} {entry : Entry} (h : roster.Holds entry)
    (hattached : entry.modem.hasSimManager = true) :
    Move roster (roster.count.putCounted entry.detach (roster.counted entry.detach).clearSim)
  | report {roster : ModemRoster} {entry : Entry} {properties : Properties}
    (h : roster.Holds entry) (hattached : entry.modem.hasSimManager = true) :
    Move roster (roster.putCounted entry ((roster.counted entry).report properties))
  | change {roster : ModemRoster} {entry : Entry} {key : String} {value : Value}
    {counted : Counted} (h : roster.Holds entry) (hattached : entry.modem.hasSimManager = true)
    (hchange : (roster.counted entry).setProperty? key value = some counted) :
    Move roster (roster.putCounted entry counted)
  | note {roster : ModemRoster} {entry : Entry} {lock : SimLock} (h : roster.Holds entry)
    (hattached : entry.modem.hasSimManager = true)
    (hnote : (∃ kind, lock = { entry.modem.lock with lastKind := some kind }) ∨
      ∃ puk, entry.modem.lock.submitPuk puk = .ok lock) :
    Move roster (roster.setLock entry lock)
  | complete {roster : ModemRoster} {entry : Entry} {request : SimRequest} {outcome : Outcome}
    (h : roster.Holds entry) :
    Move roster (roster.setLock entry (entry.modem.lock.complete request outcome))
  | forget {roster : ModemRoster} {entry : Entry} (h : roster.Holds entry) :
    Move roster
      { roster with
        entries := roster.entries.erase entry.modem.path
        totals := (roster.counted entry).clearSim.totals }

/-- Several elementary changes, one after the other. -/
abbrev Moves : ModemRoster → ModemRoster → Prop := Relation.ReflTransGen Move

theorem Keyed.holds {roster : ModemRoster} (hkeyed : roster.Keyed) {text : String} {entry : Entry}
    (h : roster.entries.find? text = some entry) : roster.Holds entry := by
  unfold Holds
  change roster.entries.find? entry.modem.path.text = some entry
  rw [hkeyed text entry h]
  exact h

/-- A modem is found in the listing of all modems by its own path. -/
theorem Keyed.find?_modems {roster : ModemRoster} (hkeyed : roster.Keyed) (text : String) :
    (roster.modems.find? fun modem ↦ modem.path.text == text) = roster.find? text := by
  have hpaths : ∀ entry ∈ roster.entries.entries, entry.2.modem.path.text = entry.1.text :=
    fun entry hentry ↦ hkeyed _ _ (SortedMap.get?_of_mem hentry)
  unfold modems find? SortedMap.values SortedMap.find?
  generalize roster.entries.entries = entries at hpaths ⊢
  induction entries with
  | nil => rfl
  | cons head rest ih =>
    have hhead := hpaths head (List.mem_cons_self)
    have hrest := ih fun entry hentry ↦ hpaths entry (List.mem_cons_of_mem _ hentry)
    rw [List.map_cons, List.map_cons, List.find?_cons, hhead, hrest, SortedMap.lookupLabel]
    change _ = Option.map _ (if head.1.text = text then _ else _)
    by_cases htext : head.1.text = text
    · rw [if_pos htext, beq_iff_eq.2 htext]
      rfl
    · rw [if_neg htext, beq_eq_false_iff_ne.2 htext]

theorem find?_eq_some_iff {roster : ModemRoster} {path : String} {modem : Modem} :
    roster.find? path = some modem ↔
      ∃ entry, roster.entries.find? path = some entry ∧ entry.modem = modem :=
  Option.map_eq_some_iff

theorem find?_of_entry {roster : ModemRoster} {path : String} {entry : Entry}
    (h : roster.entries.find? path = some entry) : roster.find? path = some entry.modem :=
  find?_eq_some_iff.2 ⟨entry, h, rfl⟩

theorem find?_put (roster : ModemRoster) (entry : Entry) (text : String) :
    (roster.put entry).entries.find? text =
      if entry.modem.path.text = text then some entry else roster.entries.find? text :=
  SortedMap.find?_insert roster.entries entry.modem.path entry text

theorem find?_putCounted (roster : ModemRoster) (entry : Entry) (counted : Counted)
    (text : String) :
    (roster.putCounted entry counted).entries.find? text =
      if entry.modem.path.text = text then some { entry with modem := counted.modem }
      else roster.entries.find? text :=
  SortedMap.find?_insert roster.entries entry.modem.path _ text

theorem find?_erase (roster : ModemRoster) (path : ObjectPath) (totals : SimTotals)
    (text : String) :
    ({ roster with entries := roster.entries.erase path, totals } : ModemRoster).entries.find?
        text =
      if path.text = text then none else roster.entries.find? text :=
  SortedMap.find?_erase roster.entries path text

/-- One entry comes, goes or changes. -/
theorem get?_update {roster roster' : ModemRoster} {path : ObjectPath} {value : Option Entry}
    (h : ∀ text, roster'.entries.find? text =
      if path.text = text then value else roster.entries.find? text) (other : ObjectPath) :
    roster'.entries.get? other = if other = path then value else roster.entries.get? other := by
  change roster'.entries.find? other.text = if _ then _ else roster.entries.find? other.text
  rw [h]
  by_cases hpath : other = path
  · rw [if_pos hpath, if_pos (hpath ▸ rfl)]
  · rw [if_neg hpath, if_neg fun htext ↦ hpath (ObjectPath.ext_text htext.symm)]

theorem Keyed.path_of_get? {roster : ModemRoster} {path : ObjectPath} {entry : Entry}
    (hkeyed : roster.Keyed) (h : roster.entries.get? path = some entry) :
    entry.modem.path = path := ObjectPath.ext_text (hkeyed path.text entry h)

theorem Keyed.put {roster : ModemRoster} (hkeyed : roster.Keyed) (entry : Entry) :
    (roster.put entry).Keyed := by
  intro text other hfind
  rw [find?_put] at hfind
  split at hfind
  next hpath =>
    obtain rfl := Option.some.inj hfind
    exact hpath
  next => exact hkeyed text other hfind

theorem Keyed.putCounted {roster : ModemRoster} (hkeyed : roster.Keyed) {entry : Entry}
    {counted : Counted} (hpath : counted.modem.path = entry.modem.path) :
    (roster.putCounted entry counted).Keyed := by
  intro text other hfind
  rw [find?_putCounted] at hfind
  split at hfind
  next htext =>
    obtain rfl := Option.some.inj hfind
    rw [← htext]
    exact congrArg ObjectPath.text hpath
  next => exact hkeyed text other hfind

theorem Move.keyed {roster roster' : ModemRoster} (h : Move roster roster')
    (hkeyed : roster.Keyed) : roster'.Keyed := by
  cases h with
  | announce h => exact hkeyed.put _
  | describe h hsame => exact hkeyed.put _
  | count => exact hkeyed
  | attach h hbare => exact Keyed.put hkeyed _
  | detach h hattached => exact Keyed.putCounted hkeyed rfl
  | report h hattached => exact hkeyed.putCounted rfl
  | change h hattached hchange => exact hkeyed.putCounted (Counted.path_setProperty? hchange)
  | note h hattached hnote => exact hkeyed.put _
  | complete h => exact hkeyed.put _
  | forget h =>
    intro text other hfind
    rw [SortedMap.find?_erase] at hfind
    split at hfind
    · cases hfind
    · exact hkeyed text other hfind

theorem Moves.keyed {roster roster' : ModemRoster} (h : Moves roster roster')
    (hkeyed : roster.Keyed) : roster'.Keyed := by
  induction h with
  | refl => exact hkeyed
  | tail _ hmove ih => exact hmove.keyed ih

theorem put_put (roster : ModemRoster) {first second : Entry}
    (h : first.modem.path = second.modem.path) :
    (roster.put first).put second = roster.put second := by
  unfold put
  congr 1
  refine SortedMap.ext_find? fun text ↦ ?_
  simp only [SortedMap.find?_insert, h]
  split <;> rfl

theorem putCounted_put (roster : ModemRoster) {first second : Entry} {counted : Counted}
    (h : first.modem.path = second.modem.path) :
    (roster.put first).putCounted second counted = roster.putCounted second counted := by
  unfold put putCounted
  congr 1
  refine SortedMap.ext_find? fun text ↦ ?_
  simp only [SortedMap.find?_insert, h]
  split <;> rfl

theorem put_eq_self {roster : ModemRoster} {entry : Entry} (h : roster.Holds entry) :
    roster.put entry = roster := by
  have hentries : roster.entries.insert entry.modem.path entry = roster.entries := by
    refine SortedMap.ext_find? fun text ↦ ?_
    rw [SortedMap.find?_insert]
    split
    next htext =>
      rw [← htext]
      exact h.symm
    next => rfl
  unfold put
  rw [hentries]

theorem holds_put (roster : ModemRoster) (entry : Entry) : (roster.put entry).Holds entry := by
  unfold Holds
  change (roster.put entry).entries.find? entry.modem.path.text = some entry
  rw [find?_put, if_pos rfl]

theorem setSimManager_attach {roster : ModemRoster} {entry : Entry}
    (h : entry.modem.hasSimManager = false) :
    roster.setSimManager entry true =
      (roster.count.put (entry.attach (roster.generation + 1)),
        .attachSim ⟨entry.modem.path, roster.generation + 1⟩) := by
  unfold setSimManager
  rw [h]
  rfl

theorem setSimManager_detach {roster : ModemRoster} {entry : Entry}
    (h : entry.modem.hasSimManager = true) :
    roster.setSimManager entry false =
      (roster.count.putCounted entry.detach (roster.counted entry.detach).clearSim,
        .detachSim entry.modem.path) := by
  unfold setSimManager
  rw [h]
  rfl

theorem setSimManager_same {roster : ModemRoster} {entry : Entry} {attached : Bool}
    (h : entry.modem.hasSimManager = attached) :
    roster.setSimManager entry attached = (roster.count.put entry, .applied) := by
  unfold setSimManager
  cases attached <;> rw [h] <;> rfl

/-- A property describes the modem; the interfaces also say whether its SIM manager is there. -/
theorem setProperty_cases {roster : ModemRoster} {entry : Entry} (h : roster.Holds entry)
    (key : String) (value : Value) :
    (key = "Interfaces" ∧ ∃ modem attached, entry.modem.SameSim modem ∧
      roster.setProperty entry key value = roster.setSimManager { entry with modem } attached) ∨
    (key ≠ "Interfaces" ∧ ∃ modem, entry.modem.SameSim modem ∧
      roster.setProperty entry key value = (roster.put { entry with modem }, .applied)) := by
  unfold setProperty
  split
  case h_6 =>
    refine .inl ⟨rfl, _, _, ?_, rfl⟩
    exact ⟨rfl, rfl, rfl, rfl, rfl, rfl, rfl⟩
  case h_7 hother =>
    refine .inr ⟨hother, entry.modem, ⟨rfl, rfl, rfl, rfl, rfl, rfl, rfl⟩, ?_⟩
    rw [put_eq_self h]
  all_goals
    refine .inr ⟨by decide, _, ?_, rfl⟩
    exact ⟨rfl, rfl, rfl, rfl, rfl, rfl, rfl⟩

theorem attached?_eq_some_iff {roster : ModemRoster} {path : ObjectPath} {entry : Entry} :
    roster.attached? path = some entry ↔
      roster.entries.get? path = some entry ∧ entry.modem.hasSimManager = true := by
  simp [attached?, Option.filter_eq_some_iff]

theorem completeFetch?_eq_some_iff {roster roster' : ModemRoster} {ticket : Ticket}
    {properties : Properties} :
    roster.completeFetch? ticket properties = some roster' ↔
      ∃ entry, roster.attached? ticket.path = some entry ∧
        entry.simGeneration = ticket.generation ∧
        roster.putCounted entry ((roster.counted entry).report properties) = roster' := by
  unfold completeFetch?
  simp [Option.bind_eq_some_iff, Option.guard_eq_some']

theorem changeSim?_eq_some_iff {roster roster' : ModemRoster} {path : ObjectPath} {key : String}
    {value : Value} :
    roster.changeSim? path key value = some roster' ↔
      ∃ entry counted, roster.attached? path = some entry ∧
        (roster.counted entry).setProperty? key value = some counted ∧
        roster.putCounted entry counted = roster' := by
  unfold changeSim?
  simp [Option.bind_eq_some_iff]

theorem simModem_eq_ok_iff {roster : ModemRoster} {path : String} {entry : Entry} :
    roster.simModem path = .ok entry ↔
      roster.entries.find? path = some entry ∧ entry.modem.hasSimManager = true := by
  unfold simModem
  cases roster.entries.find? path with
  | none => simp
  | some other =>
    by_cases hattached : other.modem.hasSimManager = true
    · simp only [hattached, if_true, Except.ok.injEq, Option.some.injEq]
      exact ⟨fun h ↦ ⟨h, h ▸ hattached⟩, And.left⟩
    · simp only [hattached, Bool.false_eq_true, if_false, reduceCtorEq, Option.some.injEq,
        false_iff]
      rintro ⟨rfl, h⟩
      exact hattached h

theorem enter_eq_ok_iff {roster roster' : ModemRoster} {path pin : String}
    {request : SimRequest} :
    roster.enter path pin = .ok (roster', request) ↔
      ∃ entry lock, (roster.entries.find? path = some entry ∧ entry.modem.hasSimManager = true) ∧
        entry.modem.lock.enter pin = .ok (lock, request) ∧
        roster.setLock entry lock = roster' := by
  simp only [enter, bind_eq_ok_iff, simModem_eq_ok_iff, Except.ok.injEq, Prod.mk.injEq,
    Prod.exists]
  grind

theorem submitPuk_eq_ok_iff {roster roster' : ModemRoster} {path puk : String} :
    roster.submitPuk path puk = .ok roster' ↔
      ∃ entry lock, (roster.entries.find? path = some entry ∧ entry.modem.hasSimManager = true) ∧
        entry.modem.lock.submitPuk puk = .ok lock ∧ roster.setLock entry lock = roster' := by
  simp only [submitPuk, bind_eq_ok_iff, simModem_eq_ok_iff, Except.ok.injEq]
  grind

theorem reset_eq_ok_iff {roster : ModemRoster} {path newPin : String} {request : SimRequest} :
    roster.reset path newPin = .ok request ↔
      ∃ entry, (roster.entries.find? path = some entry ∧ entry.modem.hasSimManager = true) ∧
        entry.modem.lock.reset newPin = .ok request := by
  simp only [reset, bind_eq_ok_iff, simModem_eq_ok_iff]

theorem changePin_eq_ok_iff {roster roster' : ModemRoster} {path : String}
    {kind : CredentialKind} {oldPin newPin : String} {request : SimRequest} :
    roster.changePin path kind oldPin newPin = .ok (roster', request) ↔
      ∃ entry lock, (roster.entries.find? path = some entry ∧ entry.modem.hasSimManager = true) ∧
        entry.modem.lock.change kind oldPin newPin = .ok (lock, request) ∧
        roster.setLock entry lock = roster' := by
  simp only [changePin, bind_eq_ok_iff, simModem_eq_ok_iff, Except.ok.injEq, Prod.mk.injEq,
    Prod.exists]
  grind

end ModemRoster

/-- What a detached SIM manager leaves of a modem. -/
def Modem.withoutSim (modem : Modem) : Modem :=
  { modem with
    hasSimManager := false, simPresent := false, required := none, retries := ∅,
    subscriberIdentity := none, lock := {} }

/-- A property of modems that holds of a new one and that every elementary move keeps. -/
structure Modem.Stable (P : Modem → Prop) : Prop where
  announce (path : ObjectPath) : P { path }
  describe {modem described : Modem} (h : P modem) (hsame : modem.SameSim described) : P described
  attach {modem : Modem} (h : P modem) (hbare : modem.hasSimManager = false) :
    P { modem with hasSimManager := true }
  detach {modem : Modem} (h : P modem) : P modem.withoutSim
  report {counted : Counted} (h : P counted.modem) (hattached : counted.modem.hasSimManager = true)
    (properties : Properties) : P (counted.report properties).modem
  change {counted changed : Counted} {key : String} {value : Value} (h : P counted.modem)
    (hattached : counted.modem.hasSimManager = true)
    (hchange : counted.setProperty? key value = some changed) : P changed.modem
  note {modem : Modem} {lock : SimLock} (h : P modem) (hattached : modem.hasSimManager = true)
    (hnote : (∃ kind, lock = { modem.lock with lastKind := some kind }) ∨
      ∃ puk, modem.lock.submitPuk puk = .ok lock) : P { modem with lock }
  complete {modem : Modem} (h : P modem) (request : SimRequest) (outcome : Outcome) :
    P { modem with lock := modem.lock.complete request outcome }

/-- What is said only of a modem without a SIM manager is kept by every move that needs one. -/
theorem Modem.Stable.of_bare {P : Modem → Prop} (announce : ∀ path : ObjectPath, P { path })
    (describe : ∀ modem described : Modem, P modem → modem.SameSim described → P described)
    (detach : ∀ modem : Modem, P modem.withoutSim)
    (complete : ∀ (modem : Modem) (request : SimRequest) (outcome : Outcome), P modem →
      P { modem with lock := modem.lock.complete request outcome }) :
    Modem.Stable fun modem ↦ modem.hasSimManager = false → P modem := by
  have hvacuous {modem : Modem} (hattached : modem.hasSimManager = true) :
      modem.hasSimManager = false → P modem := by
    intro hbare
    rw [hattached] at hbare
    cases hbare
  exact
    { announce := fun path _ ↦ announce path
      describe := fun h hsame hbare ↦ describe _ _ (h (hsame.hasSimManager.trans hbare)) hsame
      attach := fun _ _ ↦ hvacuous rfl
      detach := fun _ _ ↦ detach _
      report := fun _ hattached _ ↦ hvacuous hattached
      change := fun _ hattached hchange ↦
        hvacuous ((Counted.hasSimManager_setProperty? hchange).trans hattached)
      note := fun _ hattached _ ↦ hvacuous hattached
      complete := fun h request outcome hbare ↦ complete _ request outcome (h hbare) }

namespace ModemRoster

/-- Whether every tracked modem is such. -/
def All (P : Modem → Prop) (roster : ModemRoster) : Prop :=
  ∀ text entry, roster.entries.find? text = some entry → P entry.modem

variable {P : Modem → Prop} {roster roster' : ModemRoster}

theorem All.put (h : roster.All P) {entry : Entry} (hentry : P entry.modem) :
    (roster.put entry).All P := by
  intro text other hfind
  rw [find?_put] at hfind
  split at hfind
  · rw [← Option.some.inj hfind]
    exact hentry
  · exact h text other hfind

theorem All.putCounted (h : roster.All P) (entry : Entry) {counted : Counted}
    (hcounted : P counted.modem) : (roster.putCounted entry counted).All P := by
  intro text other hfind
  rw [find?_putCounted] at hfind
  split at hfind
  · rw [← Option.some.inj hfind]
    exact hcounted
  · exact h text other hfind

theorem All.erase (h : roster.All P) (path : ObjectPath) (totals : SimTotals) :
    ({ roster with entries := roster.entries.erase path, totals } : ModemRoster).All P := by
  intro text other hfind
  rw [find?_erase] at hfind
  split at hfind
  · cases hfind
  · exact h text other hfind

theorem All.find? (h : roster.All P) {path : String} {modem : Modem}
    (hfind : roster.find? path = some modem) : P modem := by
  obtain ⟨entry, hentry, rfl⟩ := find?_eq_some_iff.1 hfind
  exact h path entry hentry

theorem modem_clearSim_detach (roster : ModemRoster) (entry : Entry) :
    (roster.counted entry.detach).clearSim.modem = entry.modem.withoutSim := rfl

theorem Move.all (hstable : Modem.Stable P) (hmove : Move roster roster') (h : roster.All P) :
    roster'.All P := by
  cases hmove with
  | announce hfresh => exact h.put (hstable.announce _)
  | describe hentry hsame => exact h.put (hstable.describe (h _ _ hentry) hsame)
  | count => exact h
  | attach hentry hbare => exact All.put h (hstable.attach (h _ _ hentry) hbare)
  | detach hentry hattached =>
    refine All.putCounted h _ ?_
    rw [modem_clearSim_detach]
    exact hstable.detach (h _ _ hentry)
  | report hentry hattached => exact h.putCounted _ (hstable.report (h _ _ hentry) hattached _)
  | change hentry hattached hchange =>
    exact h.putCounted _ (hstable.change (h _ _ hentry) hattached hchange)
  | note hentry hattached hnote => exact h.put (hstable.note (h _ _ hentry) hattached hnote)
  | complete hentry => exact h.put (hstable.complete (h _ _ hentry) _ _)
  | forget hentry => exact h.erase _ _

theorem Moves.all (hstable : Modem.Stable P) (hmoves : Moves roster roster') (h : roster.All P) :
    roster'.All P := by
  induction hmoves with
  | refl => exact h
  | tail _ hmove ih => exact hmove.all hstable ih

end ModemRoster

end Uplink
