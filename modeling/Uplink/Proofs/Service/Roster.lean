import Mathlib.Data.List.Nodup
import Mathlib.Data.Option.Basic
import Mathlib.Tactic.Common
import Uplink.Proofs.Service.Reading
import Uplink.Proofs.Tracker.Run
/-!
# The list of tracked services

The tracked services have distinct paths, each stands at the place that its record says, and no
generation is larger than the one given out last. A new list of services takes over every service
that stays, with nothing but its place changed, and a list that reports no difference leaves the
roster exactly as it was.
-/

namespace Uplink

open Wire (Value Properties)

theorem Reconciliation.isEmpty_iff {outcome : Reconciliation} :
    outcome.isEmpty = true ↔
      outcome.added = [] ∧ outcome.removed = [] ∧ outcome.reordered = false := by
  simp [isEmpty, and_assoc]

namespace ServiceRoster

/-- What holds of the services in every reachable state. -/
structure WellFormed (roster : ServiceRoster) : Prop where
  distinct : roster.paths.Nodup
  indexed : ∀ (place : Nat) (entry : Entry), roster.entries[place]? = some entry →
    entry.service.index = place
  generated : ∀ entry ∈ roster.entries, entry.generation ≤ roster.generation

/-- The entry at another place in the list. -/
def Entry.moved (entry : Entry) (index : Nat) : Entry :=
  { entry with service := { entry.service with index } }

@[simp] theorem Entry.path_moved (entry : Entry) (index : Nat) :
    (entry.moved index).path = entry.path := rfl

/-- The entry of a service that is new. -/
def Entry.new (path : ObjectPath) (index generation : Nat) : Entry where
  service := .provisional path index
  generation := generation

@[simp] theorem Entry.path_new (path : ObjectPath) (index generation : Nat) :
    (Entry.new path index generation).path = path := rfl

variable {roster : ServiceRoster} {path : ObjectPath} {entry : Entry}

theorem path_of_get? (h : roster.get? path = some entry) : entry.path = path := by
  simpa using List.find?_some h

theorem mem_of_get? (h : roster.get? path = some entry) : entry ∈ roster.entries :=
  List.mem_of_find?_eq_some h

theorem get?_eq_none_iff : roster.get? path = none ↔ path ∉ roster.paths := by
  unfold get? paths
  simp

theorem mem_paths_of_get? (h : roster.get? path = some entry) : path ∈ roster.paths := by
  by_contra hmissing
  rw [get?_eq_none_iff.2 hmissing] at h
  cases h

theorem exists_get?_of_mem_paths (h : path ∈ roster.paths) :
    ∃ entry, roster.get? path = some entry :=
  Option.ne_none_iff_exists'.1 (mt get?_eq_none_iff.1 (not_not.2 h))

theorem WellFormed.get?_of_mem (h : roster.WellFormed) (hentry : entry ∈ roster.entries) :
    roster.get? entry.path = some entry := by
  have hinj : ∀ other ∈ roster.entries, other.path = entry.path → other = entry := by
    intro other hother hpath
    exact List.inj_on_of_nodup_map h.distinct hother hentry hpath
  cases hfind : roster.get? entry.path with
  | none =>
    have hmissing := get?_eq_none_iff.1 hfind
    exact absurd (List.mem_map_of_mem hentry) hmissing
  | some other => rw [hinj other (mem_of_get? hfind) (path_of_get? hfind)]

/-! ## Putting an entry in its place -/

@[simp] theorem paths_put (roster : ServiceRoster) (entry : Entry) :
    (roster.put entry).paths = roster.paths := by
  unfold paths put
  rw [List.map_map]
  refine List.map_congr_left fun other _ ↦ ?_
  dsimp only [Function.comp]
  split
  next hpath => exact hpath.symm
  next => rfl

theorem get?_put (roster : ServiceRoster) (entry : Entry) (path : ObjectPath) :
    (roster.put entry).get? path =
      if entry.path = path then (roster.get? path).map fun _ ↦ entry else roster.get? path := by
  unfold get? put
  dsimp only
  induction roster.entries with
  | nil => simp
  | cons other rest ih =>
    rw [List.map_cons, List.find?_cons, List.find?_cons, ih]
    by_cases hother : other.path = path
    · by_cases hentry : entry.path = path
      · simp [hother, hentry]
      · have hne : path ≠ entry.path := fun h ↦ hentry h.symm
        simp [hother, hentry, hne]
    · by_cases hentry : other.path = entry.path
      · have hne : entry.path ≠ path := fun h ↦ hother (hentry.trans h)
        simp [hentry, hne]
      · simp [hother, hentry]

theorem get?_put_self {changed : Entry} (hentry : roster.get? path = some entry)
    (hpath : changed.path = path) : (roster.put changed).get? path = some changed := by
  rw [get?_put, if_pos hpath, hentry]
  rfl

theorem WellFormed.put (h : roster.WellFormed) {changed : Entry}
    (hentry : roster.get? changed.path = some entry)
    (hindex : changed.service.index = entry.service.index)
    (hgeneration : changed.generation ≤ roster.generation) : (roster.put changed).WellFormed where
  distinct := by
    rw [paths_put]
    exact h.distinct
  indexed := by
    intro place other hother
    obtain ⟨before, hbefore, hput⟩ : ∃ before, roster.entries[place]? = some before ∧
        (if before.path = changed.path then changed else before) = other := by
      simpa [ServiceRoster.put] using hother
    split at hput
    next hpath =>
      have hsame := h.get?_of_mem (List.mem_of_getElem? hbefore)
      rw [hpath, hentry] at hsame
      rw [← hput, hindex, Option.some.inj hsame]
      exact h.indexed place before hbefore
    next =>
      rw [← hput]
      exact h.indexed place before hbefore
  generated := by
    intro other hother
    obtain ⟨before, hbefore, hput⟩ := List.mem_map.1 hother
    rw [← hput]
    split
    · exact hgeneration
    · exact h.generated before hbefore

/-- What is well formed does not depend on the service that was connected last. -/
theorem WellFormed.of_entries (h : roster.WellFormed) {roster' : ServiceRoster}
    (hentries : roster'.entries = roster.entries)
    (hgeneration : roster.generation ≤ roster'.generation) : roster'.WellFormed where
  distinct := by
    unfold paths
    rw [hentries]
    exact h.distinct
  indexed := by
    rw [hentries]
    exact h.indexed
  generated := by
    rw [hentries]
    intro other hother
    exact Nat.le_trans (h.generated other hother) hgeneration

/-! ## A new list of services -/

theorem place_cons_of_some (h : roster.get? path = some entry) (index generation : Nat)
    (rest : List ObjectPath) :
    roster.place index generation (path :: rest) =
      (entry.moved index :: (roster.place (index + 1) generation rest).1,
        (roster.place (index + 1) generation rest).2) := by
  rw [place, h]
  rfl

theorem place_cons_of_none (h : roster.get? path = none) (index generation : Nat)
    (rest : List ObjectPath) :
    roster.place index generation (path :: rest) =
      (.new path index (generation + 1) :: (roster.place (index + 1) (generation + 1) rest).1,
        ⟨path, generation + 1⟩ :: (roster.place (index + 1) (generation + 1) rest).2) := by
  rw [place, h]
  rfl

theorem paths_place (roster : ServiceRoster) (index generation : Nat)
    (order : List ObjectPath) :
    (roster.place index generation order).1.map Entry.path = order := by
  induction order generalizing index generation with
  | nil => rfl
  | cons path rest ih =>
    cases hpath : roster.get? path with
    | some entry => rw [place_cons_of_some hpath, List.map_cons, ih, Entry.path_moved,
        path_of_get? hpath]
    | none => rw [place_cons_of_none hpath, List.map_cons, ih, Entry.path_new]

/-- What stands at a place of the new list: a service that stays, or a new one with its ticket. -/
theorem getElem?_place {index generation : Nat} {order : List ObjectPath} {place : Nat}
    (h : (roster.place index generation order).1[place]? = some entry) :
    (∃ kept, roster.get? entry.path = some kept ∧ entry = kept.moved (index + place)) ∨
    (roster.get? entry.path = none ∧ ∃ fresh, generation < fresh ∧
      fresh ≤ generation + (roster.place index generation order).2.length ∧
      entry = .new entry.path (index + place) fresh) := by
  induction order generalizing index generation place with
  | nil => simp [ServiceRoster.place] at h
  | cons path rest ih =>
    cases hpath : roster.get? path with
    | some kept =>
      rw [place_cons_of_some hpath] at h ⊢
      cases place with
      | zero =>
        obtain rfl : kept.moved index = entry := Option.some.inj h
        refine .inl ⟨kept, ?_, rfl⟩
        rw [Entry.path_moved, path_of_get? hpath]
        exact hpath
      | succ place =>
        rw [Nat.add_succ, ← Nat.succ_add]
        exact ih h
    | none =>
      rw [place_cons_of_none hpath] at h ⊢
      cases place with
      | zero =>
        obtain rfl : Entry.new path index (generation + 1) = entry := Option.some.inj h
        refine .inr ⟨hpath, generation + 1, Nat.lt_succ_self _, ?_, rfl⟩
        rw [List.length_cons]
        omega
      | succ place =>
        rw [Nat.add_succ, ← Nat.succ_add]
        rcases ih h with hkept | ⟨hnew, fresh, hlater, hbound, hentry⟩
        · exact .inl hkept
        · refine .inr ⟨hnew, fresh, by omega, ?_, hentry⟩
          rw [List.length_cons]
          omega

/-- A ticket is given out for a service that is new, and its entry has the same generation. -/
theorem mem_place_of_ticket {index generation : Nat} {order : List ObjectPath} {ticket : Ticket}
    (h : ticket ∈ (roster.place index generation order).2) :
    roster.get? ticket.path = none ∧ ∃ place,
      Entry.new ticket.path place ticket.generation ∈
        (roster.place index generation order).1 := by
  induction order generalizing index generation with
  | nil => simp [ServiceRoster.place] at h
  | cons path rest ih =>
    cases hpath : roster.get? path with
    | some kept =>
      rw [place_cons_of_some hpath] at h ⊢
      obtain ⟨hnew, place, hentry⟩ := ih h
      exact ⟨hnew, place, List.mem_cons_of_mem _ hentry⟩
    | none =>
      rw [place_cons_of_none hpath] at h ⊢
      rcases List.mem_cons.1 h with rfl | hrest
      · exact ⟨hpath, index, List.mem_cons_self⟩
      · obtain ⟨hnew, place, hentry⟩ := ih hrest
        exact ⟨hnew, place, List.mem_cons_of_mem _ hentry⟩

/-- Tickets are given out for the paths of the list that are new. -/
theorem paths_tickets_place (roster : ServiceRoster) (index generation : Nat)
    (order : List ObjectPath) :
    (roster.place index generation order).2.map (·.path) =
      order.filter fun path ↦ path ∉ roster.paths := by
  induction order generalizing index generation with
  | nil => rfl
  | cons path rest ih =>
    cases hpath : roster.get? path with
    | some entry =>
      have htracked : path ∈ roster.paths := mem_paths_of_get? hpath
      rw [place_cons_of_some hpath, List.filter_cons_of_neg (by simpa using htracked), ih]
    | none =>
      have hnew : path ∉ roster.paths := get?_eq_none_iff.1 hpath
      rw [place_cons_of_none hpath, List.filter_cons_of_pos (by simpa using hnew), List.map_cons,
        ih]

theorem nodup_eraseDups {α : Type} [DecidableEq α] :
    (items : List α) → items.eraseDups.Nodup
  | [] => List.nodup_nil
  | item :: rest => by
    have hshorter := List.length_filter_le (fun other ↦ !other == item) rest
    have hrest := nodup_eraseDups (rest.filter fun other ↦ !other == item)
    rw [List.eraseDups_cons]
    refine List.nodup_cons.2 ⟨?_, hrest⟩
    rw [List.mem_eraseDups]
    simp
termination_by items => items.length

theorem paths_reconcile (roster : ServiceRoster) (listed : List ObjectPath) :
    (roster.reconcile listed).1.paths = listed.eraseDups := paths_place roster _ _ _

theorem WellFormed.reconcile (h : roster.WellFormed) (listed : List ObjectPath) :
    (roster.reconcile listed).1.WellFormed where
  distinct := by
    rw [paths_reconcile]
    exact nodup_eraseDups listed
  indexed := by
    intro place entry hentry
    rcases getElem?_place hentry with ⟨kept, -, hmoved⟩ | ⟨-, fresh, -, -, hnew⟩
    · rw [hmoved, Nat.zero_add]
      rfl
    · rw [hnew, Nat.zero_add]
      rfl
  generated := by
    intro entry hentry
    obtain ⟨place, hplace⟩ := List.mem_iff_getElem?.1 hentry
    change entry.generation ≤ roster.generation + _
    rcases getElem?_place hplace with ⟨kept, hkept, hmoved⟩ | ⟨-, fresh, -, hbound, hnew⟩
    · have hbound := h.generated kept (mem_of_get? hkept)
      rw [hmoved]
      exact Nat.le_trans hbound (Nat.le_add_right _ _)
    · rw [hnew]
      exact hbound

/-- A service that stays keeps everything but its place. -/
theorem get?_reconcile {listed : List ObjectPath} {kept : Entry}
    (hbefore : roster.get? path = some kept)
    (hafter : (roster.reconcile listed).1.get? path = some entry) :
    ∃ place, entry = kept.moved place := by
  obtain ⟨place, hplace⟩ := List.mem_iff_getElem?.1 (mem_of_get? hafter)
  have hpath := path_of_get? hafter
  rcases getElem?_place hplace with ⟨other, hother, hmoved⟩ | ⟨hnew, -⟩
  · rw [hpath, hbefore] at hother
    exact ⟨_, Option.some.inj hother ▸ hmoved⟩
  · rw [hpath, hbefore] at hnew
    cases hnew

theorem WellFormed.get?_reconcile_of_added (h : roster.WellFormed) {listed : List ObjectPath}
    {ticket : Ticket} (hadded : ticket ∈ (roster.reconcile listed).2.added) :
    roster.get? ticket.path = none ∧ ∃ place,
      (roster.reconcile listed).1.get? ticket.path =
        some (.new ticket.path place ticket.generation) := by
  obtain ⟨hnew, place, hentry⟩ := mem_place_of_ticket hadded
  exact ⟨hnew, place, (h.reconcile listed).get?_of_mem hentry⟩

/-- In a list with nothing new and nothing moved, every service stands where it stood before. -/
theorem WellFormed.getElem?_of_place (h : roster.WellFormed) {order : List ObjectPath} {place : Nat}
    (hadded : (roster.place 0 roster.generation order).2 = [])
    (hmoves : roster.moves order = false)
    (hentry : (roster.place 0 roster.generation order).1[place]? = some entry) :
    roster.entries[place]? = some entry := by
  have horder : order[place]? = some entry.path := by
    have hpaths := paths_place roster 0 roster.generation order
    rw [← hpaths, List.getElem?_map, hentry]
    rfl
  rcases getElem?_place hentry with ⟨kept, hfind, hmoved⟩ | ⟨-, fresh, hlater, hbound, -⟩
  · have hplace : kept.service.index = place := by
      have hall := List.any_eq_false.1 hmoves (entry.path, place)
        (List.mem_zipIdx_iff_getElem?.2 horder)
      simpa [hfind] using hall
    have hsame : kept = entry := by
      rw [hmoved, Nat.zero_add, ← hplace]
      rfl
    obtain ⟨other, hother⟩ := List.mem_iff_getElem?.1 (mem_of_get? hfind)
    rw [← hplace, h.indexed other kept hother, ← hsame]
    exact hother
  · rw [hadded, List.length_nil] at hbound
    omega

/-- A list without any difference changes nothing at all. -/
theorem WellFormed.reconcile_eq_self (h : roster.WellFormed) {listed : List ObjectPath}
    (hempty : (roster.reconcile listed).2.isEmpty = true) :
    (roster.reconcile listed).1 = roster := by
  let order := listed.eraseDups
  let placed := roster.place 0 roster.generation order
  obtain ⟨hadded, hremoved, hmoves⟩ := Reconciliation.isEmpty_iff.1 hempty
  change placed.2 = [] at hadded
  change (roster.paths.filter fun path ↦ !order.contains path) = [] at hremoved
  change roster.moves order = false at hmoves
  have hentries : placed.1 = roster.entries := by
    refine List.ext_getElem? fun place ↦ ?_
    cases hbefore : roster.entries[place]? with
    | none =>
      cases hentry : placed.1[place]? with
      | none => rfl
      | some entry =>
        have hthere := h.getElem?_of_place hadded hmoves hentry
        rw [hbefore] at hthere
        cases hthere
    | some entry =>
      -- Nothing was removed, so the entry is listed; it can stand only where it stood.
      have hmem := List.mem_of_getElem? hbefore
      have hlisted : entry.path ∈ order := by
        have hnot := List.filter_eq_nil_iff.1 hremoved entry.path (List.mem_map_of_mem hmem)
        simpa using hnot
      rw [← paths_place roster 0 roster.generation order] at hlisted
      obtain ⟨other, hother, hpath⟩ := List.mem_map.1 hlisted
      obtain ⟨place', hplace'⟩ := List.mem_iff_getElem?.1 hother
      have hthere := h.getElem?_of_place hadded hmoves hplace'
      have hsame : other = entry := by
        have hfind := h.get?_of_mem (List.mem_of_getElem? hthere)
        rw [hpath, h.get?_of_mem hmem] at hfind
        exact (Option.some.inj hfind).symm
      rw [hsame] at hplace' hthere
      rw [← h.indexed place entry hbefore, h.indexed place' entry hthere]
      exact hplace'
  have hactive : (roster.lastActive.filter fun path ↦
      !(roster.paths.filter fun path ↦ !order.contains path).contains path) =
      roster.lastActive := by
    rw [hremoved]
    cases roster.lastActive <;> rfl
  change ServiceRoster.mk placed.1 (roster.generation + placed.2.length) _ = roster
  rw [hentries, hadded, hactive]
  rfl

/-! ## Replies and changes -/

/-- The entry with the reply to its fetch taken. -/
def Entry.answered (entry : Entry) (properties : Properties) : Entry :=
  { entry with service := entry.fetched properties, replay := none }

/-- The entry with a change noted after which it is fetched again. -/
def Entry.invalidated (entry : Entry) (generation : Nat) (key : String) (value : Value) :
    Entry where
  service :=
    let service := entry.service.setProperty key value
    if key = "PassphraseRequired" ∧ service.passphraseRequired then
      { service with passphrase := none }
    else service
  generation := generation
  replay := some []

theorem Entry.path_answered (entry : Entry) (properties : Properties) :
    (entry.answered properties).path = entry.path := by
  change (entry.fetched properties).path = entry.path
  unfold fetched
  simp only [Service.setProperties_eq_amended]
  split <;> rfl

theorem Entry.index_answered (entry : Entry) (properties : Properties) :
    (entry.answered properties).service.index = entry.service.index := by
  change (entry.fetched properties).index = entry.service.index
  unfold fetched
  simp only [Service.setProperties_eq_amended]
  split <;> rfl

theorem Entry.path_invalidated (entry : Entry) (generation : Nat) (key : String) (value : Value) :
    (entry.invalidated generation key value).path = entry.path := by
  unfold invalidated Entry.path
  dsimp only
  split <;> exact Service.path_setProperty entry.service key value

theorem Entry.index_invalidated (entry : Entry) (generation : Nat) (key : String)
    (value : Value) :
    (entry.invalidated generation key value).service.index = entry.service.index := by
  unfold invalidated
  dsimp only
  split <;> exact Service.index_setProperty entry.service key value

theorem completeFetch?_eq_some_iff {roster' : ServiceRoster} {ticket : Ticket}
    {properties : Properties} :
    roster.completeFetch? ticket properties = some roster' ↔
      ∃ entry, roster.get? ticket.path = some entry ∧ entry.generation = ticket.generation ∧
        { roster.put (entry.answered properties) with
          lastActive :=
            if (entry.fetched properties).isConnected then some ticket.path
            else roster.lastActive } = roster' := by
  unfold completeFetch?
  simp only [Option.bind_eq_bind, Option.bind_eq_some_iff, Option.guard_eq_some', Option.some.injEq]
  constructor
  · rintro ⟨entry, hentry, -, hgeneration, rfl⟩
    refine ⟨entry, hentry, hgeneration, ?_⟩
    split <;> rfl
  · rintro ⟨entry, hentry, hgeneration, rfl⟩
    refine ⟨entry, hentry, (), hgeneration, ?_⟩
    split <;> rfl

/-- The reply to the latest fetch is taken. -/
theorem get?_completeFetch? {ticket : Ticket} (hentry : roster.get? ticket.path = some entry)
    (hgeneration : entry.generation = ticket.generation) (properties : Properties) :
    ((roster.completeFetch? ticket properties).getD roster).get? ticket.path =
      some (entry.answered properties) := by
  have htaken : roster.completeFetch? ticket properties = some
      { roster.put (entry.answered properties) with
        lastActive :=
          if (entry.fetched properties).isConnected then some ticket.path
          else roster.lastActive } :=
    completeFetch?_eq_some_iff.2 ⟨entry, hentry, hgeneration, rfl⟩
  rw [htaken]
  exact get?_put_self hentry ((entry.path_answered properties).trans (path_of_get? hentry))

/-- The reply to any other fetch is not. -/
theorem completeFetch?_of_ne {ticket : Ticket} (hentry : roster.get? ticket.path = some entry)
    (hgeneration : entry.generation ≠ ticket.generation) (properties : Properties) :
    roster.completeFetch? ticket properties = none := by
  rw [Option.eq_none_iff_forall_ne_some]
  intro roster' htaken
  obtain ⟨other, hother, hsame, -⟩ := completeFetch?_eq_some_iff.1 htaken
  obtain rfl := Option.some.inj (hentry.symm.trans hother)
  exact hgeneration hsame

/-- A change that makes all other properties doubtful asks for another fetch. -/
theorem change_of_needsRefetch (hentry : roster.get? path = some entry) {key : String}
    (hkey : needsRefetch key = true) (value : Value) :
    roster.change path key value =
      ({ roster.put (entry.invalidated (roster.generation + 1) key value) with
          generation := roster.generation + 1 },
        .refetch ⟨path, roster.generation + 1⟩) := by
  unfold change
  rw [hentry]
  dsimp only
  rw [if_pos hkey, ← path_of_get? hentry]
  rfl

/-- Any other change is noted, and kept for the reply to a fetch that is under way. -/
theorem change_of_not_needsRefetch (hentry : roster.get? path = some entry) {key : String}
    (hkey : needsRefetch key = false) (value : Value) :
    (roster.change path key value).1.entries =
        (roster.put ((entry.record key value).setProperty key value)).entries ∧
      (roster.change path key value).1.generation = roster.generation ∧
      ∀ ticket, (roster.change path key value).2 ≠ .refetch ticket := by
  unfold change
  rw [hentry]
  dsimp only
  rw [if_neg (by simp [hkey])]
  split
  · split <;> split <;> exact ⟨rfl, rfl, by simp⟩
  · exact ⟨rfl, rfl, by simp⟩

theorem Entry.path_noted (entry : Entry) (key : String) (value : Value) :
    ((entry.record key value).setProperty key value).path = entry.path :=
  Service.path_setProperty entry.service key value

theorem get?_change_of_needsRefetch (hentry : roster.get? path = some entry) {key : String}
    (hkey : needsRefetch key = true) (value : Value) :
    (roster.change path key value).1.get? path =
      some (entry.invalidated (roster.generation + 1) key value) := by
  rw [change_of_needsRefetch hentry hkey]
  exact get?_put_self hentry ((entry.path_invalidated _ key value).trans (path_of_get? hentry))

theorem get?_change_of_not_needsRefetch (hentry : roster.get? path = some entry) {key : String}
    (hkey : needsRefetch key = false) (value : Value) :
    (roster.change path key value).1.get? path =
      some ((entry.record key value).setProperty key value) := by
  obtain ⟨hentries, -, -⟩ := change_of_not_needsRefetch hentry hkey value
  unfold get?
  rw [hentries]
  exact get?_put_self hentry ((entry.path_noted key value).trans (path_of_get? hentry))

/-! ## Every reachable state -/

theorem WellFormed.completeFetch? (h : roster.WellFormed) (ticket : Ticket)
    (properties : Properties) :
    ((roster.completeFetch? ticket properties).getD roster).WellFormed := by
  cases hfetch : roster.completeFetch? ticket properties with
  | none => exact h
  | some roster' =>
    obtain ⟨entry, hentry, -, rfl⟩ := completeFetch?_eq_some_iff.1 hfetch
    have hpath := path_of_get? hentry
    rw [← hpath, ← entry.path_answered properties] at hentry
    have hput := h.put hentry (entry.index_answered properties)
      (h.generated entry (mem_of_get? hentry))
    exact hput.of_entries rfl (Nat.le_refl _)

theorem WellFormed.change (h : roster.WellFormed) (path : ObjectPath) (key : String)
    (value : Value) : (roster.change path key value).1.WellFormed := by
  cases hentry : roster.get? path with
  | none =>
    unfold ServiceRoster.change
    rw [hentry]
    exact h
  | some entry =>
    have hpath := path_of_get? hentry
    cases hkey : needsRefetch key with
    | true =>
      rw [change_of_needsRefetch hentry hkey]
      have hlater : ({ roster with generation := roster.generation + 1 }).WellFormed :=
        h.of_entries rfl (Nat.le_succ _)
      rw [← hpath, ← entry.path_invalidated (roster.generation + 1) key value] at hentry
      exact hlater.put hentry (entry.index_invalidated _ key value) (Nat.le_refl _)
    | false =>
      obtain ⟨hentries, hgeneration, -⟩ := change_of_not_needsRefetch hentry hkey value
      rw [← hpath, ← entry.path_noted key value] at hentry
      have hput := h.put hentry (Service.index_setProperty entry.service key value)
        (h.generated entry (mem_of_get? hentry))
      exact hput.of_entries hentries (Nat.le_of_eq hgeneration.symm)

theorem WellFormed.setPassphrase (h : roster.WellFormed) (hentry : roster.get? path = some entry)
    (passphrase : Option String) : (roster.setPassphrase entry passphrase).WellFormed := by
  have hpath := path_of_get? hentry
  rw [← hpath] at hentry
  exact h.put hentry rfl (h.generated entry (mem_of_get? hentry))

theorem forgetPassphrase?_eq_some_iff {roster' : ServiceRoster} :
    roster.forgetPassphrase? path = some roster' ↔
      ∃ entry, roster.get? path = some entry ∧ entry.service.passphrase.isSome = true ∧
        roster.setPassphrase entry none = roster' := by
  unfold forgetPassphrase?
  simp [Option.bind_eq_some_iff, Option.guard_eq_some']

theorem WellFormed.echoPassphrase? (h : roster.WellFormed) (path : ObjectPath)
    (passphrase : String) : ((roster.echoPassphrase? path passphrase).getD roster).WellFormed := by
  unfold ServiceRoster.echoPassphrase?
  cases hentry : roster.get? path with
  | none => exact h
  | some entry => exact h.setPassphrase hentry _

theorem WellFormed.forgetPassphrase? (h : roster.WellFormed) (path : ObjectPath) :
    ((roster.forgetPassphrase? path).getD roster).WellFormed := by
  cases hforget : roster.forgetPassphrase? path with
  | none => exact h
  | some roster' =>
    obtain ⟨entry, hentry, -, rfl⟩ := forgetPassphrase?_eq_some_iff.1 hforget
    exact h.setPassphrase hentry none

theorem WellFormed.followManager (h : roster.WellFormed) (key : String) (value : Value) :
    (roster.followManager key value).WellFormed := by
  unfold ServiceRoster.followManager
  split
  · split
    · exact h.reconcile _
    · exact h
  · exact h

theorem WellFormed.follow (h : roster.WellFormed) (event : Event) :
    (roster.follow event).WellFormed := by
  cases event with
  | managerReported properties =>
    unfold ServiceRoster.follow
    dsimp only
    induction properties.entries generalizing roster with
    | nil => exact h
    | cons property rest ih => exact ih (h.followManager property.1 property.2)
  | managerChanged key value => exact h.followManager key value
  | serviceFetched ticket properties => exact h.completeFetch? ticket properties
  | serviceChanged path key value => exact h.change path key value
  | passphraseSubmitted path passphrase => exact h.echoPassphrase? path passphrase
  | serviceForgotten path => exact h.forgetPassphrase? path
  | _ => exact h

/-! ## Events about something else -/

/-- Whether an entry differs from another in no more than its place and its passphrase. -/
def Entry.Keeps (entry after : Entry) : Prop :=
  ∃ index passphrase, after = { entry with service := { entry.service with index, passphrase } }

theorem Entry.Keeps.refl (entry : Entry) : entry.Keeps entry := ⟨_, _, rfl⟩

/-- A full report lists the services once at most. -/
theorem foldl_followManager {entries : List (String × Value)}
    (hdistinct : (entries.map (·.1)).Nodup) (roster : ServiceRoster) :
    entries.foldl (fun roster property ↦ roster.followManager property.1 property.2) roster =
      (Properties.lookup "Services" entries).elim roster (roster.followManager "Services") := by
  induction entries generalizing roster with
  | nil => rfl
  | cons entry rest ih =>
    obtain ⟨key, value⟩ := entry
    obtain ⟨hfresh, hrest⟩ := List.nodup_cons.1 hdistinct
    rw [List.foldl_cons, ih hrest, Properties.lookup]
    split
    next hkey =>
      dsimp only at hkey hfresh
      rw [hkey] at hfresh
      rw [Properties.lookup_eq_none_of_not_mem hfresh]
      change roster.followManager key value = roster.followManager "Services" value
      rw [hkey]
    next hkey =>
      have hsame : roster.followManager key value = roster := if_neg hkey
      rw [hsame]

theorem keeps_followManager {after : Entry} {key : String} {value : Value}
    (hbefore : roster.get? path = some entry)
    (hafter : (roster.followManager key value).get? path = some after) : entry.Keeps after := by
  have hstay (h : roster.get? path = some after) : entry.Keeps after := by
    obtain rfl := Option.some.inj (hbefore.symm.trans h)
    exact .refl entry
  unfold followManager at hafter
  split at hafter
  · split at hafter
    · obtain ⟨place, hmoved⟩ := get?_reconcile hbefore hafter
      exact ⟨place, entry.service.passphrase, hmoved⟩
    · exact hstay hafter
  · exact hstay hafter

theorem get?_put_of_ne {other : Entry} (h : other.path ≠ path) :
    (roster.put other).get? path = roster.get? path := by
  rw [get?_put, if_neg h]

end ServiceRoster

/-- Whether the event is a change of this service, or the reply to one of its fetches. -/
def Event.Concerns (path : ObjectPath) : Event → Prop
  | .serviceFetched ticket _ => ticket.path = path
  | .serviceChanged changed _ _ => changed = path
  | _ => False

namespace ServiceRoster

variable {roster : ServiceRoster} {path : ObjectPath} {entry : Entry}

theorem get?_completeFetch?_of_ne {ticket : Ticket} (h : ticket.path ≠ path)
    (properties : Properties) :
    ((roster.completeFetch? ticket properties).getD roster).get? path = roster.get? path := by
  cases hfetch : roster.completeFetch? ticket properties with
  | none => rfl
  | some roster' =>
    obtain ⟨other, hother, -, rfl⟩ := completeFetch?_eq_some_iff.1 hfetch
    have hpath : (other.answered properties).path ≠ path := by
      rw [other.path_answered, path_of_get? hother]
      exact h
    exact get?_put_of_ne hpath

theorem get?_change_of_ne {changed : ObjectPath} (h : changed ≠ path) (key : String)
    (value : Value) : (roster.change changed key value).1.get? path = roster.get? path := by
  cases hother : roster.get? changed with
  | none =>
    unfold change
    rw [hother]
  | some other =>
    have hchanged : other.path ≠ path := by
      rw [path_of_get? hother]
      exact h
    cases hkey : needsRefetch key with
    | true =>
      rw [change_of_needsRefetch hother hkey]
      exact get?_put_of_ne ((other.path_invalidated _ key value).symm ▸ hchanged)
    | false =>
      obtain ⟨hentries, -, -⟩ := change_of_not_needsRefetch hother hkey value
      unfold get?
      rw [hentries]
      exact get?_put_of_ne ((other.path_noted key value).symm ▸ hchanged)

theorem keeps_setPassphrase {other after : Entry} {passphrase : Option String}
    (hbefore : roster.get? path = some entry) (hother : roster.get? other.path = some other)
    (hafter : (roster.setPassphrase other passphrase).get? path = some after) :
    entry.Keeps after := by
  unfold setPassphrase at hafter
  rw [get?_put] at hafter
  split at hafter
  next hpath =>
    change other.path = path at hpath
    rw [hbefore] at hafter
    rw [hpath, hbefore] at hother
    rw [← Option.some.inj hafter, Option.some.inj hother]
    exact ⟨_, passphrase, rfl⟩
  next =>
    obtain rfl := Option.some.inj (hbefore.symm.trans hafter)
    exact .refl entry

/-- An event about something else leaves a service that stays as it was, but for its place and its
passphrase. -/
theorem keeps_follow {event : Event} {after : Entry} (hother : ¬ event.Concerns path)
    (hbefore : roster.get? path = some entry)
    (hafter : (roster.follow event).get? path = some after) : entry.Keeps after := by
  have hstay (h : roster.get? path = some after) : entry.Keeps after := by
    obtain rfl := Option.some.inj (hbefore.symm.trans h)
    exact .refl entry
  cases event with
  | managerReported properties =>
    unfold follow at hafter
    dsimp only at hafter
    rw [foldl_followManager properties.distinct] at hafter
    cases hvalue : Properties.lookup "Services" properties.entries with
    | none =>
      rw [hvalue] at hafter
      exact hstay hafter
    | some value =>
      rw [hvalue] at hafter
      exact keeps_followManager hbefore hafter
  | managerChanged key value => exact keeps_followManager hbefore hafter
  | serviceFetched ticket properties =>
    exact hstay ((get?_completeFetch?_of_ne hother properties).symm.trans hafter)
  | serviceChanged changed key value =>
    exact hstay ((get?_change_of_ne hother key value).symm.trans hafter)
  | passphraseSubmitted changed passphrase =>
    unfold follow echoPassphrase? at hafter
    dsimp only at hafter
    cases hchanged : roster.get? changed with
    | none =>
      rw [hchanged] at hafter
      exact hstay hafter
    | some other =>
      rw [hchanged] at hafter
      rw [← path_of_get? hchanged] at hchanged
      exact keeps_setPassphrase hbefore hchanged hafter
  | serviceForgotten changed =>
    unfold follow at hafter
    dsimp only at hafter
    cases hforget : roster.forgetPassphrase? changed with
    | none =>
      rw [hforget] at hafter
      exact hstay hafter
    | some roster' =>
      obtain ⟨other, hchanged, -, rfl⟩ := forgetPassphrase?_eq_some_iff.1 hforget
      rw [hforget] at hafter
      rw [← path_of_get? hchanged] at hchanged
      exact keeps_setPassphrase hbefore hchanged hafter
  | _ => exact hstay hafter

end ServiceRoster

namespace Tracker

theorem Reachable.wellFormed {tracker : Tracker} (h : tracker.Reachable) :
    tracker.services.WellFormed := by
  induction h with
  | start =>
    refine ⟨List.nodup_nil, ?_, ?_⟩
    · intro place entry hentry
      cases hentry
    · intro entry hentry
      cases hentry
  | handled event h ih =>
    rw [services_handle]
    exact ih.follow event
  | asked h ih => exact ih

end Tracker

end Uplink
