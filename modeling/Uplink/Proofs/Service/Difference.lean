import Uplink.Proofs.Service.Issue
/-!
# What a new list of services reports

Between the order of the tracked services and a new list, each path taken once, the outcome names
exactly the difference: what is gone in the old order, what is new in the new order with tickets
later than all that were given out before, and whether something that stayed is at another place. An
outcome with nothing in it therefore says that the new list is the old order, and then nothing of
the roster changes.
-/

namespace Uplink

theorem idxOf_of_getElem? {α : Type} [DecidableEq α] {items : List α} (h : items.Nodup)
    {place : Nat} {item : α} (hplace : items[place]? = some item) : items.idxOf item = place := by
  obtain ⟨hlt, rfl⟩ := List.getElem?_eq_some_iff.1 hplace
  exact h.idxOf_getElem place hlt

namespace ServiceRoster

variable {roster : ServiceRoster} {path : ObjectPath} {entry : Entry}

/-- A tracked service says the place of its path. -/
theorem WellFormed.index_eq_idxOf (h : roster.WellFormed) (hentry : roster.get? path = some entry) :
    entry.service.index = roster.paths.idxOf path := by
  obtain ⟨place, hplace⟩ := List.mem_iff_getElem?.1 (mem_of_get? hentry)
  have hpath : roster.paths[place]? = some path := by
    unfold paths
    rw [List.getElem?_map, hplace, Option.map_some, path_of_get? hentry]
  rw [h.indexed place entry hplace, idxOf_of_getElem? h.distinct hpath]

/-- A list moves something exactly if a tracked path has another place in it. -/
theorem WellFormed.moves_iff (h : roster.WellFormed) {order : List ObjectPath}
    (horder : order.Nodup) :
    roster.moves order = true ↔
      ∃ path ∈ roster.paths, path ∈ order ∧ roster.paths.idxOf path ≠ order.idxOf path := by
  unfold moves
  rw [List.any_eq_true]
  constructor
  · rintro ⟨⟨path, place⟩, hplace, hmoved⟩
    have hlisted : order[place]? = some path := List.mem_zipIdx_iff_getElem?.1 hplace
    dsimp only at hmoved
    cases hentry : roster.get? path with
    | none =>
      rw [hentry] at hmoved
      cases hmoved
    | some entry =>
      rw [hentry, Option.any_some, decide_eq_true_eq, h.index_eq_idxOf hentry] at hmoved
      rw [← idxOf_of_getElem? horder hlisted] at hmoved
      exact ⟨path, mem_paths_of_get? hentry, List.mem_of_getElem? hlisted, hmoved⟩
  · rintro ⟨path, htracked, hlisted, hmoved⟩
    obtain ⟨entry, hentry⟩ := exists_get?_of_mem_paths htracked
    obtain ⟨place, hplace⟩ := List.mem_iff_getElem?.1 hlisted
    refine ⟨(path, place), List.mem_zipIdx_iff_getElem?.2 hplace, ?_⟩
    dsimp only
    rw [hentry, Option.any_some, decide_eq_true_eq, h.index_eq_idxOf hentry,
      ← idxOf_of_getElem? horder hplace]
    exact hmoved

/-- There is no difference exactly if the list, each path taken once, is the order so far. -/
theorem WellFormed.isEmpty_reconcile_iff (h : roster.WellFormed) {listed : List ObjectPath} :
    (roster.reconcile listed).2.isEmpty = true ↔ listed.eraseDups = roster.paths := by
  constructor
  · intro hempty
    rw [← paths_reconcile roster listed, h.reconcile_eq_self hempty]
  · intro hsame
    have hadded : (roster.reconcile listed).2.added.map (·.path) = [] := by
      change (roster.place 0 roster.generation listed.eraseDups).2.map (·.path) = []
      rw [paths_tickets_place, hsame]
      simp
    have hremoved : (roster.reconcile listed).2.removed = [] := by
      change (roster.paths.filter fun path ↦ !listed.eraseDups.contains path) = []
      rw [hsame]
      simp
    have hmoves : ¬ roster.moves listed.eraseDups = true := by
      rw [h.moves_iff (nodup_eraseDups listed), hsame]
      rintro ⟨path, -, -, hmoved⟩
      exact hmoved rfl
    exact Reconciliation.isEmpty_iff.2
      ⟨List.map_eq_nil_iff.1 hadded, hremoved, Bool.eq_false_iff.2 hmoves⟩

/-- A list that was followed just before reports no difference. -/
theorem WellFormed.isEmpty_reconcile_again (h : roster.WellFormed) (listed : List ObjectPath) :
    ((roster.reconcile listed).1.reconcile listed).2.isEmpty = true := by
  rw [(h.reconcile listed).isEmpty_reconcile_iff, paths_reconcile]

/-- The tickets of new services are numbered upward from the generation given out last. -/
theorem pairwise_added (roster : ServiceRoster) (listed : List ObjectPath) :
    (roster.reconcile listed).2.added.Pairwise
        (fun earlier later ↦ earlier.generation < later.generation) ∧
      ∀ ticket ∈ (roster.reconcile listed).2.added, roster.generation < ticket.generation := by
  let added := (roster.reconcile listed).2.added
  have hnumbered : added.map (·.generation) =
      List.range' (roster.generation + 1) added.length :=
    generations_place roster 0 roster.generation listed.eraseDups
  constructor
  · have hincreasing : (added.map (·.generation)).Pairwise (· < ·) := by
      rw [hnumbered]
      exact List.pairwise_lt_range'
    exact List.pairwise_map.1 hincreasing
  · intro ticket hticket
    have hmem : ticket.generation ∈ added.map (·.generation) := List.mem_map_of_mem hticket
    rw [hnumbered, List.mem_range'_1] at hmem
    exact hmem.1

end ServiceRoster

namespace Publisher

/-- No ticket of a run has a generation above the one given out last. -/
theorem generation_le_of_mem_serviceTickets {events : List Event} {ticket : Ticket}
    (h : ticket ∈ serviceTickets events) :
    ticket.generation ≤ (run events).tracker.services.generation := by
  have hissues := issues_run events
  have hcounted := hissues.counted
  have hmem : ticket.generation ∈ (serviceTickets events).map (·.generation) :=
    List.mem_map_of_mem h
  rw [show (serviceTickets events).map (·.generation) = _ from hissues.numbered,
    List.mem_range'_1] at hmem
  change _ = 0 + (serviceTickets events).length at hcounted
  change _ ∧ _ < 0 + 1 + (serviceTickets events).length at hmem
  omega

/-- A new list of services reports its difference to the order so far: what is gone, in the old
order; what is new, in the new order, with tickets numbered upward from all that were given out
before; and whether something that stayed has another place. It reports nothing exactly if it is
the order so far, and then the whole roster stays as it is, so that a list that comes a second time
does nothing. -/
theorem reconcile_reports_difference (events : List Event) (listed : List ObjectPath) :
    let roster := (run events).tracker.services
    let order := roster.paths
    let next := listed.eraseDups
    let after := (roster.reconcile listed).1
    let outcome := (roster.reconcile listed).2
    outcome.removed = order.filter (fun path ↦ path ∉ next) ∧
    outcome.added.map (·.path) = next.filter (fun path ↦ path ∉ order) ∧
    outcome.added.Pairwise (fun earlier later ↦ earlier.generation < later.generation) ∧
    (∀ issued ∈ serviceTickets events, ∀ ticket ∈ outcome.added,
      issued.generation < ticket.generation) ∧
    (outcome.reordered = true ↔
      ∃ path ∈ order, path ∈ next ∧ order.idxOf path ≠ next.idxOf path) ∧
    (outcome.isEmpty = true ↔ next = order) ∧
    (next = order → after = roster) ∧
    (after.reconcile listed).1 = after ∧ (after.reconcile listed).2.isEmpty = true := by
  intro roster order next after outcome
  have hwell : roster.WellFormed := (reachable_run events).wellFormed
  have hremoved : outcome.removed = order.filter fun path ↦ path ∉ next := by
    refine List.filter_congr fun path _ ↦ ?_
    rw [List.contains_eq_mem, decide_not]
  have hadded : outcome.added.map (·.path) = next.filter fun path ↦ path ∉ order :=
    ServiceRoster.paths_tickets_place roster 0 roster.generation next
  obtain ⟨hincreasing, hlater⟩ := ServiceRoster.pairwise_added roster listed
  have hagain : (after.reconcile listed).2.isEmpty = true := hwell.isEmpty_reconcile_again listed
  refine ⟨hremoved, hadded, hincreasing, ?_, hwell.moves_iff (ServiceRoster.nodup_eraseDups listed),
    hwell.isEmpty_reconcile_iff, ?_, (hwell.reconcile listed).reconcile_eq_self hagain, hagain⟩
  · intro issued hissued ticket hticket
    exact Nat.lt_of_le_of_lt (generation_le_of_mem_serviceTickets hissued) (hlater ticket hticket)
  · exact fun hsame ↦ hwell.reconcile_eq_self (hwell.isEmpty_reconcile_iff.2 hsame)

end Publisher

end Uplink
