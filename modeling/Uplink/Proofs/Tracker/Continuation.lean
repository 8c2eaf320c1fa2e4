import Uplink.Proofs.Tracker.Run
/-!
# How a run goes on

What is the case from some state on: at each of the events that follow, and in each of the states on
the way. What events of a kind keep unless they end it lasts along such events exactly as long as
none of them ends it.
-/

namespace Uplink.Tracker

/-- The tracker after these further events. -/
def after (tracker : Tracker) (events : List Event) : Tracker :=
  events.foldl (fun tracker event ↦ (tracker.handle event).tracker) tracker

/-- Whether each of these further events is such when it is handled. -/
def Along (P : Tracker → Event → Prop) (tracker : Tracker) : List Event → Prop
  | [] => True
  | event :: rest => P tracker event ∧ Along P (tracker.handle event).tracker rest

/-- Whether it is so now and after each of these further events. -/
def Throughout (Q : Tracker → Prop) (tracker : Tracker) (events : List Event) : Prop :=
  ∀ start, start <+: events → Q (tracker.after start)

variable {tracker : Tracker} {event : Event} {events : List Event} {Q : Tracker → Prop}
  {kind ends : Tracker → Event → Prop}

theorem throughout_nil_iff : tracker.Throughout Q [] ↔ Q tracker := by
  simp [Throughout, after]

theorem throughout_cons_iff :
    tracker.Throughout Q (event :: events) ↔
      Q tracker ∧ (tracker.handle event).tracker.Throughout Q events := by
  constructor
  · intro h
    refine ⟨h [] List.nil_prefix, fun start hstart ↦ ?_⟩
    exact h (event :: start) (List.cons_prefix_cons.2 ⟨rfl, hstart⟩)
  · rintro ⟨hnow, hlater⟩ start hstart
    rcases List.prefix_cons_iff.1 hstart with rfl | ⟨rest, rfl, hrest⟩
    · exact hnow
    · exact hlater rest hrest

/-- What every event of a kind keeps is so throughout, along events of that kind. -/
theorem throughout_of_step
    (hstep : ∀ tracker event, Q tracker → kind tracker event → Q (tracker.handle event).tracker)
    (hnow : Q tracker) (halong : tracker.Along kind events) : tracker.Throughout Q events := by
  induction events generalizing tracker with
  | nil => exact throughout_nil_iff.2 hnow
  | cons event rest ih =>
    obtain ⟨hkind, hrest⟩ := halong
    exact throughout_cons_iff.2 ⟨hnow, ih (hstep tracker event hnow hkind) hrest⟩

/-- What an event of a kind keeps exactly if it does not end it is so throughout, along events of
that kind, exactly if none of them ends it. -/
theorem throughout_iff_along
    (hstep : ∀ tracker event, tracker.Reachable → Q tracker → kind tracker event →
      (Q (tracker.handle event).tracker ↔ ¬ ends tracker event))
    (h : tracker.Reachable) (hnow : Q tracker) (halong : tracker.Along kind events) :
    tracker.Throughout Q events ↔
      tracker.Along (fun tracker event ↦ ¬ ends tracker event) events := by
  induction events generalizing tracker with
  | nil => exact iff_of_true (throughout_nil_iff.2 hnow) trivial
  | cons event rest ih =>
    obtain ⟨hkind, hrest⟩ := halong
    rw [throughout_cons_iff]
    constructor
    · rintro ⟨-, hlater⟩
      have hnext : Q (tracker.handle event).tracker := hlater [] List.nil_prefix
      have hkept := (hstep tracker event h hnow hkind).1 hnext
      exact ⟨hkept, (ih (.handled event h) hnext hrest).1 hlater⟩
    · rintro ⟨hkept, hlater⟩
      have hnext := (hstep tracker event h hnow hkind).2 hkept
      exact ⟨hnow, (ih (.handled event h) hnext hrest).2 hlater⟩

theorem along_iff_forall_mem {P : Event → Prop} :
    tracker.Along (fun _ event ↦ P event) events ↔ ∀ event ∈ events, P event := by
  induction events generalizing tracker with
  | nil => simp [Along]
  | cons event rest ih => rw [Along, ih, List.forall_mem_cons]

end Uplink.Tracker
