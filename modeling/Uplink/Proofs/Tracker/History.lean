import Uplink.Proofs.Tracker.Publication
/-!
# What happened in a run

The actions that a run asked for, in their order, and what has been the case at every event since
something happened. Whether that is so can be told from the last event and from the run before it.
-/

namespace Uplink.Publisher

/-- What the tracker asked for in the course of these events, in its order. -/
def emitted (events : List Event) : List Action :=
  (events.foldl
    (fun (state : Publisher × List Action) event ↦
      ((state.1.advance event).1, state.2 ++ (state.1.advance event).2.1)) ({}, [])).2

theorem emitted_concat (events : List Event) (event : Event) :
    emitted (events ++ [event]) =
      emitted events ++ ((run events).tracker.handle event).actions := by
  have hrun := foldl_collect_fst
    (fun (publisher : Publisher) event ↦
      ((publisher.advance event).1, (publisher.advance event).2.1)) events ({}, [])
  unfold emitted
  rw [List.foldl_append, List.foldl_cons, List.foldl_nil, hrun]
  rfl

/-- What holds at the start, and is carried on by every event together with its actions, holds after
every run. -/
theorem emitted_induction {R : List Action → Tracker → Prop} (hstart : R [] {})
    (hstep : ∀ actions tracker event, tracker.Reachable → R actions tracker →
      R (actions ++ (tracker.handle event).actions) (tracker.handle event).tracker.takeDirty.1)
    (events : List Event) : R (emitted events) (run events).tracker := by
  induction events using List.reverseRecOn with
  | nil => exact hstart
  | append_singleton events event ih =>
    rw [emitted_concat, run_concat, tracker_advance]
    exact hstep _ _ event (reachable_run events) ih

/-- Whether an event was such when it was handled, and every event since was of the other kind. -/
def Since (once always : Tracker → Event → Prop) (events : List Event) : Prop :=
  ∃ before event since, events = before ++ event :: since ∧ once (run before).tracker event ∧
    ∀ start next, start ++ [next] <+: since →
      always (run (before ++ event :: start)).tracker next

variable {once always : Tracker → Event → Prop}

theorem not_since_nil : ¬ Since once always [] := by
  rintro ⟨before, event, since, hevents, -⟩
  simp at hevents

/-- It happens now, or it has been so and is so now. -/
theorem since_concat_iff {events : List Event} {event : Event} :
    Since once always (events ++ [event]) ↔
      once (run events).tracker event ∨
        Since once always events ∧ always (run events).tracker event := by
  constructor
  · rintro ⟨before, first, since, hevents, honce, halways⟩
    rcases List.eq_nil_or_concat since with rfl | ⟨earlier, last, rfl⟩
    · obtain ⟨rfl, rfl⟩ : events = before ∧ event = first := by simpa using hevents
      exact .inl honce
    · rw [List.concat_eq_append] at hevents halways
      rw [← List.cons_append, ← List.append_assoc] at hevents
      obtain ⟨rfl, hlast⟩ := List.append_inj' hevents rfl
      obtain rfl : event = last := List.singleton_inj.1 hlast
      refine .inr ⟨⟨before, first, earlier, rfl, honce, fun start next hstart ↦ ?_⟩, ?_⟩
      · exact halways start next (hstart.trans (List.prefix_append earlier [event]))
      · exact halways earlier event List.prefix_rfl
  · rintro (honce | ⟨⟨before, first, since, rfl, honce, halways⟩, hnow⟩)
    · exact ⟨events, event, [], rfl, honce, fun start next hstart ↦ by simp at hstart⟩
    · refine ⟨before, first, since ++ [event], by simp, honce, fun start next hstart ↦ ?_⟩
      rcases List.prefix_concat_iff.1 hstart with hlast | hearlier
      · obtain ⟨rfl, rfl⟩ : start = since ∧ next = event := by simpa using hlast
        exact hnow
      · exact halways start next hearlier

/-- What holds now, and did not at the start, began with some event and was kept by all since. -/
theorem since_of_step {P : Tracker → Prop} (hstart : ¬ P {})
    (hstep : ∀ tracker event, tracker.Reachable → P (tracker.handle event).tracker.takeDirty.1 →
      once tracker event ∨ P tracker ∧ always tracker event)
    {events : List Event} (h : P (run events).tracker) : Since once always events := by
  induction events using List.reverseRecOn with
  | nil => exact absurd h hstart
  | append_singleton events event ih =>
    rw [run_concat, tracker_advance] at h
    apply since_concat_iff.2
    rcases hstep (run events).tracker event (reachable_run events) h with honce | ⟨hbefore, hkept⟩
    · exact .inl honce
    · exact .inr ⟨ih hbefore, hkept⟩

end Uplink.Publisher
