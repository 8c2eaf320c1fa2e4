import Mathlib.Data.List.Nodup
import Uplink.Proofs.Tracker.History
/-!
# Answers to commands

A command is answered while it is handled, or it leads to one call and is answered with the outcome
of that call, whatever has become of the modem meanwhile. Nothing else is ever answered, so that the
books balance: over a run, the commands are those that were answered at once and those that led to
a call, and the answers are those given at once and those that came with the end of a call.
-/

namespace Uplink

/-- The number of the command that the event carries. -/
def Event.number? : Event → Option Nat
  | commanded number _ => some number
  | _ => none

/-- The call that the event ends. -/
def Event.ended? : Event → Option SimCall
  | callFinished call _ => some call
  | _ => none

/-- The answer that comes with the end of a call. -/
def Event.late? : Event → Option Reply
  | callFinished call outcome => some ⟨call.command, outcome⟩
  | _ => none

def Action.simCall? : Action → Option SimCall
  | simCall call => some call
  | _ => none

theorem Action.simCall?_eq_none {action : Action} (h : action.subject ≠ .calls) :
    action.simCall? = none := by
  cases action <;> first | rfl | exact absurd rfl h

namespace ModemRoster

/-- A PUK is never sent by itself. -/
theorem carryOut_of_typesPuk (roster : ModemRoster) {command : SimCommand} (h : command.TypesPuk)
    (modems : ModemRoster) (request : SimRequest) :
    roster.carryOut command ≠ .ok (modems, some request) := by
  cases command with
  | submitPuk modem puk =>
    unfold carryOut
    dsimp only
    cases roster.submitPuk modem puk <;> simp [Except.map]
  | _ => exact h.elim

end ModemRoster

namespace Tracker

/-- The typing of a PUK is answered on the spot. -/
theorem command_of_typesPuk (tracker : Tracker) (number : Nat) {command : SimCommand}
    (h : command.TypesPuk) :
    (tracker.command number command).actions = [] ∧
      ∃ outcome, (tracker.command number command).replies = [⟨number, outcome⟩] := by
  rw [command_eq]
  split
  next modems request hcarried =>
    exact absurd hcarried (tracker.modems.carryOut_of_typesPuk h modems request)
  next => exact ⟨rfl, _, rfl⟩
  next => exact ⟨rfl, _, rfl⟩

@[simp] theorem replies_withServices? (tracker : Tracker) (services : Option ServiceRoster) :
    (tracker.withServices? services).replies = [] := by
  cases services <;> rfl

@[simp] theorem replies_withModems? (tracker : Tracker) (modems : Option ModemRoster) :
    (tracker.withModems? modems).replies = [] := by
  cases modems <;> rfl

/-- Only commands and the ends of calls are answered. -/
theorem replies_eq_nil (tracker : Tracker) {event : Event} (h : event.subject ≠ .calls) :
    (tracker.handle event).replies = [] := by
  cases event with
  | serviceFetched ticket properties => exact replies_withServices? tracker _
  | serviceChanged path key value =>
    unfold handle changeService
    dsimp only
    split <;> rfl
  | modemRemoved path =>
    unfold handle
    dsimp only
    split <;> rfl
  | simFetched ticket properties => exact replies_withModems? tracker _
  | simChanged path key value => exact replies_withModems? tracker _
  | passphraseSubmitted path passphrase => exact replies_withServices? tracker _
  | serviceForgotten path => exact replies_withServices? tracker _
  | commanded number command => exact absurd rfl h
  | callFinished call outcome => exact absurd rfl h
  | _ => rfl

/-- A command is answered at once or leads to a call, and the end of a call is answered. -/
theorem handle_balances (tracker : Tracker) (event : Event) :
    ∃ atOnce : List Reply,
      event.number?.toList = atOnce.map Reply.command ++
        ((tracker.handle event).actions.filterMap Action.simCall?).map SimCall.command ∧
      (tracker.handle event).replies = atOnce ++ event.late?.toList := by
  by_cases hsubject : event.subject = .calls
  · cases event with
    | commanded number command =>
      have hhandle : tracker.handle (.commanded number command) =
          tracker.command number command := rfl
      rw [hhandle, command_eq]
      split
      next => exact ⟨[], rfl, rfl⟩
      next => exact ⟨[⟨number, .ok ()⟩], rfl, rfl⟩
      next failure _ => exact ⟨[⟨number, .error failure⟩], rfl, rfl⟩
    | callFinished call outcome => exact ⟨[], rfl, rfl⟩
    | _ => cases hsubject
  · have hnumber : event.number? = none := by
      cases event <;> first | rfl | exact absurd rfl hsubject
    have hlate : event.late? = none := by
      cases event <;> first | rfl | exact absurd rfl hsubject
    have hcalls : (tracker.handle event).actions.filterMap Action.simCall? = [] := by
      apply List.filterMap_eq_nil_iff.2
      intro action haction
      exact Action.simCall?_eq_none (subject_ne_of_mem_handle haction hsubject)
    exact ⟨[], by simp [hnumber, hcalls], by simp [hlate, tracker.replies_eq_nil hsubject]⟩

end Tracker

namespace Publisher

/-- The commands of these events. -/
def asked (events : List Event) : List Nat := events.filterMap Event.number?

/-- The calls to SIMs that the tracker asked for in the course of these events. -/
def calls (events : List Event) : List SimCall := (emitted events).filterMap Action.simCall?

/-- The calls that these events end. -/
def ended (events : List Event) : List SimCall := events.filterMap Event.ended?

/-- The answers that come with the ends of these calls. -/
def late (events : List Event) : List Reply := events.filterMap Event.late?

/-- The answers that were given in the course of these events, in their order. -/
def replied (events : List Event) : List Reply :=
  (events.foldl
    (fun (state : Publisher × List Reply) event ↦
      ((state.1.advance event).1, state.2 ++ (state.1.advance event).2.2)) ({}, [])).2

/-- The commands that were answered in the course of these events. -/
def answered (events : List Event) : List Nat := (replied events).map Reply.command

theorem replied_concat (events : List Event) (event : Event) :
    replied (events ++ [event]) =
      replied events ++ ((run events).tracker.handle event).replies := by
  have hrun := foldl_collect_fst
    (fun (publisher : Publisher) event ↦
      ((publisher.advance event).1, (publisher.advance event).2.2)) events ({}, [])
  unfold replied
  rw [List.foldl_append, List.foldl_cons, List.foldl_nil, hrun]
  rfl

theorem calls_concat (events : List Event) (event : Event) :
    calls (events ++ [event]) =
      calls events ++ ((run events).tracker.handle event).actions.filterMap Action.simCall? := by
  unfold calls
  rw [emitted_concat, List.filterMap_append]

/-- The books balance. The commands are those that were answered at once and those that led to a
call; the answers are those that were given at once and those that came with the end of a call. -/
theorem exists_atOnce (events : List Event) :
    ∃ atOnce : List Reply,
      (asked events).Perm (atOnce.map Reply.command ++ (calls events).map SimCall.command) ∧
      (replied events).Perm (atOnce ++ late events) := by
  induction events using List.reverseRecOn with
  | nil => exact ⟨[], .nil, .nil⟩
  | append_singleton events event ih =>
    obtain ⟨before, hasked, hreplied⟩ := ih
    obtain ⟨now, hnumber, hreplies⟩ := (run events).tracker.handle_balances event
    have hconcat {β : Type} (of : Event → Option β) :
        (events ++ [event]).filterMap of = events.filterMap of ++ (of event).toList := by
      rw [List.filterMap_append]
      cases hof : of event <;> simp [hof]
    have hshuffle {α : Type} (a b c d : List α) :
        ((a ++ b) ++ (c ++ d)).Perm ((a ++ c) ++ (b ++ d)) := by
      rw [List.append_assoc, List.append_assoc]
      exact (List.perm_append_comm_assoc b c d).append_left a
    refine ⟨before ++ now, ?_, ?_⟩
    · rw [asked, hconcat, hnumber, calls_concat, List.map_append, List.map_append]
      exact (hasked.append_right _).trans (hshuffle _ _ _ _)
    · rw [replied_concat, hreplies, late, hconcat]
      exact (hreplied.append_right _).trans (hshuffle _ _ _ _)

theorem mem_ended_iff {events : List Event} {call : SimCall} :
    call ∈ ended events ↔ ∃ outcome, .callFinished call outcome ∈ events := by
  unfold ended
  rw [List.mem_filterMap]
  constructor
  · rintro ⟨event, hmem, hevent⟩
    cases event with
    | callFinished finished outcome =>
      obtain rfl : finished = call := Option.some.inj hevent
      exact ⟨outcome, hmem⟩
    | _ => cases hevent
  · rintro ⟨outcome, hmem⟩
    exact ⟨_, hmem, rfl⟩

theorem mem_late_iff {events : List Event} {reply : Reply} :
    reply ∈ late events ↔
      ∃ call, call.command = reply.command ∧ .callFinished call reply.outcome ∈ events := by
  unfold late
  rw [List.mem_filterMap]
  constructor
  · rintro ⟨event, hmem, hevent⟩
    cases event with
    | callFinished call outcome =>
      obtain rfl := Option.some.inj hevent
      exact ⟨call, rfl, hmem⟩
    | _ => cases hevent
  · rintro ⟨call, hcommand, hmem⟩
    exact ⟨_, hmem, by rw [Event.late?, hcommand]⟩

theorem map_command_late (events : List Event) :
    (late events).map Reply.command = (ended events).map SimCall.command := by
  unfold late ended
  rw [List.map_filterMap, List.map_filterMap]
  apply List.filterMap_congr
  intro event _
  cases event <;> rfl

/-- A run in which no two commands have the same number, and only calls that were asked for end,
each of them once. -/
structure Orderly (events : List Event) : Prop where
  numbered : (asked events).Nodup
  once : (ended events).Nodup
  called : ∀ start call outcome, start ++ [.callFinished call outcome] <+: events →
    call ∈ calls start

/-- What was asked for early in a run was asked for. -/
theorem calls_subset_of_prefix {start events : List Event} (h : start <+: events) :
    calls start ⊆ calls events := by
  obtain ⟨rest, rfl⟩ := h
  induction rest using List.reverseRecOn with
  | nil => simp
  | append_singleton rest event ih =>
    rw [← List.append_assoc, calls_concat]
    exact List.Subset.trans ih (List.subset_append_left _ _)

namespace Orderly

variable {start events : List Event}

theorem of_prefix (h : Orderly events) (hstart : start <+: events) : Orderly start where
  numbered := h.numbered.sublist (hstart.sublist.filterMap _)
  once := h.once.sublist (hstart.sublist.filterMap _)
  called := fun before call outcome hbefore ↦
    h.called before call outcome (hbefore.trans hstart)

theorem ended_subset (h : Orderly events) : ended events ⊆ calls events := by
  intro call hcall
  obtain ⟨outcome, hmem⟩ := mem_ended_iff.1 hcall
  obtain ⟨before, after, rfl⟩ := List.append_of_mem hmem
  have hstart : before ++ [.callFinished call outcome] <+:
      before ++ .callFinished call outcome :: after := by simp
  exact calls_subset_of_prefix ((List.prefix_append _ _).trans hstart)
    (h.called before call outcome hstart)

end Orderly

/-- An account of the commands of these events: each of them was answered at once, or led to one
call. -/
structure Account (events : List Event) (atOnce : List Reply) : Prop where
  mem_asked_iff : ∀ number, number ∈ asked events ↔
    number ∈ atOnce.map Reply.command ∨ number ∈ (calls events).map SimCall.command
  replied : (replied events).Perm (atOnce ++ late events)
  once : (atOnce.map Reply.command).Nodup
  apart : (atOnce.map Reply.command).Disjoint ((calls events).map SimCall.command)
  injective : ∀ call ∈ calls events, ∀ other ∈ calls events,
    call.command = other.command → call = other
  ended : ended events ⊆ calls events
  endedOnce : ((Publisher.ended events).map SimCall.command).Nodup

theorem Orderly.exists_account {events : List Event} (h : Orderly events) :
    ∃ atOnce, Account events atOnce := by
  obtain ⟨atOnce, hasked, hreplied⟩ := exists_atOnce events
  obtain ⟨honce, hcalls, hdisjoint⟩ := List.nodup_append'.1 (hasked.nodup_iff.1 h.numbered)
  have hinjective : ∀ call ∈ calls events, ∀ other ∈ calls events,
      call.command = other.command → call = other :=
    fun call hcall other hother ↦ List.inj_on_of_nodup_map hcalls hcall hother
  have hended := h.ended_subset
  refine ⟨atOnce, fun number ↦ ?_, hreplied, honce, hdisjoint, hinjective, hended, ?_⟩
  · rw [hasked.mem_iff, List.mem_append]
  · exact h.once.map_on fun call hcall other hother ↦
      hinjective call (hended hcall) other (hended hother)

namespace Account

variable {events : List Event} {atOnce : List Reply}

theorem answered (h : Account events atOnce) :
    (answered events).Perm
      (atOnce.map Reply.command ++ (Publisher.ended events).map SimCall.command) := by
  have hmap := h.replied.map Reply.command
  rwa [List.map_append, map_command_late] at hmap

theorem nodup_answered (h : Account events atOnce) : (Publisher.answered events).Nodup := by
  rw [h.answered.nodup_iff, List.nodup_append']
  exact ⟨h.once, h.endedOnce, List.disjoint_of_subset_right (List.map_subset _ h.ended) h.apart⟩

theorem answered_subset (h : Account events atOnce) :
    Publisher.answered events ⊆ asked events := by
  intro number hnumber
  apply (h.mem_asked_iff number).2
  rcases List.mem_append.1 (h.answered.mem_iff.1 hnumber) with hnow | hlater
  · exact .inl hnow
  · exact .inr (List.map_subset _ h.ended hlater)

theorem not_mem_answered_iff (h : Account events atOnce) {number : Nat}
    (hnumber : number ∈ asked events) :
    number ∉ Publisher.answered events ↔
      ∃ call ∈ calls events, call.command = number ∧ call ∉ Publisher.ended events := by
  rw [h.answered.mem_iff, List.mem_append, not_or]
  constructor
  · rintro ⟨hnow, hlater⟩
    have hcalled := ((h.mem_asked_iff number).1 hnumber).resolve_left hnow
    obtain ⟨call, hcall, rfl⟩ := List.mem_map.1 hcalled
    exact ⟨call, hcall, rfl, fun hended ↦ hlater (List.mem_map_of_mem hended)⟩
  · rintro ⟨call, hcall, rfl, hopen⟩
    refine ⟨fun hnow ↦ h.apart hnow (List.mem_map_of_mem hcall), fun hlater ↦ ?_⟩
    obtain ⟨other, hother, hsame⟩ := List.mem_map.1 hlater
    rw [← h.injective other (h.ended hother) call hcall hsame] at hopen
    exact hopen hother

/-- Who caused a call is answered with its outcome, and not before its end. -/
theorem mem_replied_iff (h : Account events atOnce) {call : SimCall} (hcall : call ∈ calls events)
    (outcome : Outcome) :
    ⟨call.command, outcome⟩ ∈ Publisher.replied events ↔
      .callFinished call outcome ∈ events := by
  rw [h.replied.mem_iff, List.mem_append, mem_late_iff]
  constructor
  · rintro (hnow | ⟨other, hsame, hother⟩)
    · exact absurd (List.mem_map_of_mem hcall) (h.apart (List.mem_map_of_mem hnow))
    · have hmem : other ∈ calls events := h.ended (mem_ended_iff.2 ⟨outcome, hother⟩)
      rwa [← h.injective other hmem call hcall hsame]
  · exact fun hfinished ↦ .inr ⟨call, rfl, hfinished⟩

end Account

/-- In an orderly run no command is answered twice, and at all times the commands without an answer
are those that led to a call that has not ended. A command that led to a call is answered with the
outcome of that call and with no other, whatever happens to the modem; one that is refused, and the
typing of a PUK, is answered at once and leads to no call. -/
theorem commands_answered_once {events : List Event} (h : Orderly events) :
    ∀ start, start <+: events →
      (answered start).Nodup ∧ answered start ⊆ asked start ∧
      (∀ number ∈ asked start, number ∉ answered start ↔
        ∃ call ∈ calls start, call.command = number ∧ call ∉ ended start) ∧
      (∀ call ∈ calls start, ∀ outcome,
        ⟨call.command, outcome⟩ ∈ replied start ↔ .callFinished call outcome ∈ start) ∧
      ∀ number command,
        let tracker := (run start).tracker
        let step := tracker.handle (.commanded number command)
        (∀ modems request, tracker.modems.carryOut command = .ok (modems, some request) →
          step.actions = [.simCall ⟨number, command.modem, request⟩] ∧ step.replies = []) ∧
        (∀ failure, tracker.modems.carryOut command = .error failure →
          step.actions = [] ∧ step.replies = [⟨number, .error failure⟩]) ∧
        (command.TypesPuk →
          step.actions = [] ∧ ∃ outcome, step.replies = [⟨number, outcome⟩]) := by
  intro start hstart
  obtain ⟨atOnce, haccount⟩ := (h.of_prefix hstart).exists_account
  refine ⟨haccount.nodup_answered, haccount.answered_subset,
    fun number hnumber ↦ haccount.not_mem_answered_iff hnumber,
    fun call hcall outcome ↦ haccount.mem_replied_iff hcall outcome, ?_⟩
  intro number command tracker step
  have hstep : step = tracker.command number command := rfl
  refine ⟨fun modems request hcarried ↦ ?_, fun failure hrefused ↦ ?_,
    tracker.command_of_typesPuk number⟩
  · rw [hstep, tracker.command_eq, hcarried]
    exact ⟨rfl, rfl⟩
  · rw [hstep, tracker.command_eq, hrefused]
    exact ⟨rfl, rfl⟩

/-- The PIN of a locked SIM is sent, and its modem goes and comes back before the call ends. -/
def readded : List Event :=
  Tracker.lockedSim ++ [.commanded 0 (.enter "/modem" "1234"), .modemRemoved Tracker.onlyModem,
    .commanded 1 (.enter "/modem" "1234"), .modemAdded Tracker.onlyModem ∅]

/-- The second command finds no modem and is refused; the first is answered when its call ends. -/
theorem commands_answered_once_readded :
    let call : SimCall := ⟨0, "/modem", .enter .pin "1234"⟩
    let events := readded ++ [.callFinished call (.ok ())]
    Orderly events ∧ (answered events).Nodup ∧ 0 ∉ answered readded ∧ 1 ∈ answered readded ∧
      ⟨0, .ok ()⟩ ∈ replied events := by
  intro call events
  have hcall : call ∈ calls readded := by decide +kernel
  have horderly : Orderly events := by
    refine ⟨by decide, by decide, fun start other outcome hstart ↦ ?_⟩
    rcases List.prefix_concat_iff.1 hstart with hlast | hearlier
    · obtain ⟨rfl, hfinished⟩ := List.append_inj' hlast rfl
      cases hfinished
      exact hcall
    · have hmem := hearlier.subset (List.mem_append_right start (List.mem_singleton_self _))
      simp [readded, Tracker.lockedSim] at hmem
  have hbefore := commands_answered_once horderly readded (List.prefix_append _ _)
  have hafter := commands_answered_once horderly events List.prefix_rfl
  have hasked : call ∈ calls events := calls_subset_of_prefix (List.prefix_append _ _) hcall
  refine ⟨horderly, hafter.1, ?_, by decide +kernel, ?_⟩
  · exact (hbefore.2.2.1 0 (by decide)).2 ⟨call, hcall, rfl, by decide⟩
  · exact (hafter.2.2.2.1 call hasked (.ok ())).2 (by simp [events])

end Publisher

end Uplink
