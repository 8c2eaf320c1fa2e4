import Uplink.Live.Client
import Uplink.Proofs.Tracker.Absence
import Uplink.Proofs.Tracker.Publication
/-!
# Modems that come and go

That modems come and that they go is signalled through two subscriptions, and each of them keeps its
own order, but not the order between them. A modem is tracked exactly if it came and did not go
since, so the order between the two matters for the modems that did both, and for no others.
-/

namespace Uplink

open Wire (Value Properties)
open Remote (Shape)
open Live (WatchKey)

namespace Event

/-- Whether the event stands for a signal that a modem came or went. -/
inductive IsModemSignal : Event → Prop
  | came (path : ObjectPath) (properties : Properties) : IsModemSignal (.modemAdded path properties)
  | went (path : ObjectPath) : IsModemSignal (.modemRemoved path)

/-- Whether the modem came or went, if the event signals either. -/
def presence? (path : String) : Event → Option Bool
  | .modemAdded added _ => if added.text = path then some true else none
  | .modemRemoved removed => if removed.text = path then some false else none
  | _ => none

end Event

/-- What the events signal of the modem, in their order. -/
def presences (path : String) (events : List Event) : List Bool :=
  events.filterMap (·.presence? path)

theorem presences_append (path : String) (earlier later : List Event) :
    presences path (earlier ++ later) = presences path earlier ++ presences path later :=
  List.filterMap_append

theorem isRemoval_of_presence? {path : String} {event : Event} {came : Bool}
    (h : event.presence? path = some came) : Live.isRemoval event = !came := by
  unfold Event.presence? at h
  split at h
  · obtain ⟨-, ⟨⟩⟩ := Option.ite_none_right_eq_some.1 h
    rfl
  · obtain ⟨-, ⟨⟩⟩ := Option.ite_none_right_eq_some.1 h
    rfl
  · cases h

theorem presences_filter (path : String) (events : List Event) {kind : Event → Bool} {came : Bool}
    (hkind : ∀ event said, event.presence? path = some said → kind event = decide (said = came)) :
    presences path (events.filter kind) = (presences path events).filter (· = came) := by
  unfold presences
  rw [List.filterMap_filter, List.filter_filterMap]
  congr 1
  funext event
  cases hpresence : event.presence? path with
  | none => exact ite_self none
  | some said =>
    rw [hkind event said hpresence]
    rfl

theorem presences_removals (path : String) (events : List Event) :
    presences path (events.filter Live.isRemoval) =
      (presences path events).filter (· = false) := by
  refine presences_filter path events fun event said hsaid ↦ ?_
  rw [isRemoval_of_presence? hsaid]
  cases said <;> rfl

theorem presences_additions (path : String) (events : List Event) :
    presences path (events.filter fun event ↦ !Live.isRemoval event) =
      (presences path events).filter (· = true) := by
  refine presences_filter path events fun event said hsaid ↦ ?_
  rw [isRemoval_of_presence? hsaid]
  cases said <;> rfl

theorem getLast?_filter_eq {said : List Bool} {came : Bool} (h : came ∈ said) :
    (said.filter (· = came)).getLast? = some came := by
  have hmem : came ∈ said.filter (· = came) := List.mem_filter.2 ⟨h, decide_eq_true rfl⟩
  have hlast := List.getLast_mem (List.ne_nil_of_mem hmem)
  rw [List.getLast?_eq_some_getLast (List.ne_nil_of_mem hmem), Option.some.injEq]
  exact of_decide_eq_true (List.mem_filter.1 hlast).2

/-- Where all that says one thing of the modem comes last, this is the last that is said of it. -/
theorem getLast?_presences_append {path : String} {events earlier later : List Event} {came : Bool}
    (hlater : presences path later = (presences path events).filter (· = came))
    (h : came ∈ presences path events) :
    (presences path (earlier ++ later)).getLast? = some came := by
  rw [presences_append, List.getLast?_append, hlater, getLast?_filter_eq h]
  rfl

namespace Live

/-- Whether the two subscriptions can yield the events in this order: each keeps its own. -/
structure Yields (emitted yielded : List Event) : Prop where
  additions : (yielded.filter fun event ↦ !isRemoval event) =
    emitted.filter fun event ↦ !isRemoval event
  removals : yielded.filter isRemoval = emitted.filter isRemoval

theorem Yields.perm {emitted yielded : List Event} (h : Yields emitted yielded) :
    yielded.Perm emitted :=
  calc yielded.Perm (yielded.filter isRemoval ++ yielded.filter fun event ↦ !isRemoval event) :=
        (List.filter_append_perm isRemoval yielded).symm
    _ = emitted.filter isRemoval ++ emitted.filter fun event ↦ !isRemoval event := by
        rw [h.additions, h.removals]
    List.Perm _ emitted := List.filter_append_perm isRemoval emitted

theorem Yields.isModemSignal {emitted yielded : List Event} (h : Yields emitted yielded)
    (hsignals : ∀ event ∈ emitted, event.IsModemSignal) :
    ∀ event ∈ yielded, event.IsModemSignal :=
  fun event hevent ↦ hsignals event (h.perm.mem_iff.1 hevent)

/-- All additions can come before all removals, and the other way round. -/
theorem yields_apart (emitted : List Event) :
    Yields emitted
        ((emitted.filter fun event ↦ !isRemoval event) ++ emitted.filter isRemoval) ∧
      Yields emitted
        (emitted.filter isRemoval ++ emitted.filter fun event ↦ !isRemoval event) := by
  constructor <;> constructor <;> simp [List.filter_append, List.filter_filter]

/-- Of two lists that differ in kind, taking turns keeps the order of each. -/
theorem filter_takeTurns {α : Type} {kind : α → Bool} {xs ys : List α}
    (hxs : ∀ x ∈ xs, kind x = false) (hys : ∀ y ∈ ys, kind y = true) :
    (takeTurns xs ys).filter kind = ys ∧ (takeTurns xs ys).filter (fun x ↦ !kind x) = xs := by
  fun_induction takeTurns xs ys with
  | case1 ys =>
    refine ⟨List.filter_eq_self.2 hys, List.filter_eq_nil_iff.2 fun y hy ↦ ?_⟩
    simp [hys y hy]
  | case2 x xs =>
    refine ⟨List.filter_eq_nil_iff.2 fun other hother ↦ ?_,
      List.filter_eq_self.2 fun other hother ↦ ?_⟩
    · simp [hxs other hother]
    · simp [hxs other hother]
  | case3 x xs y ys ih =>
    have hx := hxs x List.mem_cons_self
    have hy := hys y List.mem_cons_self
    obtain ⟨hleft, hright⟩ := ih (fun other hother ↦ hxs other (List.mem_cons_of_mem x hother))
      (fun other hother ↦ hys other (List.mem_cons_of_mem y hother))
    constructor
    · rw [List.filter_cons_of_neg (by simp [hx]), List.filter_cons_of_pos hy, hleft]
    · rw [List.filter_cons_of_pos (by simp [hx]), List.filter_cons_of_neg (by simp [hy]), hright]

/-- Where all signals about a modem say the same, every order says the same of it. -/
theorem Yields.presences_eq {emitted yielded : List Event} (h : Yields emitted yielded)
    {path : String} (hone : ¬ (true ∈ presences path emitted ∧ false ∈ presences path emitted)) :
    presences path yielded = presences path emitted := by
  have hperm : (presences path yielded).Perm (presences path emitted) := h.perm.filterMap _
  obtain ⟨came, hsame⟩ : ∃ came, ∀ said ∈ presences path emitted, said = came := by
    by_cases htrue : true ∈ presences path emitted
    · refine ⟨true, fun said hsaid ↦ ?_⟩
      cases said with
      | true => rfl
      | false => exact absurd ⟨htrue, hsaid⟩ hone
    · refine ⟨false, fun said hsaid ↦ ?_⟩
      cases said with
      | true => exact absurd hsaid htrue
      | false => rfl
  -- One word over and over is the same in every order.
  rw [List.eq_replicate_of_mem hsame] at hperm ⊢
  exact List.perm_replicate.1 hperm

theorem yields_release (emitted : List Event) :
    Yields emitted (WatchKey.modemManager.release emitted) := by
  have hadds : ∀ event ∈ emitted.filter fun event ↦ !isRemoval event, isRemoval event = false :=
    fun event hevent ↦ by simpa using (List.mem_filter.1 hevent).2
  have hremoves : ∀ event ∈ emitted.filter isRemoval, isRemoval event = true :=
    fun event hevent ↦ (List.mem_filter.1 hevent).2
  obtain ⟨hremovals, hadditions⟩ := filter_takeTurns hadds hremoves
  exact ⟨hadditions, hremovals⟩

end Live

namespace Tracker

variable {tracker : Tracker} {event : Event} {events : List Event} {path : String}

/-- A modem is tracked after a signal that it came, and is not after one that it went; a signal
about another modem leaves it as it is. -/
theorem Reachable.tracks_handle_signal_iff (h : tracker.Reachable) (hsignal : event.IsModemSignal) :
    (tracker.handle event).tracker.Tracks (.modem path) ↔
      (event.presence? path).elim (tracker.Tracks (.modem path)) (· = true) := by
  unfold Tracks
  dsimp only
  rw [modems_handle]
  cases hsignal with
  | came added properties =>
    refine (h.keyed.find?_add_ne_none_iff added properties path).trans ?_
    unfold Event.presence?
    by_cases hpath : added.text = path <;> simp [hpath]
  | went removed =>
    change ((tracker.modems.remove? removed).getD tracker.modems).find? path ≠ none ↔ _
    unfold Event.presence?
    by_cases hpath : removed.text = path
    · subst hpath
      rw [(ModemRoster.find?_remove? tracker.modems removed).2]
      simp
    · have honly := ModemRoster.onlyAt_remove? tracker.modems removed path (Ne.symm hpath)
      unfold ModemRoster.find?
      rw [honly]
      simp [hpath]

theorem modems_after (tracker : Tracker) (events : List Event) :
    (tracker.after events).modems = events.foldl ModemRoster.follow tracker.modems := by
  induction events generalizing tracker with
  | nil => rfl
  | cons event rest ih =>
    change ((tracker.handle event).tracker.after rest).modems = _
    rw [ih, modems_handle]
    rfl

/-- After signals a modem is tracked as the last one about it says. -/
theorem Reachable.tracks_after_signals_iff (h : tracker.Reachable)
    (hsignals : ∀ event ∈ events, event.IsModemSignal) :
    (tracker.after events).Tracks (.modem path) ↔
      (presences path events).getLast?.elim (tracker.Tracks (.modem path)) (· = true) := by
  induction events generalizing tracker with
  | nil => rfl
  | cons event rest ih =>
    have hrest := fun later hlater ↦ hsignals later (List.mem_cons_of_mem event hlater)
    change ((tracker.handle event).tracker.after rest).Tracks _ ↔ _
    rw [ih (.handled event h) hrest,
      h.tracks_handle_signal_iff (hsignals event List.mem_cons_self)]
    unfold presences
    cases hpresence : event.presence? path with
    | none =>
      rw [List.filterMap_cons_none hpresence]
      rfl
    | some came =>
      rw [List.filterMap_cons_some hpresence, List.getLast?_cons]
      cases (rest.filterMap (·.presence? path)).getLast? <;> rfl

theorem Reachable.tracks_modemsListed_iff (h : tracker.Reachable)
    (listed : List (ObjectPath × Properties)) :
    (tracker.handle (.modemsListed listed)).tracker.Tracks (.modem path) ↔
      tracker.Tracks (.modem path) ∨ ∃ modem ∈ listed, modem.1.text = path := by
  unfold Tracks
  dsimp only
  rw [modems_handle]
  exact h.keyed.find?_foldl_add_ne_none_iff listed path

/-- The order in which signals are yielded cannot matter to a modem exactly if they do not say both
that it came and that it went. -/
theorem Reachable.tracks_yielded_iff (h : tracker.Reachable) {emitted : List Event}
    (hsignals : ∀ event ∈ emitted, event.IsModemSignal) :
    (∀ yielded, Live.Yields emitted yielded →
      ((tracker.after yielded).Tracks (.modem path) ↔
        (tracker.after emitted).Tracks (.modem path))) ↔
      ¬ (true ∈ presences path emitted ∧ false ∈ presences path emitted) := by
  constructor
  · rintro hsame ⟨hcame, hwent⟩
    obtain ⟨hremovedLast, haddedLast⟩ := Live.yields_apart emitted
    -- With the removals last the modem is not tracked, and with the additions last it is.
    have huntracked := hsame _ hremovedLast
    have htracked := hsame _ haddedLast
    rw [h.tracks_after_signals_iff (hremovedLast.isModemSignal hsignals),
      getLast?_presences_append (presences_removals path emitted) hwent] at huntracked
    rw [h.tracks_after_signals_iff (haddedLast.isModemSignal hsignals),
      getLast?_presences_append (presences_additions path emitted) hcame] at htracked
    exact Bool.false_ne_true (huntracked.2 (htracked.1 rfl))
  · intro hone yielded hyields
    rw [h.tracks_after_signals_iff (hyields.isModemSignal hsignals),
      h.tracks_after_signals_iff hsignals, hyields.presences_eq hone]

end Tracker

namespace Live.Client

theorem publisher_fetch (client : Client) (fetch : Fetch) :
    (client.fetch fetch).publisher = client.publisher := by
  unfold Client.fetch
  cases fetch.key? <;> rfl

theorem publisher_execute (client : Client) (action : Action) :
    (client.execute action).publisher = client.publisher := by
  cases action with
  | attachService ticket => exact publisher_fetch client (.service ticket)
  | refetchService ticket => exact publisher_fetch client (.serviceAgain ticket)
  | attachModem path => exact publisher_fetch client (.modem path)
  | attachSim ticket => exact publisher_fetch client (.sim ticket)
  | simCall call =>
    unfold execute
    dsimp only
    split <;> rfl
  | _ => rfl

theorem publisher_handle (client : Client) (event : Event) :
    (client.handle event).publisher = (client.publisher.advance event).1 := by
  have hactions (actions : List Action) : ∀ client : Client,
      (actions.foldl execute client).publisher = client.publisher := by
    induction actions with
    | nil => exact fun _ ↦ rfl
    | cons action rest ih => exact fun client ↦ (ih _).trans (publisher_execute client action)
  have hreplies (replies : List Reply) : ∀ client : Client,
      (replies.foldl (fun client reply ↦
        client.finish reply.command (reply.outcome.map fun _ ↦ .done)) client).publisher =
        client.publisher := by
    induction replies with
    | nil => exact fun _ ↦ rfl
    | cons reply rest ih => exact fun client ↦ ih _
  unfold handle
  dsimp only
  rw [hreplies, hactions]

/-- The client handles events as the tracker does. -/
theorem modems_handleAll (client : Client) (events : List Event) :
    (client.handleAll events).publisher.tracker.modems =
      (client.publisher.tracker.after events).modems := by
  rw [Tracker.modems_after]
  induction events generalizing client with
  | nil => rfl
  | cons event rest ih =>
    change ((client.handle event).handleAll rest).publisher.tracker.modems = _
    rw [ih, publisher_handle, Publisher.tracker_advance]
    change rest.foldl ModemRoster.follow (client.publisher.tracker.handle event).tracker.modems = _
    rw [Tracker.modems_handle]
    rfl

/-- When the modems are listed, the signals that waited for the list are handled after it. -/
theorem modems_endFetch (client : Client) {body : List Value}
    {listed : List (ObjectPath × Properties)} {emitted : List Event}
    (hread : Shape.children.read? body = some listed)
    (hwaiting : (client.watches.find? (·.key = .modemManager)).bind (·.waiting) = some emitted) :
    (client.endFetch .modems (.ok body)).publisher.tracker.modems =
      ((client.publisher.tracker.handle (.modemsListed listed)).tracker.after
        (WatchKey.modemManager.release emitted)).modems := by
  have hevent : Fetch.modems.event? body = some (.modemsListed listed) := by
    change (Shape.children.read? body).map Event.modemsListed = _
    rw [hread, Option.map_some]
  unfold endFetch
  dsimp only [Fetch.key?, Except.toOption, Option.bind_some]
  rw [hevent, hwaiting, Option.getD_some, if_neg (by simp), modems_handleAll]
  rfl

end Live.Client

namespace Tracker

/-- Signals about modems are yielded with the additions in order and the removals in order. A modem
is then tracked as the last signal that was yielded about it says, or else as the list of modems
does; and this is the same for every order exactly if the signals do not say both that the modem
came and that it went. In such an order the client passes on the signals that waited for the list.
-/
theorem modems_yielded {tracker : Tracker} (h : tracker.Reachable)
    (listed : List (ObjectPath × Properties)) {emitted : List Event}
    (hsignals : ∀ event ∈ emitted, event.IsModemSignal) :
    let enumerated := (tracker.handle (.modemsListed listed)).tracker
    (∀ yielded, Live.Yields emitted yielded → ∀ path,
      (enumerated.after yielded).Tracks (.modem path) ↔
        (presences path yielded).getLast?.elim
          (tracker.Tracks (.modem path) ∨ ∃ modem ∈ listed, modem.1.text = path) (· = true)) ∧
    (∀ path, (∀ yielded, Live.Yields emitted yielded →
        ((enumerated.after yielded).Tracks (.modem path) ↔
          (enumerated.after emitted).Tracks (.modem path))) ↔
      ¬ (true ∈ presences path emitted ∧ false ∈ presences path emitted)) ∧
    Live.Yields emitted (WatchKey.modemManager.release emitted) ∧
    ∀ (client : Live.Client) (body : List Value), client.publisher.tracker = tracker →
      (client.watches.find? (·.key = .modemManager)).bind (·.waiting) = some emitted →
      Shape.children.read? body = some listed →
      (client.endFetch .modems (.ok body)).publisher.tracker.modems =
        (enumerated.after (WatchKey.modemManager.release emitted)).modems := by
  intro enumerated
  have henumerated : enumerated.Reachable := .handled _ h
  refine ⟨fun yielded hyields path ↦ ?_, fun path ↦ henumerated.tracks_yielded_iff hsignals,
    Live.yields_release emitted, fun client body htracker hwaiting hread ↦ ?_⟩
  · rw [henumerated.tracks_after_signals_iff (hyields.isModemSignal hsignals),
      h.tracks_modemsListed_iff]
  · rw [client.modems_endFetch hread hwaiting, htracker]

/-- The path of another modem. -/
def otherModem : ObjectPath := ⟨"/other", by decide⟩

/-- The one modem goes and another one comes, in whatever order that is heard of. -/
theorem modems_yielded_replaced :
    let listed := (({} : Tracker).handle (.modemsListed [(onlyModem, ∅)])).tracker
    let emitted : List Event := [.modemRemoved onlyModem, .modemAdded otherModem ∅]
    ∀ yielded, Live.Yields emitted yielded →
      ¬ (listed.after yielded).Tracks (.modem "/modem") ∧
        (listed.after yielded).Tracks (.modem "/other") := by
  intro listed emitted yielded hyields
  have hsignals : ∀ event ∈ emitted, event.IsModemSignal := by
    rw [List.forall_mem_cons, List.forall_mem_singleton]
    exact ⟨.went onlyModem, .came otherModem ∅⟩
  obtain ⟨-, hsame, -, -⟩ := modems_yielded .start [(onlyModem, ∅)] hsignals
  have hmodem := (hsame "/modem").2 (by decide) yielded hyields
  have hother := (hsame "/other").2 (by decide) yielded hyields
  have hgone : (listed.after emitted).modems.find? "/modem" = none := by decide +kernel
  have hthere : (listed.after emitted).modems.find? "/other" ≠ none := by decide +kernel
  exact ⟨fun htracked ↦ hmodem.1 htracked hgone, hother.2 hthere⟩

/-- A modem goes and comes back while the modems are being listed: in the order in which the client
passes that on, the modem is not tracked. -/
theorem modems_yielded_swapped :
    let listed := (({} : Tracker).handle (.modemsListed [(onlyModem, ∅)])).tracker
    let emitted : List Event := [.modemRemoved onlyModem, .modemAdded onlyModem ∅]
    let yielded := WatchKey.modemManager.release emitted
    Live.Yields emitted yielded ∧ (listed.after emitted).Tracks (.modem "/modem") ∧
      ¬ (listed.after yielded).Tracks (.modem "/modem") := by
  intro listed emitted yielded
  have hthere : (listed.after emitted).modems.find? "/modem" ≠ none := by decide +kernel
  have hgone : (listed.after yielded).modems.find? "/modem" = none := by decide +kernel
  exact ⟨Live.yields_release emitted, hthere, not_not.2 hgone⟩

end Tracker

end Uplink
