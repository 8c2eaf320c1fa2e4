import Uplink.Proofs.Tracker.Tickets
/-!
# Convergence of the tracked services

A service changes at the daemon while replies to its fetches and signals of its changes are on their
way, in an order that nothing fixes but that signals come in the order of the writes. Once all
signals and the reply to the latest fetch have arrived, what is tracked of the service is what the
daemon reports at the end. The invariant that carries this says what is right so far: every property
but those whose signals are still to come, as soon as the latest fetch is answered; before that, the
changes that were kept are those since the fetch began.
-/

namespace Uplink

open Wire (Value Properties)

/-- The properties of a service at the daemon, and the writes that change them one by one. -/
structure DaemonHistory where
  initial : Properties
  writes : List (String × Value)

namespace DaemonHistory

/-- The properties after so many writes. -/
def after (history : DaemonHistory) (count : Nat) : Properties :=
  (history.writes.take count).foldl (fun properties write ↦ properties.set write.1 write.2)
    history.initial

def final (history : DaemonHistory) : Properties := history.after history.writes.length

/-- Whether the view is right in every property that is not written again after so many writes. -/
def Settles (history : DaemonHistory) (heard : Nat) (view : String → Option Value) : Prop :=
  ∀ key, key ∉ (history.writes.drop heard).map (·.1) → view key = history.final.get? key

variable {history : DaemonHistory}

theorem get?_after (history : DaemonHistory) (count : Nat) (key : String) :
    (history.after count).get? key =
      (lastValue? (history.writes.take count) key).or (history.initial.get? key) :=
  Properties.get?_foldl_set _ _ key

/-- A property that is not written after so many writes has its final value by then. -/
theorem get?_final {count : Nat} {key : String}
    (h : key ∉ (history.writes.drop count).map (·.1)) :
    history.final.get? key = (history.after count).get? key := by
  unfold final
  rw [get?_after, get?_after, List.take_length]
  have hsplit : lastValue? history.writes key = lastValue? (history.writes.take count) key := by
    conv_lhs => rw [← List.take_append_drop count history.writes]
    rw [lastValue?_append, lastValue?_eq_none_iff.2 h, Option.none_or]
  rw [hsplit]

/-- A later state differs from an earlier one by the writes between them. -/
theorem get?_after_of_le {low count : Nat} (h : low ≤ count) (key : String) :
    (history.after count).get? key =
      (lastValue? ((history.writes.drop low).take (count - low)) key).or
        ((history.after low).get? key) := by
  have hsplit : history.writes.take count =
      history.writes.take low ++ (history.writes.drop low).take (count - low) := by
    rw [← List.take_add, Nat.add_sub_cancel' h]
  rw [get?_after, get?_after, hsplit, lastValue?_append, Option.or_assoc]

theorem settles_nil {view : String → Option Value}
    (h : history.Settles history.writes.length view) (key : String) :
    view key = history.final.get? key := by
  refine h key ?_
  rw [List.drop_length]
  exact List.not_mem_nil

/-- A report that is at least as new as the fetch, with the changes since the fetch on top. -/
theorem settles_report {low heard count : Nat} {changes : List (String × Value)}
    (hheard : low ≤ heard) (hcount : low ≤ count)
    (hchanges : ∀ key, lastValue? changes key =
      lastValue? ((history.writes.drop low).take (heard - low)) key) :
    history.Settles heard fun key ↦
      (lastValue? changes key).or ((history.after count).get? key) := by
  intro key hkey
  dsimp only
  rw [get?_final hkey, hchanges, get?_after_of_le hheard, get?_after_of_le hcount]
  cases hchange : lastValue? ((history.writes.drop low).take (heard - low)) key with
  | some value => rfl
  | none =>
    -- Not written since the fetch began, the property is in the report as it was then.
    have hdrop : history.writes.drop heard = (history.writes.drop low).drop (heard - low) := by
      rw [List.drop_drop, Nat.add_sub_cancel' hheard]
    have hwrites : key ∉ (history.writes.drop low).map (·.1) := by
      rw [← List.take_append_drop (heard - low) (history.writes.drop low), List.map_append,
        List.mem_append, not_or, ← hdrop]
      exact ⟨lastValue?_eq_none_iff.1 hchange, hkey⟩
    have hcounted : lastValue? ((history.writes.drop low).take (count - low)) key = none := by
      rw [lastValue?_eq_none_iff]
      intro hmem
      exact hwrites (List.map_subset _ (List.take_subset _ _) hmem)
    rw [hcounted, Option.none_or]

/-- Hearing the next write settles its property. -/
theorem settles_hear {heard : Nat} {view : String → Option Value} {key : String} {value : Value}
    (h : history.Settles heard view) (hnext : history.writes[heard]? = some (key, value)) :
    history.Settles (heard + 1) fun name ↦
      (if key = name then some value else none).or (view name) := by
  intro name hname
  have hdrop : history.writes.drop heard = (key, value) :: history.writes.drop (heard + 1) := by
    obtain ⟨hlt, hget⟩ := List.getElem?_eq_some_iff.1 hnext
    rw [← hget, List.drop_eq_getElem_cons hlt]
  dsimp only
  split
  next hkey =>
    rw [get?_final hname, get?_after, List.take_add_one, hnext, lastValue?_append]
    simp [lastValue?, hkey]
  next hkey =>
    rw [Option.none_or]
    refine h name ?_
    rw [hdrop, List.map_cons, List.mem_cons, not_or]
    exact ⟨fun hsame ↦ hkey hsame.symm, hname⟩

end DaemonHistory

/-- A service as it is followed: how many of its signals were handled, the latest ticket of a fetch,
and the fetches whose reply may still come, each with the number of writes it shows at least. -/
structure Following where
  tracker : Tracker
  heard : Nat
  latest : Ticket
  unanswered : List (Ticket × Nat)

/-- The state after the signal of the next write. -/
def Following.hear (state : Following) (path : ObjectPath) (key : String) (value : Value) :
    Following :=
  { state with
    tracker := (state.tracker.handle (.serviceChanged path key value)).tracker
    heard := state.heard + 1 }

/-- How a service can be followed through its history at the daemon while it stays tracked. Signals
come in order, and not before the reply to the first fetch; replies come in any order, if at all,
and each shows at least the write whose signal asked for it. -/
inductive Followed (history : DaemonHistory) (path : ObjectPath) : Following → Prop
  | attached {tracker : Tracker} {event : Event} {ticket : Ticket} (h : tracker.Reachable)
    (hasked : .attachService ticket ∈ (tracker.handle event).actions)
    (hpath : ticket.path = path) :
    Followed history path ⟨(tracker.handle event).tracker, 0, ticket, [(ticket, 0)]⟩
  | other {state : Following} {event : Event} (h : Followed history path state)
    (hother : ¬ event.Concerns path)
    (htracked : ((state.tracker.handle event).tracker.services.get? path).isSome = true) :
    Followed history path { state with tracker := (state.tracker.handle event).tracker }
  | asked {state : Following} (h : Followed history path state) :
    Followed history path { state with tracker := state.tracker.takeDirty.1 }
  | signal {state : Following} {key : String} {value : Value} (h : Followed history path state)
    (hfirst : state.heard = 0 → state.unanswered = [])
    (hnext : history.writes[state.heard]? = some (key, value))
    (hquiet : ∀ ticket, .refetchService ticket ∉
      (state.tracker.handle (.serviceChanged path key value)).actions) :
    Followed history path (state.hear path key value)
  | refetch {state : Following} {key : String} {value : Value} {ticket : Ticket}
    (h : Followed history path state) (hfirst : state.heard = 0 → state.unanswered = [])
    (hnext : history.writes[state.heard]? = some (key, value))
    (hasked : .refetchService ticket ∈
      (state.tracker.handle (.serviceChanged path key value)).actions) :
    Followed history path
      { state.hear path key value with
        latest := ticket
        unanswered := (ticket, state.heard + 1) :: state.unanswered }
  | reply {state : Following} {ticket : Ticket} {low count : Nat} {properties : Properties}
    (h : Followed history path state) (hasked : (ticket, low) ∈ state.unanswered)
    (hlow : low ≤ count) (hcount : count ≤ history.writes.length)
    (hreply : ∀ key, properties.get? key = (history.after count).get? key) :
    Followed history path
      { state with
        tracker := (state.tracker.handle (.serviceFetched ticket properties)).tracker
        unanswered := state.unanswered.filter fun asked ↦ asked.1 ≠ ticket }

namespace ServiceRoster

/-- A reply together with the changes that were kept reads as one report. -/
theorem Entry.reported_answered (entry : Entry) (properties : Properties) (path : ObjectPath) :
    (entry.answered properties).service.reported =
      ((Service.provisional path 0).amended fun key ↦
        (lastValue? (entry.replay.getD []) key).or (properties.get? key)).reported := by
  have hentries : lastValue? properties.entries = properties.get? :=
    funext properties.lastValue?_entries
  calc
    (entry.fetched properties).reported =
        (((Service.provisional path 0).amended properties.get?).amended
          (lastValue? (entry.replay.getD []))).reported := by
      unfold fetched
      simp only [Service.setProperties_eq_amended, hentries]
      split <;> rfl
    _ = _ := by rw [Service.amended_amended]

end ServiceRoster

/-- What is right so far about a service that is followed. -/
structure Coherent (history : DaemonHistory) (path : ObjectPath) (state : Following)
    (entry : ServiceRoster.Entry) : Prop where
  reachable : state.tracker.Reachable
  tracked : state.tracker.services.get? path = some entry
  current : entry.generation = state.latest.generation
  issued : ∀ asked ∈ state.unanswered, asked.1.path = path ∧
    (asked.1 = state.latest ∨ asked.1.generation < state.latest.generation)
  /-- While the latest fetch is under way, the changes that are kept are those since it began. -/
  waiting : ∀ low, (state.latest, low) ∈ state.unanswered →
    low ≤ state.heard ∧ (state.heard = 0 ∨ entry.replay.isSome = true) ∧
    ∀ key, lastValue? (entry.replay.getD []) key =
      lastValue? ((history.writes.drop low).take (state.heard - low)) key
  /-- After it, the service reads as at the daemon but for the signals still to come. -/
  settled : (∀ low, (state.latest, low) ∉ state.unanswered) →
    ∃ view, entry.service.reported = ((Service.provisional path 0).amended view).reported ∧
      history.Settles state.heard view

namespace Coherent

variable {history : DaemonHistory} {path : ObjectPath} {state : Following}
  {entry : ServiceRoster.Entry}

theorem attached {tracker : Tracker} {event : Event} {ticket : Ticket} (h : tracker.Reachable)
    (hasked : .attachService ticket ∈ (tracker.handle event).actions)
    (hpath : ticket.path = path) :
    ∃ entry, Coherent history path
      ⟨(tracker.handle event).tracker, 0, ticket, [(ticket, 0)]⟩ entry := by
  obtain ⟨place, hentry⟩ := Tracker.attaches_handle h hasked
  rw [hpath] at hentry
  refine ⟨_, .handled event h, hentry, rfl, ?_, ?_, ?_⟩
  · intro asked hmem
    rw [List.mem_singleton.1 hmem]
    exact ⟨hpath, .inl rfl⟩
  · intro low hmem
    obtain rfl : low = 0 := congrArg Prod.snd (List.mem_singleton.1 hmem)
    exact ⟨Nat.le_refl 0, .inl rfl, fun key ↦ rfl⟩
  · intro hanswered
    exact absurd (List.mem_singleton.2 rfl) (hanswered 0)

theorem other (h : Coherent history path state entry) {event : Event}
    (hother : ¬ event.Concerns path)
    (htracked : ((state.tracker.handle event).tracker.services.get? path).isSome = true) :
    ∃ after, Coherent history path
      { state with tracker := (state.tracker.handle event).tracker } after := by
  obtain ⟨after, hafter⟩ := Option.isSome_iff_exists.1 htracked
  have hkeeps := hafter
  rw [Tracker.services_handle] at hkeeps
  obtain ⟨index, passphrase, rfl⟩ := ServiceRoster.keeps_follow hother h.tracked hkeeps
  exact ⟨_, .handled event h.reachable, hafter, h.current, h.issued, h.waiting, h.settled⟩

theorem asked (h : Coherent history path state entry) :
    Coherent history path { state with tracker := state.tracker.takeDirty.1 } entry :=
  ⟨.asked h.reachable, h.tracked, h.current, h.issued, h.waiting, h.settled⟩

theorem signal (h : Coherent history path state entry) {key : String} {value : Value}
    (hfirst : state.heard = 0 → state.unanswered = [])
    (hnext : history.writes[state.heard]? = some (key, value))
    (hquiet : ∀ ticket, .refetchService ticket ∉
      (state.tracker.handle (.serviceChanged path key value)).actions) :
    Coherent history path (state.hear path key value)
      ((entry.record key value).setProperty key value) := by
  have hkey : ServiceRoster.needsRefetch key = false := by
    by_contra hneeds
    have htrue : ServiceRoster.needsRefetch key = true := by simpa using hneeds
    exact hquiet _ ((Tracker.actions_changeService h.tracked key value).2 ⟨htrue, rfl⟩)
  refine ⟨.handled _ h.reachable, ?_, h.current, h.issued, ?_, ?_⟩
  · change (state.tracker.changeService path key value).tracker.services.get? path = _
    rw [Tracker.services_changeService]
    exact ServiceRoster.get?_change_of_not_needsRefetch h.tracked hkey value
  · intro low hmem
    change (state.latest, low) ∈ state.unanswered at hmem
    obtain ⟨hlow, hreplay, hchanges⟩ := h.waiting low hmem
    obtain ⟨changes, hsome⟩ : ∃ changes, entry.replay = some changes := by
      rcases hreplay with hzero | hsome
      · rw [hfirst hzero] at hmem
        cases hmem
      · exact Option.isSome_iff_exists.1 hsome
    have hrecord : ((entry.record key value).setProperty key value).replay =
        some (changes.filter (fun change ↦ change.1 ≠ key) ++ [(key, value)]) := by
      change entry.replay.map _ = _
      rw [hsome]
      rfl
    have hwrites : (history.writes.drop low).take (state.heard + 1 - low) =
        (history.writes.drop low).take (state.heard - low) ++ [(key, value)] := by
      rw [Nat.sub_add_comm hlow, List.take_add_one, List.getElem?_drop,
        Nat.add_sub_cancel' hlow, hnext]
      rfl
    refine ⟨Nat.le_succ_of_le hlow, .inr (by rw [hrecord]; rfl), fun name ↦ ?_⟩
    rw [hsome, Option.getD_some] at hchanges
    calc
      _ = lastValue? (changes.filter (fun change ↦ change.1 ≠ key) ++ [(key, value)]) name := by
        rw [hrecord, Option.getD_some]
      _ = lastValue? (changes ++ [(key, value)]) name := lastValue?_record changes key value name
      _ = lastValue? ((history.writes.drop low).take (state.heard + 1 - low)) name := by
        rw [hwrites, lastValue?_append, lastValue?_append, hchanges]
  · intro hanswered
    obtain ⟨view, hview, hsettles⟩ := h.settled hanswered
    refine ⟨_, ?_, DaemonHistory.settles_hear hsettles hnext⟩
    let change := fun name ↦ if key = name then some value else none
    calc
      (entry.service.setProperty key value).reported =
          (entry.service.reported.amended change).reported := by
        rw [Service.setProperty_eq_amended, Service.reported_amended]
      _ = (((Service.provisional path 0).amended view).amended change).reported := by
        rw [hview, ← Service.reported_amended]
      _ = ((Service.provisional path 0).amended fun name ↦
          (change name).or (view name)).reported := by
        rw [Service.amended_amended]

theorem refetch (h : Coherent history path state entry) {key : String} {value : Value}
    {ticket : Ticket}
    (hasked : .refetchService ticket ∈
      (state.tracker.handle (.serviceChanged path key value)).actions) :
    ∃ after, Coherent history path
      { state.hear path key value with
        latest := ticket
        unanswered := (ticket, state.heard + 1) :: state.unanswered } after := by
  obtain ⟨hkey, rfl⟩ := (Tracker.actions_changeService h.tracked key value).1 hasked
  let generation := state.tracker.services.generation + 1
  have holder (asked : Ticket × Nat) (hmem : asked ∈ state.unanswered) :
      asked.1.generation < generation := by
    have hbound := h.reachable.wellFormed.generated entry (ServiceRoster.mem_of_get? h.tracked)
    rw [h.current] at hbound
    rcases (h.issued asked hmem).2 with hlatest | hearlier
    · rw [hlatest]
      exact Nat.lt_succ_of_le hbound
    · exact Nat.lt_succ_of_le (Nat.le_trans (Nat.le_of_lt hearlier) hbound)
  refine ⟨entry.invalidated generation key value, .handled _ h.reachable, ?_, rfl, ?_, ?_, ?_⟩
  · change (state.tracker.changeService path key value).tracker.services.get? path = _
    rw [Tracker.services_changeService]
    exact ServiceRoster.get?_change_of_needsRefetch h.tracked hkey value
  · intro asked hmem
    rcases List.mem_cons.1 hmem with rfl | hmem
    · exact ⟨rfl, .inl rfl⟩
    · exact ⟨(h.issued asked hmem).1, .inr (holder asked hmem)⟩
  · intro low hmem
    rcases List.mem_cons.1 hmem with hnew | hmem
    · obtain rfl : low = state.heard + 1 := congrArg Prod.snd hnew
      refine ⟨Nat.le_refl _, .inr rfl, fun name ↦ ?_⟩
      change _ = lastValue? ((history.writes.drop (state.heard + 1)).take
        (state.heard + 1 - (state.heard + 1))) name
      rw [Nat.sub_self]
      rfl
    · exact absurd (holder _ hmem) (Nat.lt_irrefl _)
  · intro hanswered
    exact absurd List.mem_cons_self (hanswered (state.heard + 1))

/-- The reply to a fetch that was overtaken changes nothing. -/
theorem reply_of_ne (h : Coherent history path state entry) {ticket : Ticket} {low : Nat}
    (hasked : (ticket, low) ∈ state.unanswered) (hold : ticket ≠ state.latest)
    (properties : Properties) :
    Coherent history path
      { state with
        tracker := (state.tracker.handle (.serviceFetched ticket properties)).tracker
        unanswered := state.unanswered.filter fun asked ↦ asked.1 ≠ ticket } entry := by
  obtain ⟨hpath, hissued⟩ := h.issued _ hasked
  have hearlier : ticket.generation < state.latest.generation := hissued.resolve_left hold
  have hentry : state.tracker.services.get? ticket.path = some entry := by
    rw [show ticket.path = path from hpath]
    exact h.tracked
  have hgeneration : entry.generation ≠ ticket.generation := by
    rw [h.current]
    exact Nat.ne_of_gt hearlier
  have hnone := ServiceRoster.completeFetch?_of_ne hentry hgeneration properties
  have hmem {asked : Ticket × Nat} (hasked : asked.1 = state.latest) :
      asked ∈ (state.unanswered.filter fun asked ↦ asked.1 ≠ ticket) ↔
        asked ∈ state.unanswered := by
    rw [List.mem_filter, decide_eq_true_iff, hasked]
    exact and_iff_left hold.symm
  refine ⟨.handled _ h.reachable, ?_, h.current, ?_, ?_, ?_⟩
  · dsimp only
    rw [Tracker.services_handle]
    change ((state.tracker.services.completeFetch? ticket properties).getD _).get? path = _
    rw [hnone]
    exact h.tracked
  · intro asked hfiltered
    exact h.issued asked (List.mem_of_mem_filter hfiltered)
  · intro low hfiltered
    exact h.waiting low ((hmem rfl).1 hfiltered)
  · intro hanswered
    exact h.settled fun low hlow ↦ hanswered low ((hmem rfl).2 hlow)

/-- The reply to the latest fetch settles the service. -/
theorem reply_latest (h : Coherent history path state entry) {low count : Nat}
    {properties : Properties} (hasked : (state.latest, low) ∈ state.unanswered)
    (hlow : low ≤ count)
    (hreply : ∀ key, properties.get? key = (history.after count).get? key) :
    Coherent history path
      { state with
        tracker := (state.tracker.handle (.serviceFetched state.latest properties)).tracker
        unanswered := state.unanswered.filter fun asked ↦ asked.1 ≠ state.latest }
      (entry.answered properties) := by
  obtain ⟨hheard, -, hchanges⟩ := h.waiting low hasked
  have hlatest : state.latest.path = path := (h.issued _ hasked).1
  have hentry : state.tracker.services.get? state.latest.path = some entry := by
    rw [hlatest]
    exact h.tracked
  refine ⟨.handled _ h.reachable, ?_, h.current, ?_, ?_, ?_⟩
  · dsimp only
    rw [Tracker.services_handle, ← hlatest]
    exact ServiceRoster.get?_completeFetch? hentry h.current properties
  · intro asked hfiltered
    exact h.issued asked (List.mem_of_mem_filter hfiltered)
  · intro low hfiltered
    have hne := (List.mem_filter.1 hfiltered).2
    exact absurd rfl (of_decide_eq_true hne)
  · intro _
    refine ⟨_, entry.reported_answered properties path, ?_⟩
    have hproperties : properties.get? = (history.after count).get? := funext hreply
    rw [hproperties]
    exact DaemonHistory.settles_report hheard hlow hchanges

end Coherent

namespace Followed

variable {history : DaemonHistory} {path : ObjectPath} {state : Following}

theorem coherent (h : Followed history path state) :
    ∃ entry, Coherent history path state entry := by
  induction h with
  | attached h hasked hpath => exact Coherent.attached h hasked hpath
  | other _ hother htracked ih =>
    obtain ⟨entry, hentry⟩ := ih
    exact hentry.other hother htracked
  | asked _ ih =>
    obtain ⟨entry, hentry⟩ := ih
    exact ⟨entry, hentry.asked⟩
  | signal _ hfirst hnext hquiet ih =>
    obtain ⟨entry, hentry⟩ := ih
    exact ⟨_, hentry.signal hfirst hnext hquiet⟩
  | refetch _ hfirst hnext hasked ih =>
    obtain ⟨entry, hentry⟩ := ih
    exact hentry.refetch hasked
  | @reply state ticket low count properties _ hasked hlow hcount hreply ih =>
    obtain ⟨entry, hentry⟩ := ih
    by_cases hlatest : ticket = state.latest
    · rw [hlatest] at hasked ⊢
      exact ⟨_, hentry.reply_latest hasked hlow hreply⟩
    · exact ⟨entry, hentry.reply_of_ne hasked hlatest properties⟩

/-- Once every signal and the reply to the latest fetch were handled, the service reads as the
daemon reports it in the end. -/
theorem converges (h : Followed history path state)
    (hheard : state.heard = history.writes.length)
    (hanswered : ∀ low, (state.latest, low) ∉ state.unanswered) :
    ∃ entry, state.tracker.services.get? path = some entry ∧
      entry.service.reported =
        ((Service.provisional path 0).setProperties history.final.entries).reported := by
  obtain ⟨entry, hentry⟩ := h.coherent
  obtain ⟨view, hview, hsettles⟩ := hentry.settled hanswered
  rw [hheard] at hsettles
  have hfinal : view = lastValue? history.final.entries := by
    funext key
    rw [history.final.lastValue?_entries]
    exact DaemonHistory.settles_nil hsettles key
  refine ⟨entry, hentry.tracked, ?_⟩
  calc
    entry.service.reported = ((Service.provisional path 0).amended view).reported := hview
    _ = ((Service.provisional path 0).setProperties history.final.entries).reported := by
      rw [hfinal, Service.setProperties_eq_amended]

/-- A service that gets its name, then needs a passphrase, then comes online. -/
def joining : DaemonHistory where
  initial := .ofPairs [("State", .text "association")]
  writes := [("Name", .text "lab"), ("PassphraseRequired", .bool true), ("State", .text "online")]

def joiningPath : ObjectPath := ⟨"/service", by decide⟩

/-- The reply to the second fetch was on its way when the service came online. -/
theorem converges_joining :
    ∃ state, Followed joining joiningPath state ∧ state.heard = joining.writes.length ∧
      (∀ low, (state.latest, low) ∉ state.unanswered) ∧
      ∃ entry, state.tracker.services.get? joiningPath = some entry ∧
        entry.service.reported =
          ((Service.provisional joiningPath 0).setProperties joining.final.entries).reported ∧
        entry.service.name = some "lab" ∧ entry.service.passphraseRequired = true ∧
        entry.service.state = .online := by
  let listed := Event.managerChanged "Services" (.array (.scalar .path) [.path joiningPath])
  have hattached : Followed joining joiningPath
      ⟨(({} : Tracker).handle listed).tracker, 0, ⟨joiningPath, 1⟩, [(⟨joiningPath, 1⟩, 0)]⟩ :=
    .attached .start (by decide +kernel) rfl
  have hfetched := hattached.reply (List.mem_singleton.2 rfl) (Nat.le_refl 0) (Nat.zero_le _)
    (show ∀ key, (joining.after 0).get? key = (joining.after 0).get? key from fun _ ↦ rfl)
  have hnamed := hfetched.signal (fun _ ↦ by decide +kernel)
    (show joining.writes[0]? = some ("Name", .text "lab") from rfl)
    (fun _ ↦ List.eq_nil_iff_forall_not_mem.1 (by decide +kernel) _)
  have hrefetched := hnamed.refetch (fun hzero ↦ absurd hzero (by decide))
    (show joining.writes[1]? = some ("PassphraseRequired", .bool true) from rfl)
    (show Action.refetchService ⟨joiningPath, 2⟩ ∈ _ by decide +kernel)
  have honline := hrefetched.signal (fun hzero ↦ absurd hzero (by decide))
    (show joining.writes[2]? = some ("State", .text "online") from rfl)
    (fun _ ↦ List.eq_nil_iff_forall_not_mem.1 (by decide +kernel) _)
  have hsettled := honline.reply List.mem_cons_self (Nat.le_refl 2) (by decide)
    (show ∀ key, (joining.after 2).get? key = (joining.after 2).get? key from fun _ ↦ rfl)
  have hfields (service : Service) (hreported : service.reported =
        ((Service.provisional joiningPath 0).setProperties joining.final.entries).reported) :
      service.name = some "lab" ∧ service.passphraseRequired = true ∧ service.state = .online :=
    ⟨congrArg Service.name hreported, congrArg Service.passphraseRequired hreported,
      congrArg Service.state hreported⟩
  refine ⟨_, hsettled, rfl, (fun hanswered ↦ ⟨hanswered,
    (hsettled.converges rfl hanswered).imp fun _ h ↦ ⟨h.1, h.2, hfields _ h.2⟩⟩) ?_⟩
  exact fun low ↦ List.eq_nil_iff_forall_not_mem.1 (by decide +kernel) _

end Followed

end Uplink
