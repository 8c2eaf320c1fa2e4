import Mathlib.Data.List.Induction
import Mathlib.Tactic.Tauto
import Uplink.Monitor
import Uplink.Proofs.Live.Channels
/-!
# What a monitor passes on

Publishing, the end of the publisher, requests to stop and the steps of the monitor interleave in
any order; the monitor may follow any branch that is ready, and more can be published between the
news that wakes it and its reading. All the same it passes on versions in increasing order, each of
them the latest one when it is read, and it does not miss the last one: the end of the publisher is
noticed only when there is no news.
-/

namespace Uplink

namespace Monitor

variable {α : Type} {monitor after : Monitor α} {origin : Nat}

/-! ## Steps -/

/-- What a monitor that follows a branch can come to. -/
inductive Followed (monitor : Monitor α) : Branch → Monitor α → Prop
  | idle {branch : Branch} (hidle : monitor.waits = true → monitor.notice? branch = none) :
    Followed monitor branch monitor
  | woken (hwaits : monitor.waits = true) (hnews : monitor.values.seen < monitor.values.version) :
    Followed monitor .published { monitor with values := monitor.values.markSeen, woken := true }
  | ended (hwaits : monitor.waits = true) (hseen : monitor.values.seen = monitor.values.version)
    (hgone : monitor.values.senderGone = true) :
    Followed monitor .published { monitor with result := some .publisherGone }
  | stopped (hwaits : monitor.waits = true) (hasked : monitor.requests.notice? ≠ none) :
    Followed monitor .stop { monitor with result := some .stopped }

theorem waits_eq_true_iff :
    monitor.waits = true ↔ monitor.woken = false ∧ monitor.result = none := by
  simp [waits]

theorem followed_follow (monitor : Monitor α) (branch : Branch) :
    Followed monitor branch (monitor.follow branch) := by
  unfold follow
  split
  · rename_i hwaits
    cases hnotice : monitor.notice? branch with
    | none => cases branch <;> exact .idle fun _ ↦ hnotice
    | some notice =>
      cases branch with
      | published =>
        cases notice with
        | news => exact .woken hwaits (Channel.notice?_eq_news_iff.1 hnotice)
        | senderGone =>
          obtain ⟨hseen, hgone⟩ := Channel.notice?_eq_senderGone_iff.1 hnotice
          exact .ended hwaits hseen hgone
      | stop =>
        have hasked : monitor.requests.notice? ≠ none :=
          Option.ne_none_iff_exists'.2 ⟨notice, hnotice⟩
        cases notice <;> exact .stopped hwaits hasked
  · exact .idle fun hwaits ↦ absurd hwaits ‹_›

/-! ## Interleavings -/

/-- What can happen while a monitor runs. -/
inductive Occurrence (α : Type) where
  | published (value : α)
  | publisherDropped
  | stopRequested
  | requesterDropped
  /-- The monitor followed a branch. -/
  | followed (branch : Branch)
  /-- The monitor passed a version on, if it had been woken. -/
  | delivered

def occur (monitor : Monitor α) : Occurrence α → Monitor α
  | .published value => monitor.publish value
  | .publisherDropped => monitor.dropPublisher
  | .stopRequested => monitor.requestStop
  | .requesterDropped => monitor.dropRequester
  | .followed branch => monitor.follow branch
  | .delivered => monitor.deliver

/-- The monitor after all this happened, in this order. -/
def afterAll (monitor : Monitor α) (run : List (Occurrence α)) : Monitor α :=
  run.foldl occur monitor

@[simp] theorem afterAll_concat (monitor : Monitor α) (run : List (Occurrence α))
    (last : Occurrence α) :
    monitor.afterAll (run ++ [last]) = (monitor.afterAll run).occur last := by
  simp [afterAll]

/-! ## What every step keeps -/

/-- Where a monitor stands whose receiver had seen the versions up to `origin` at first. -/
structure InOrder (origin : Nat) (monitor : Monitor α) : Prop where
  origin_le : origin ≤ monitor.values.seen
  /-- The version that woke the monitor is yet to be passed on, or a later one in its place. -/
  woken : monitor.woken = true → origin < monitor.values.seen ∧ monitor.result = none
  delivered : monitor.delivered.Sublist ((monitor.values.numbered.take
    (if monitor.woken then monitor.values.seen - 1 else monitor.values.seen)).drop origin)
  caughtUp : monitor.woken = false → origin < monitor.values.seen →
    monitor.delivered.getLast? = (monitor.values.numbered.take monitor.values.seen).getLast?
  stopped : monitor.result = some .stopped → monitor.requests.notice? ≠ none
  ended : monitor.result = some .publisherGone →
    monitor.values.seen = monitor.values.version ∧ monitor.values.senderGone = true

namespace InOrder

theorem initial (values : Channel α) (requests : Channel Unit) :
    InOrder values.seen ({ values, requests } : Monitor α) where
  origin_le := Nat.le_refl _
  woken := nofun
  delivered := List.nil_sublist _
  caughtUp _ h := absurd h (Nat.lt_irrefl _)
  stopped := nofun
  ended := nofun

/-- What the others do on the two channels keeps a monitor in order. -/
theorem extend (h : InOrder origin monitor) {values : Channel α} {requests : Channel Unit}
    (hvalues : monitor.values.Extends values) (hrequests : monitor.requests.Extends requests) :
    InOrder origin { monitor with values, requests } where
  origin_le := hvalues.seen_eq ▸ h.origin_le
  woken hwoken := hvalues.seen_eq ▸ h.woken hwoken
  delivered := by
    have hcount : (if monitor.woken then monitor.values.seen - 1 else monitor.values.seen) ≤
        monitor.values.version := by
      have hseen : monitor.values.seen ≤ monitor.values.version := monitor.values.seen_le
      split <;> omega
    rw [hvalues.seen_eq, hvalues.take_numbered hcount]
    exact h.delivered
  caughtUp := by
    rw [hvalues.seen_eq, hvalues.take_numbered monitor.values.seen_le]
    exact h.caughtUp
  stopped hresult := hrequests.notice?_ne_none (h.stopped hresult)
  ended hresult := by
    obtain ⟨hseen, hgone⟩ := h.ended hresult
    obtain ⟨hstill, hsame⟩ := hvalues.gone hgone
    refine ⟨?_, hstill⟩
    rw [hvalues.seen_eq, hseen, Channel.version, Channel.version, hsame]

/-- A monitor with nothing left to read can end for any reason that there is. -/
theorem finish (h : InOrder origin monitor) (hasleep : monitor.woken = false)
    {result : Option MonitorEnd}
    (hstopped : result = some .stopped → monitor.requests.notice? ≠ none)
    (hended : result = some .publisherGone →
      monitor.values.seen = monitor.values.version ∧ monitor.values.senderGone = true) :
    InOrder origin { monitor with result } := by
  refine ⟨h.origin_le, fun hwoken ↦ ?_, h.delivered, h.caughtUp, hstopped, hended⟩
  exact absurd hwoken (Bool.eq_false_iff.1 hasleep)

theorem follow (h : InOrder origin monitor) (branch : Branch) :
    InOrder origin (monitor.follow branch) := by
  have hstep := followed_follow monitor branch
  generalize monitor.follow branch = next at hstep
  cases hstep with
  | idle hidle => exact h
  | woken hwaits hnews =>
    obtain ⟨hasleep, hrunning⟩ := waits_eq_true_iff.1 hwaits
    refine ⟨?_, fun _ ↦ ⟨?_, hrunning⟩, ?_, nofun, h.stopped, ?_⟩
    · exact Nat.le_trans h.origin_le (Nat.le_of_lt hnews)
    · exact Nat.lt_of_le_of_lt h.origin_le hnews
    · have hdelivered := h.delivered
      rw [hasleep] at hdelivered
      exact hdelivered.trans
        ((List.take_sublist_take_left (Nat.le_sub_one_of_lt hnews)).drop origin)
    · intro hresult
      rw [hrunning] at hresult
      cases hresult
  | ended hwaits hseen hgone =>
    exact h.finish (waits_eq_true_iff.1 hwaits).1 nofun fun _ ↦ ⟨hseen, hgone⟩
  | stopped hwaits hasked =>
    exact h.finish (waits_eq_true_iff.1 hwaits).1 (fun _ ↦ hasked) nofun

theorem deliver (h : InOrder origin monitor) : InOrder origin monitor.deliver := by
  unfold Monitor.deliver
  split
  · rename_i hwoken
    obtain ⟨horigin, hrunning⟩ := h.woken hwoken
    have hseen : monitor.values.seen ≤ monitor.values.version := monitor.values.seen_le
    have hpast : origin ≤ (monitor.values.numbered.take (monitor.values.version - 1)).length := by
      rw [List.length_take, Channel.length_numbered]
      omega
    obtain ⟨call, hlatest, hnumbered⟩ :=
      Channel.exists_latest (Nat.lt_of_lt_of_le (Nat.zero_lt_of_lt horigin) hseen)
    rw [hlatest]
    refine ⟨?_, nofun, ?_, fun _ _ ↦ ?_, ?_, ?_⟩
    · exact Nat.le_trans h.origin_le hseen
    · have hearlier := h.delivered
      rw [if_pos hwoken] at hearlier
      -- What was passed on comes before the version that woke the monitor, so before the latest.
      have hbefore : (monitor.values.numbered.take (monitor.values.seen - 1)).Sublist
          (monitor.values.numbered.take (monitor.values.version - 1)) :=
        List.take_sublist_take_left (Nat.sub_le_sub_right hseen 1)
      change (monitor.delivered ++ [call]).Sublist
        ((monitor.values.numbered.take monitor.values.version).drop origin)
      rw [Channel.take_version_numbered, hnumbered, List.drop_append_of_le_length hpast]
      exact (hearlier.trans (hbefore.drop origin)).append (List.Sublist.refl _)
    · change (monitor.delivered ++ [call]).getLast? =
        (monitor.values.numbered.take monitor.values.version).getLast?
      rw [Channel.take_version_numbered, Channel.getLast?_numbered, hlatest, List.getLast?_concat]
    · exact h.stopped
    · intro hresult
      rw [hrunning] at hresult
      cases hresult
  · exact h

theorem occur (h : InOrder origin monitor) (occurrence : Occurrence α) :
    InOrder origin (monitor.occur occurrence) := by
  have hvalues := Channel.extends_refl monitor.values
  have hrequests := Channel.extends_refl monitor.requests
  cases occurrence with
  | published value => exact h.extend (Channel.extends_publish _ value) hrequests
  | publisherDropped => exact h.extend (Channel.extends_dropSender _) hrequests
  | stopRequested => exact h.extend hvalues (Channel.extends_publish _ ())
  | requesterDropped => exact h.extend hvalues (Channel.extends_dropSender _)
  | followed branch => exact h.follow branch
  | delivered => exact h.deliver

theorem afterAll (h : InOrder origin monitor) (run : List (Occurrence α)) :
    InOrder origin (monitor.afterAll run) := by
  induction run generalizing monitor with
  | nil => exact h
  | cons occurrence rest ih => exact ih (h.occur occurrence)

end InOrder

/-! ## When a call was made -/

theorem delivered_follow (monitor : Monitor α) (branch : Branch) :
    (monitor.follow branch).delivered = monitor.delivered := by
  have hstep := followed_follow monitor branch
  generalize monitor.follow branch = next at hstep
  cases hstep <;> rfl

theorem delivered_deliver (monitor : Monitor α) :
    monitor.deliver.delivered = monitor.delivered ∨
      ∃ call, monitor.values.numbered.getLast? = some call ∧
        monitor.deliver.delivered = monitor.delivered ++ [call] := by
  rw [Channel.getLast?_numbered]
  unfold deliver
  split
  · cases hlatest : monitor.values.latest? with
    | none => exact .inl (List.append_nil _)
    | some call => exact .inr ⟨call, rfl, rfl⟩
  · exact .inl rfl

/-- Whether this call is made if now, as the next thing, the monitor passes a version on. -/
def Calls (monitor : Monitor α) (call : Nat × α) : Prop :=
  monitor.deliver.delivered = monitor.delivered ++ [call]

/-- Whatever happens, a monitor passes on nothing or the latest version. -/
theorem delivered_occur (monitor : Monitor α) (occurrence : Occurrence α) :
    (monitor.occur occurrence).delivered = monitor.delivered ∨
      occurrence = .delivered ∧
        ∃ call, monitor.values.numbered.getLast? = some call ∧ monitor.Calls call := by
  cases occurrence with
  | published value => exact .inl rfl
  | publisherDropped => exact .inl rfl
  | stopRequested => exact .inl rfl
  | requesterDropped => exact .inl rfl
  | followed branch => exact .inl (delivered_follow monitor branch)
  | delivered => exact (delivered_deliver monitor).imp_right fun hcall ↦ ⟨rfl, hcall⟩

/-- Every call was made at a step of the run, with what was the latest version there. -/
theorem exists_delivery (hnone : monitor.delivered = []) (run : List (Occurrence α)) {place : Nat}
    {call : Nat × α} (hcall : (monitor.afterAll run).delivered[place]? = some call) :
    ∃ earlier later, run = earlier ++ .delivered :: later ∧
      (monitor.afterAll earlier).delivered.length = place ∧
      (monitor.afterAll earlier).Calls call ∧
      (monitor.afterAll earlier).values.numbered.getLast? = some call := by
  -- From the end of the run: either its last step made the call, or an earlier one did.
  induction run using List.reverseRecOn with
  | nil =>
    rw [show monitor.afterAll [] = monitor from rfl, hnone] at hcall
    cases hcall
  | append_singleton run last ih =>
    have hbefore (h : (monitor.afterAll run).delivered[place]? = some call) :
        ∃ earlier later, run ++ [last] = earlier ++ .delivered :: later ∧
          (monitor.afterAll earlier).delivered.length = place ∧
          (monitor.afterAll earlier).Calls call ∧
          (monitor.afterAll earlier).values.numbered.getLast? = some call := by
      obtain ⟨earlier, later, rfl, hplace⟩ := ih h
      exact ⟨earlier, later ++ [last], by simp, hplace⟩
    rw [afterAll_concat] at hcall
    rcases delivered_occur (monitor.afterAll run) last with
      hsame | ⟨rfl, latest, hlatest, hmade⟩
    · rw [hsame] at hcall
      exact hbefore hcall
    · have hmore : ((monitor.afterAll run).occur .delivered).delivered =
          (monitor.afterAll run).delivered ++ [latest] := hmade
      rw [hmore] at hcall
      rcases Nat.lt_trichotomy place (monitor.afterAll run).delivered.length with hlt | heq | hgt
      · rw [List.getElem?_append_left hlt] at hcall
        exact hbefore hcall
      · rw [heq, List.getElem?_concat_length, Option.some.injEq] at hcall
        subst hcall
        exact ⟨run, [], rfl, heq.symm, hmade, hlatest⟩
      · rw [List.getElem?_eq_none (by simpa using Nat.succ_le_of_lt hgt)] at hcall
        cases hcall

/-! ## What has happened to the channels -/

/-- Whether the channels differ at most in what the monitor has seen of the values. -/
structure SameSenders (monitor after : Monitor α) : Prop where
  published : after.values.published = monitor.values.published
  gone : after.values.senderGone = monitor.values.senderGone
  requests : after.requests = monitor.requests

theorem SameSenders.trans {last : Monitor α} (h : monitor.SameSenders after)
    (h' : after.SameSenders last) : monitor.SameSenders last :=
  ⟨h'.published.trans h.published, h'.gone.trans h.gone, h'.requests.trans h.requests⟩

theorem SameSenders.numbered (h : monitor.SameSenders after) :
    after.values.numbered = monitor.values.numbered := by
  rw [Channel.numbered, h.published, Channel.numbered]

theorem sameSenders_follow (monitor : Monitor α) (branch : Branch) :
    monitor.SameSenders (monitor.follow branch) := by
  have hstep := followed_follow monitor branch
  generalize monitor.follow branch = next at hstep
  cases hstep <;> exact ⟨rfl, rfl, rfl⟩

theorem sameSenders_deliver (monitor : Monitor α) : monitor.SameSenders monitor.deliver := by
  unfold deliver
  split <;> exact ⟨rfl, rfl, rfl⟩

theorem sameSenders_turn (monitor : Monitor α) (preferred : Branch) :
    monitor.SameSenders (monitor.turn preferred) :=
  (sameSenders_follow monitor _).trans (sameSenders_deliver _)

theorem senderGone_occur_iff (monitor : Monitor α) (occurrence : Occurrence α) :
    (monitor.occur occurrence).values.senderGone = true ↔
      monitor.values.senderGone = true ∨ .publisherDropped = occurrence := by
  cases occurrence with
  | published value =>
    simp only [occur, publish, Channel.publish]
    split <;> simp
  | publisherDropped => simp [occur, dropPublisher, Channel.dropSender]
  | stopRequested => simp [occur, requestStop]
  | requesterDropped => simp [occur, dropRequester]
  | followed branch => simp [occur, (sameSenders_follow monitor branch).gone]
  | delivered => simp [occur, (sameSenders_deliver monitor).gone]

theorem senderGone_afterAll_iff (monitor : Monitor α) (run : List (Occurrence α)) :
    (monitor.afterAll run).values.senderGone = true ↔
      monitor.values.senderGone = true ∨ .publisherDropped ∈ run := by
  induction run generalizing monitor with
  | nil => simp [afterAll]
  | cons occurrence rest ih =>
    rw [List.mem_cons, ← or_assoc, ← senderGone_occur_iff]
    exact ih (monitor.occur occurrence)

theorem notice?_requests_occur_iff (monitor : Monitor α) (occurrence : Occurrence α) :
    (monitor.occur occurrence).requests.notice? ≠ none ↔
      monitor.requests.notice? ≠ none ∨
        .stopRequested = occurrence ∨ .requesterDropped = occurrence := by
  cases occurrence with
  | published value => simp [occur, publish]
  | publisherDropped => simp [occur, dropPublisher]
  | stopRequested => simp [occur, requestStop, Channel.notice?_publish_ne_none]
  | requesterDropped =>
    simp [occur, dropRequester, Channel.notice?_ne_none_iff, Channel.dropSender]
  | followed branch => simp [occur, (sameSenders_follow monitor branch).requests]
  | delivered => simp [occur, (sameSenders_deliver monitor).requests]

theorem notice?_requests_afterAll_iff (monitor : Monitor α) (run : List (Occurrence α)) :
    (monitor.afterAll run).requests.notice? ≠ none ↔
      monitor.requests.notice? ≠ none ∨ .stopRequested ∈ run ∨ .requesterDropped ∈ run := by
  induction run generalizing monitor with
  | nil => simp [afterAll]
  | cons occurrence rest ih =>
    refine (ih (monitor.occur occurrence)).trans ?_
    rw [notice?_requests_occur_iff, List.mem_cons, List.mem_cons]
    tauto

/-! ## Turns -/

/-- Whether the monitor has ended or has to wait. -/
def Settled (monitor : Monitor α) : Prop :=
  monitor.woken = false ∧ (monitor.result ≠ none ∨ ∀ branch, monitor.notice? branch = none)

theorem notice?_eq_none_of_choose {preferred : Branch}
    (h : monitor.notice? (monitor.choose preferred) = none) (branch : Branch) :
    monitor.notice? branch = none := by
  unfold choose at h
  split at h
  · rename_i hready
    rw [h] at hready
    cases hready
  · rename_i hready
    rw [Bool.not_eq_true, Option.isSome_eq_false_iff, Option.isNone_iff_eq_none] at hready
    cases branch <;> cases preferred <;> assumption

theorem deliver_of_not_woken (h : monitor.woken = false) : monitor.deliver = monitor := by
  unfold deliver
  rw [h]
  rfl

@[simp] theorem woken_deliver (monitor : Monitor α) : monitor.deliver.woken = false := by
  unfold deliver
  split
  · rfl
  · exact Bool.eq_false_iff.2 ‹_›

@[simp] theorem result_deliver (monitor : Monitor α) : monitor.deliver.result = monitor.result := by
  unfold deliver
  split <;> rfl

theorem seen_deliver (h : monitor.woken = true) :
    monitor.deliver.values.seen = monitor.deliver.values.version := by
  unfold deliver
  rw [if_pos h]
  rfl

/-- A monitor that follows a branch ends, or is woken, or there was nothing to follow. -/
theorem follow_cases (monitor : Monitor α) (branch : Branch) :
    (monitor.follow branch).result ≠ none ∨
      (monitor.follow branch).woken = true ∧ (monitor.woken = true ∨
        monitor.result = none ∧ monitor.values.seen < monitor.values.version) ∨
      monitor.woken = false ∧ monitor.follow branch = monitor ∧ monitor.notice? branch = none := by
  have hstep := followed_follow monitor branch
  generalize monitor.follow branch = next at hstep
  cases hstep with
  | idle hidle =>
    cases hwoken : monitor.woken with
    | true => exact .inr (.inl ⟨rfl, .inl rfl⟩)
    | false =>
      by_cases hresult : monitor.result = none
      · exact .inr (.inr ⟨rfl, rfl, hidle (waits_eq_true_iff.2 ⟨hwoken, hresult⟩)⟩)
      · exact .inl hresult
  | woken hwaits hnews =>
    exact .inr (.inl ⟨rfl, .inr ⟨(waits_eq_true_iff.1 hwaits).2, hnews⟩⟩)
  | ended hwaits hseen hgone => exact .inl nofun
  | stopped hwaits hasked => exact .inl nofun

/-- After a turn the monitor has ended, or no news is left. -/
theorem caughtUp_turn (monitor : Monitor α) (preferred : Branch) :
    (monitor.turn preferred).result ≠ none ∨
      (monitor.turn preferred).values.seen = (monitor.turn preferred).values.version := by
  unfold turn
  rcases follow_cases monitor (monitor.choose preferred) with
    hended | ⟨hwoken, -⟩ | ⟨hasleep, hsame, hnothing⟩
  · exact .inl (by rwa [result_deliver])
  · exact .inr (seen_deliver hwoken)
  · have hquiet : monitor.values.notice? = none := notice?_eq_none_of_choose hnothing .published
    rw [hsame, deliver_of_not_woken hasleep]
    exact .inr (Channel.seen_eq_of_notice? hquiet)

/-- A second turn leaves nothing to do, whichever branch is preferred in each of them. -/
theorem settled_turn_turn (monitor : Monitor α) (first second : Branch) :
    ((monitor.turn first).turn second).Settled := by
  have hcaughtUp := caughtUp_turn monitor first
  have hasleep : (monitor.turn first).woken = false := woken_deliver _
  generalize monitor.turn first = next at hcaughtUp hasleep
  refine ⟨woken_deliver _, ?_⟩
  unfold turn
  rcases follow_cases next (next.choose second) with
    hended | ⟨-, hwas | ⟨hrunning, hnews⟩⟩ | ⟨-, hsame, hnothing⟩
  · exact .inl (by rwa [result_deliver])
  · rw [hasleep] at hwas
    cases hwas
  · rcases hcaughtUp with hended | hseen
    · exact absurd hrunning hended
    · exact absurd hseen (Nat.ne_of_lt hnews)
  · rw [hsame, deliver_of_not_woken hasleep]
    exact .inr (notice?_eq_none_of_choose hnothing)

/-- What polling is for: it goes on until nothing is ready. -/
theorem settled_poll (monitor : Monitor α) (preferred : Branch) :
    (monitor.poll preferred).Settled :=
  settled_turn_turn monitor preferred preferred

theorem InOrder.turn (h : InOrder origin monitor) (preferred : Branch) :
    InOrder origin (monitor.turn preferred) :=
  (h.follow _).deliver

/-- A monitor that nobody stops has nothing to do only if no news is left, and it then has ended if
the publisher is gone. -/
theorem InOrder.settled (h : InOrder origin monitor) (hsettled : monitor.Settled)
    (hunasked : monitor.requests.notice? = none) :
    monitor.values.seen = monitor.values.version ∧
      (monitor.values.senderGone = true → monitor.result = some .publisherGone) := by
  cases hresult : monitor.result with
  | none =>
    have hnothing : monitor.values.notice? = none :=
      hsettled.2.resolve_left (not_not.2 hresult) .published
    refine ⟨Channel.seen_eq_of_notice? hnothing, fun hgone ↦ ?_⟩
    exact absurd hnothing (Channel.notice?_ne_none_iff.2 (.inr hgone))
  | some ending =>
    cases ending with
    | publisherGone => exact ⟨(h.ended hresult).1, fun _ ↦ rfl⟩
    | stopped => exact absurd hunasked (h.stopped hresult)

/-- A monitor that has seen all has passed on the last version, if it is a new one. -/
theorem InOrder.getLast?_delivered (h : InOrder origin monitor) (hasleep : monitor.woken = false)
    (hseen : monitor.values.seen = monitor.values.version)
    (hnew : origin < monitor.values.version) :
    monitor.delivered.getLast? = monitor.values.numbered.getLast? := by
  have hlast := h.caughtUp hasleep (hseen ▸ hnew)
  rwa [hseen, Channel.take_version_numbered] at hlast

theorem InOrder.asleep (h : InOrder origin monitor) (hresult : monitor.result ≠ none) :
    monitor.woken = false :=
  Bool.eq_false_iff.2 fun hwoken ↦ hresult (h.woken hwoken).2

theorem InOrder.sublist (h : InOrder origin monitor) :
    monitor.delivered.Sublist (monitor.values.numbered.drop origin) :=
  h.delivered.trans ((List.take_sublist _ _).drop origin)

theorem InOrder.increasing (h : InOrder origin monitor) :
    (monitor.delivered.map Prod.fst).Pairwise (· < ·) := by
  have hnumbers : (monitor.values.numbered.map Prod.fst).Pairwise (· < ·) := by
    rw [Channel.map_fst_numbered]
    exact List.pairwise_lt_range' 1
  exact hnumbers.sublist ((h.sublist.trans (List.drop_sublist _ _)).map Prod.fst)

/-! ## Whole runs -/

/-- Whether the publisher was gone before the run or went in it. -/
def PublisherGoes (values : Channel α) (run : List (Occurrence α)) : Prop :=
  values.senderGone = true ∨ .publisherDropped ∈ run

/-- Whether a monitor was asked to stop or lost all who could ask it, before the run or in it. -/
def StopComes (requests : Channel Unit) (run : List (Occurrence α)) : Prop :=
  requests.notice? ≠ none ∨ .stopRequested ∈ run ∨ .requesterDropped ∈ run

/-- In every interleaving, what a monitor passes on are published versions that its receiver had not
seen, in increasing order, each the latest one when it was passed on. The monitor stops only when it
is asked to or nobody is left to ask, and reports the end of the publisher only when it is gone and
the last version, if it is a new one, has been passed on. As long as nobody stops it, two turns are
enough to pass on the last version and to come to the end of a publisher that is gone. -/
theorem delivers_in_order (values : Channel α) (requests : Channel Unit)
    (run : List (Occurrence α)) :
    let start : Monitor α := { values, requests }
    let final := start.afterAll run
    (final.delivered.Sublist (final.values.numbered.drop values.seen) ∧
      (final.delivered.map Prod.fst).Pairwise (· < ·)) ∧
    (∀ place call, final.delivered[place]? = some call →
      ∃ earlier later, run = earlier ++ .delivered :: later ∧
        (start.afterAll earlier).delivered.length = place ∧ (start.afterAll earlier).Calls call ∧
        (start.afterAll earlier).values.numbered.getLast? = some call) ∧
    (final.result = some .stopped → StopComes requests run) ∧
    (final.result = some .publisherGone → PublisherGoes values run ∧
      (values.seen < final.version →
        final.delivered.getLast? = final.values.numbered.getLast?)) ∧
    (¬ StopComes requests run → ∀ first second,
      let last := (final.turn first).turn second
      (values.seen < final.version →
          last.delivered.getLast? = final.values.numbered.getLast?) ∧
        (PublisherGoes values run → last.result = some .publisherGone)) := by
  intro start final
  have horder : InOrder values.seen final := (InOrder.initial values requests).afterAll run
  have hgone : final.values.senderGone = true ↔ PublisherGoes values run :=
    senderGone_afterAll_iff start run
  have hasked : final.requests.notice? ≠ none ↔ StopComes requests run :=
    notice?_requests_afterAll_iff start run
  refine ⟨⟨horder.sublist, horder.increasing⟩, fun place call hcall ↦ ?_, fun hstopped ↦ ?_,
    fun hended ↦ ?_, fun hunasked first second ↦ ?_⟩
  · exact exists_delivery rfl run hcall
  · exact hasked.1 (horder.stopped hstopped)
  · obtain ⟨hseen, hsender⟩ := horder.ended hended
    have hasleep := horder.asleep (Option.ne_none_iff_exists'.2 ⟨_, hended⟩)
    exact ⟨hgone.1 hsender, horder.getLast?_delivered hasleep hseen⟩
  · have hsame := (sameSenders_turn final first).trans (sameSenders_turn _ second)
    have hlast : InOrder values.seen ((final.turn first).turn second) :=
      (horder.turn first).turn second
    have hsettled := settled_turn_turn final first second
    have hquiet : ((final.turn first).turn second).requests.notice? = none := by
      rw [hsame.requests]
      exact not_not.1 (hasked.not.2 hunasked)
    obtain ⟨hseen, hends⟩ := hlast.settled hsettled hquiet
    refine ⟨fun hnew ↦ ?_, fun hgoes ↦ hends (hsame.gone.trans (hgone.2 hgoes))⟩
    rw [← hsame.numbered]
    refine hlast.getLast?_delivered hsettled.1 hseen ?_
    rw [Channel.version, hsame.published]
    exact hnew

/-- A version that was published after the monitor was woken is passed on in place of the one that
woke it, and is the last one before the end of the publisher. -/
theorem delivers_in_order_overtaken :
    let run : List (Occurrence Nat) := [.published 1, .followed .published, .published 2,
      .publisherDropped, .delivered, .followed .published]
    let final := ({} : Monitor Nat).afterAll run
    final.delivered = [(2, 2)] ∧ final.result = some .publisherGone ∧
      final.values.numbered = [(1, 1), (2, 2)] ∧
      final.delivered.getLast? = final.values.numbered.getLast? := by
  intro run final
  have hended : final.result = some .publisherGone := by decide
  have hnew : 0 < final.version := by decide
  have hlast := ((delivers_in_order .empty .empty run).2.2.2.1 hended).2 hnew
  exact ⟨by decide, hended, by decide, hlast⟩

end Monitor

end Uplink
