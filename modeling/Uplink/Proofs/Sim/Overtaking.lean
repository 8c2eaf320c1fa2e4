import Uplink.Proofs.Sim.PendingPuk
/-!
# Calls that are overtaken

The daemon can ask for another credential before the call for the last one has ended. The end of a
call whose state has passed leaves the state alone, with one exception, which is exact: a reset that
succeeds clears the state, whatever is asked for by then. A request is prepared in the one state
that it is meant for; only the change of a PIN is meant for none.
-/

namespace Uplink

namespace SimRequest

/-- Whether this is the state in which such a request is prepared. -/
def MeantFor : SimRequest → LockState → Prop
  | enter kind _, state => state = .pinRequired kind
  | reset pukKind _ _, state => state = .newPinRequired pukKind
  | change .., _ => False

def IsChange (request : SimRequest) : Prop :=
  ∃ kind oldPin newPin, request = .change kind oldPin newPin

/-- Whether the request is a reset that succeeds in a state in which something else is asked for. -/
def ClearsOther (request : SimRequest) (outcome : Outcome) (state : LockState) : Prop :=
  ∃ pukKind puk newPin, request = .reset pukKind puk newPin ∧ outcome = .ok () ∧
    state ≠ .newPinRequired pukKind ∧ state ≠ .clear

end SimRequest

namespace SimLock

variable {lock : SimLock} {request : SimRequest} {outcome : Outcome}

theorem state_complete_of_isChange (h : request.IsChange) :
    (lock.complete request outcome).state = lock.state := by
  obtain ⟨kind, oldPin, newPin, rfl⟩ := h
  cases outcome <;> rfl

theorem state_complete_of_clearsOther (h : request.ClearsOther outcome lock.state) :
    (lock.complete request outcome).state = .clear := by
  obtain ⟨pukKind, puk, newPin, rfl, rfl, -, -⟩ := h
  rfl

/-- The end of a call for a state that has passed leaves the state alone, unless it is the success
of a reset. -/
theorem state_complete_of_not_meantFor (hpassed : ¬ request.MeantFor lock.state)
    (hother : ¬ request.ClearsOther outcome lock.state) :
    (lock.complete request outcome).state = lock.state := by
  cases request with
  | enter kind pin =>
    cases outcome with
    | ok done =>
      have hstate : lock.state ≠ .pinRequired kind := hpassed
      simp [complete, succeed, hstate]
    | error failure => rfl
  | reset pukKind puk newPin =>
    have hstate : lock.state ≠ .newPinRequired pukKind := hpassed
    cases outcome with
    | ok done =>
      have hclear : lock.state = .clear := by
        by_contra hasked
        exact hother ⟨pukKind, puk, newPin, rfl, rfl, hstate, hasked⟩
      rw [hclear]
      rfl
    | error failure => simp [complete, fail, hstate]
  | change kind oldPin newPin => exact state_complete_of_isChange ⟨kind, oldPin, newPin, rfl⟩

end SimLock

namespace SimSession

/-- An operation prepares at most one request, and the state is the one that it is meant for. -/
theorem prepared_after (session : SimSession) (operation : Operation) :
    (session.after operation).prepared = session.prepared ∨
      ∃ request, (session.after operation).prepared = session.prepared ++ [request] ∧
        (request.MeantFor session.lock.state ∨ request.IsChange) := by
  cases operation with
  | sync required retries => exact .inl rfl
  | enter pin =>
    cases hresult : session.lock.enter pin with
    | error failure => simp [after, perform, hresult, Except.map]
    | ok result =>
      obtain ⟨kind, hstate, -, -, hrequest⟩ := SimLock.enter_eq_ok_iff.1 hresult
      refine .inr ⟨result.2, ?_, .inl ?_⟩
      · simp [after, perform, hresult, Except.map, prepare]
      · rw [hrequest]
        exact hstate
  | submitPuk puk =>
    cases hresult : session.lock.submitPuk puk <;>
      simp [after, perform, hresult, Except.map, withLock]
  | reset newPin =>
    cases hresult : session.lock.reset newPin with
    | error failure => simp [after, perform, hresult, Except.map]
    | ok request =>
      obtain ⟨pukKind, target, puk, hstate, -, -, -, hrequest⟩ :=
        SimLock.reset_eq_ok_iff.1 hresult
      refine .inr ⟨request, ?_, .inl ?_⟩
      · simp [after, perform, hresult, Except.map, prepare]
      · rw [hrequest]
        exact hstate
  | change kind oldPin newPin =>
    cases hresult : session.lock.change kind oldPin newPin with
    | error failure => simp [after, perform, hresult, Except.map]
    | ok result =>
      obtain ⟨-, -, -, -, hrequest⟩ := SimLock.change_eq_ok_iff.1 hresult
      refine .inr ⟨result.2, ?_, .inr ⟨kind, oldPin, newPin, hrequest⟩⟩
      simp [after, perform, hresult, Except.map, prepare]
  | finish place outcome =>
    left
    cases hrequest : session.prepared[place]? <;> simp [after, perform, hrequest, withLock]

/-- Every request was prepared at some point of the run, in the state that it is meant for. -/
theorem prepared_run {operations : List Operation} {place : Nat} {request : SimRequest}
    (h : (run operations).prepared[place]? = some request) :
    ∃ before operation since, operations = before ++ operation :: since ∧
      (run before).prepared.length = place ∧
      (run (before ++ [operation])).prepared[place]? = some request ∧
      (request.MeantFor (run before).lock.state ∨ request.IsChange) := by
  induction operations using List.reverseRecOn with
  | nil => simp [run] at h
  | append_singleton operations last ih =>
    have hearlier (hbefore : (run operations).prepared[place]? = some request) :
        ∃ before operation since, operations ++ [last] = before ++ operation :: since ∧
          (run before).prepared.length = place ∧
          (run (before ++ [operation])).prepared[place]? = some request ∧
          (request.MeantFor (run before).lock.state ∨ request.IsChange) := by
      obtain ⟨before, operation, since, rfl, hprepared⟩ := ih hbefore
      exact ⟨before, operation, since ++ [last], by simp, hprepared⟩
    rcases prepared_after (run operations) last with hsame | ⟨added, hadded, hmeant⟩
    · rw [run_concat, hsame] at h
      exact hearlier h
    · have hconcat := h
      rw [run_concat, hadded, List.getElem?_append] at hconcat
      split at hconcat
      next => exact hearlier hconcat
      next hplace =>
        -- The place is behind all earlier requests, so it is the one that was just filled.
        have hlast : place - (run operations).prepared.length = 0 := by
          by_contra hbeyond
          rw [List.getElem?_eq_none (by simp; omega)] at hconcat
          cases hconcat
        rw [hlast] at hconcat
        obtain rfl : added = request := Option.some.inj hconcat
        exact ⟨operations, last, [], rfl, by omega, h, hmeant⟩

theorem lock_finish {operations : List Operation} {place : Nat} {request : SimRequest}
    (h : (run operations).prepared[place]? = some request) (outcome : Outcome) :
    (run (operations ++ [.finish place outcome])).lock =
      (run operations).lock.complete request outcome := by
  rw [run_concat]
  simp [after, perform, h, withLock]

/-- A request was prepared in the state that it is meant for, or is a change of PIN. If that state
has passed when its call ends, the state at the end stays, exactly unless the call is a reset that
succeeds while something else is asked for; then nothing is asked for any more. A change of PIN
never changes the state. -/
theorem overtaken_iff (operations : List Operation) (place : Nat) (request : SimRequest)
    (h : (run operations).prepared[place]? = some request) (outcome : Outcome) :
    let state := (run operations).lock.state
    let after := (run (operations ++ [.finish place outcome])).lock.state
    (∃ before operation since, operations = before ++ operation :: since ∧
      (run before).prepared.length = place ∧
      (run (before ++ [operation])).prepared[place]? = some request ∧
      (request.MeantFor (run before).lock.state ∨ request.IsChange)) ∧
    ((¬ request.MeantFor state → after = state) ↔ ¬ request.ClearsOther outcome state) ∧
    (request.ClearsOther outcome state → after = .clear) ∧
    (request.IsChange → after = state) := by
  intro state after
  have hafter : after = ((run operations).lock.complete request outcome).state := by
    change (run _).lock.state = _
    rw [lock_finish h]
  refine ⟨prepared_run h, ⟨?_, ?_⟩, ?_, ?_⟩
  · intro hstay hclears
    have hpassed : ¬ request.MeantFor state := by
      obtain ⟨pukKind, puk, newPin, rfl, -, hstate, -⟩ := hclears
      exact hstate
    have hcleared := SimLock.state_complete_of_clearsOther hclears
    obtain ⟨-, -, -, -, -, -, hasked⟩ := hclears
    exact hasked ((hstay hpassed).symm.trans (hafter.trans hcleared))
  · intro hother hpassed
    rw [hafter]
    exact SimLock.state_complete_of_not_meantFor hpassed hother
  · intro hclears
    rw [hafter]
    exact SimLock.state_complete_of_clearsOther hclears
  · intro hchange
    rw [hafter]
    exact SimLock.state_complete_of_isChange hchange

/-- A PIN is typed in, but before the call ends the SIM asks for its PUK, and goes on to do so. -/
theorem overtaken_enter :
    let operations := [Operation.sync (some .pin) ∅, .enter "1234", .sync (some .puk) ∅]
    (run operations).prepared[0]? = some (.enter .pin "1234") ∧
      (run operations).lock.state = .pukRequired .puk ∧
      (run (operations ++ [.finish 0 (.ok ())])).lock.state = .pukRequired .puk := by
  intro operations
  have hprepared : (run operations).prepared[0]? = some (.enter .pin "1234") := by decide +kernel
  have hstate : (run operations).lock.state = .pukRequired .puk := by decide +kernel
  have hovertaken := overtaken_iff operations 0 _ hprepared (.ok ())
  refine ⟨hprepared, hstate, (hovertaken.2.1.2 ?_ ?_).trans hstate⟩
  · rintro ⟨pukKind, puk, newPin, hreset, -⟩
    cases hreset
  · rw [hstate]
    exact LockState.noConfusion

/-- A reset is prepared; before its call ends, the SIM asks for its second PIN. -/
def resetThenPin2 : List Operation :=
  [.sync (some .puk) ∅, .submitPuk "12345678", .reset "1234", .sync (some .pin2) ∅]

/-- The success of the reset makes the lock forget that the second PIN is asked for. -/
theorem overtaken_reset_clears :
    ¬ ∀ operations place request outcome, (run operations).prepared[place]? = some request →
      ¬ request.MeantFor (run operations).lock.state →
      (run (operations ++ [.finish place outcome])).lock.state = (run operations).lock.state := by
  intro h
  have hprepared : (run resetThenPin2).prepared[0]? = some (.reset .puk "12345678" "1234") := by
    decide +kernel
  have hstate : (run resetThenPin2).lock.state = .pinRequired .pin2 := by decide +kernel
  have hcleared : (run (resetThenPin2 ++ [.finish 0 (.ok ())])).lock.state = .clear := by
    decide +kernel
  have hpassed : ¬ SimRequest.MeantFor (.reset .puk "12345678" "1234")
      (run resetThenPin2).lock.state := by
    rw [hstate]
    exact LockState.noConfusion
  have hkept := h resetThenPin2 0 _ (.ok ()) hprepared hpassed
  rw [hcleared, hstate] at hkept
  cases hkept

end SimSession

end Uplink
