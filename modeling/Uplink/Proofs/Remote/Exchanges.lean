import Mathlib.Data.List.Infix
import Uplink.Remote.Dialogue
/-!
# The exchanges of a dialogue

What a dialogue asks of a party, and what it gets, one after the other. A dialogue carries out a
list of requests if it makes them in their order and stops at the first that fails: `CarriedOut`
relates the list to the exchanges and to the outcome, which is the failure of the last exchange, if
it failed.
-/

namespace Uplink.Remote

/-- Something a dialogue asks of a party. -/
inductive Request where
  | call (made : Call)
  | reach (object : ObjectPath)

namespace Request

/-- Whether it is a call of this method. -/
def asks (method : String) : Request → Bool
  | call made => made.method == method
  | reach _ => false

/-- The object that it gets hold of. -/
def reached? : Request → Option ObjectPath
  | call _ => none
  | reach object => some object

end Request

/-- A request and what came of it. -/
inductive Exchange where
  | call (made : Call) (answer : Except Failure made.expects.Answer)
  | reach (object : ObjectPath) (outcome : Outcome)

namespace Exchange

def request : Exchange → Request
  | call made _ => .call made
  | reach object _ => .reach object

def outcome : Exchange → Outcome
  | call _ answer => answer.map fun _ ↦ ()
  | reach _ outcome => outcome

end Exchange

/-- Requests that were made in their order, up to the first that failed. -/
inductive CarriedOut : List Request → List Exchange → Outcome → Prop
  | nil : CarriedOut [] [] (.ok ())
  | failed {exchange : Exchange} {failure : Failure} (rest : List Request)
    (hfailed : exchange.outcome = .error failure) :
    CarriedOut (exchange.request :: rest) [exchange] (.error failure)
  | cons {exchange : Exchange} {requests : List Request} {exchanges : List Exchange}
    {outcome : Outcome} (hdone : exchange.outcome = .ok ())
    (hrest : CarriedOut requests exchanges outcome) :
    CarriedOut (exchange.request :: requests) (exchange :: exchanges) outcome

namespace CarriedOut

variable {requests more : List Request} {exchanges others : List Exchange} {outcome : Outcome}

theorem single (exchange : Exchange) :
    CarriedOut [exchange.request] [exchange] exchange.outcome := by
  cases houtcome : exchange.outcome with
  | error failure => exact .failed [] houtcome
  | ok => exact .cons houtcome .nil

theorem requests_prefix (h : CarriedOut requests exchanges outcome) :
    exchanges.map Exchange.request <+: requests := by
  induction h with
  | nil => exact List.nil_prefix
  | failed rest _ => exact (List.prefix_cons_inj _).2 List.nil_prefix
  | cons _ _ ih => exact (List.prefix_cons_inj _).2 ih

theorem append (h : CarriedOut requests exchanges (.ok ())) (h' : CarriedOut more others outcome) :
    CarriedOut (requests ++ more) (exchanges ++ others) outcome := by
  generalize hdone : (.ok () : Outcome) = done at h
  induction h with
  | nil => exact h'
  | failed => cases hdone
  | cons hfirst _ ih => exact .cons hfirst (ih hdone)

/-- What comes after a failure is not made. -/
theorem append_of_error {failure : Failure} (h : CarriedOut requests exchanges (.error failure))
    (more : List Request) : CarriedOut (requests ++ more) exchanges (.error failure) := by
  generalize hfailed : (.error failure : Outcome) = last at h
  induction h with
  | nil => cases hfailed
  | failed rest hlast =>
    cases hfailed
    exact .failed (rest ++ more) hlast
  | cons hfirst _ ih => exact .cons hfirst (ih hfailed)

/-- The first request is made in any case. -/
theorem exists_of_cons {request : Request}
    (h : CarriedOut (request :: requests) exchanges outcome) :
    ∃ made, made <+: requests ∧ exchanges.map Exchange.request = request :: made := by
  cases h with
  | failed rest _ => exact ⟨[], List.nil_prefix, rfl⟩
  | cons _ hrest => exact ⟨_, hrest.requests_prefix, rfl⟩

/-- Everything succeeded if each exchange did. -/
theorem eq_ok_iff (h : CarriedOut requests exchanges outcome) :
    outcome = .ok () ↔ ∀ exchange ∈ exchanges, exchange.outcome = .ok () := by
  induction h with
  | nil => simp
  | failed rest hfailed => simp [hfailed]
  | cons hdone _ ih => rw [ih, List.forall_mem_cons, and_iff_right hdone]

end CarriedOut

namespace Dialogue

variable {α β γ σ : Type}

theorem bind_assoc (dialogue : Dialogue α) (next : α → Dialogue β) (last : β → Dialogue γ) :
    (dialogue.bind next).bind last = dialogue.bind fun value ↦ (next value).bind last := by
  induction dialogue with
  | done result => cases result <;> rfl
  | call made after ih => exact congrArg (call made) (funext ih)
  | reach object after ih => exact congrArg (reach object) (funext ih)

/-- The exchanges with a party that is in this state. -/
def exchanges (party : Party σ) : Dialogue α → σ → List Exchange
  | done _, _ => []
  | call made next, state =>
    let (answer, state) := party.answer made state
    .call made answer :: (next answer).exchanges party state
  | reach object next, state =>
    let (outcome, state) := party.reach object state
    .reach object outcome :: (next outcome).exchanges party state

variable {party : Party σ} {state after : σ} {dialogue : Dialogue α}

theorem bind_of_ok {value : α} (h : dialogue.run party state = (.ok value, after))
    (next : α → Dialogue β) :
    (dialogue.bind next).run party state = (next value).run party after ∧
      (dialogue.bind next).exchanges party state =
        dialogue.exchanges party state ++ (next value).exchanges party after := by
  induction dialogue generalizing state with
  | done result =>
    cases h
    exact ⟨rfl, rfl⟩
  | call made _ ih =>
    obtain ⟨hrun, hexchanges⟩ := ih _ h
    exact ⟨hrun, congrArg (List.cons _) hexchanges⟩
  | reach object _ ih =>
    obtain ⟨hrun, hexchanges⟩ := ih _ h
    exact ⟨hrun, congrArg (List.cons _) hexchanges⟩

theorem bind_of_error {failure : Failure} (h : dialogue.run party state = (.error failure, after))
    (next : α → Dialogue β) :
    (dialogue.bind next).run party state = (.error failure, after) ∧
      (dialogue.bind next).exchanges party state = dialogue.exchanges party state := by
  induction dialogue generalizing state with
  | done result =>
    cases h
    exact ⟨rfl, rfl⟩
  | call made _ ih =>
    obtain ⟨hrun, hexchanges⟩ := ih _ h
    exact ⟨hrun, congrArg (List.cons _) hexchanges⟩
  | reach object _ ih =>
    obtain ⟨hrun, hexchanges⟩ := ih _ h
    exact ⟨hrun, congrArg (List.cons _) hexchanges⟩

@[simp] theorem run_ask (made : Call) :
    (ask made).run party state = party.answer made state := rfl

/-- Whether the dialogue comes down to this one request. -/
def Asks (party : Party σ) (state : σ) (dialogue : Dialogue α) (request : Request) : Prop :=
  ∃ asked : Exchange, asked.request = request ∧ dialogue.exchanges party state = [asked] ∧
    asked.outcome = (dialogue.run party state).1.map fun _ ↦ ()

theorem asks_ask (party : Party σ) (made : Call) (state : σ) :
    (ask made).Asks party state (.call made) :=
  ⟨.call made (party.answer made state).1, rfl, rfl, rfl⟩

/-- Whether the dialogue carries out these requests, and ends with this value if it gets through. -/
def CarriesOut (party : Party σ) (state : σ) (dialogue : Dialogue α) (requests : List Request)
    (value : α) : Prop :=
  ∃ outcome : Outcome, CarriedOut requests (dialogue.exchanges party state) outcome ∧
    (dialogue.run party state).1 = outcome.map fun _ ↦ value

theorem carriesOut_pure (value : α) : CarriesOut party state (pure value) [] value :=
  ⟨.ok (), .nil, rfl⟩

theorem carriesOut_opened (object : ObjectPath) :
    CarriesOut party state (opened object) [.reach object] () := by
  refine ⟨(party.reach object state).1, .single (.reach object _), ?_⟩
  change (party.reach object state).1 = _
  cases (party.reach object state).1 <;> rfl

/-- A call that can be answered only in this way. -/
theorem carriesOut_ask {made : Call} {value : made.expects.Answer}
    (h : ∀ other, (party.answer made state).1 = .ok other → other = value) :
    CarriesOut party state (ask made) [.call made] value := by
  refine ⟨_, .single (.call made (party.answer made state).1), ?_⟩
  rw [run_ask]
  cases hanswer : (party.answer made state).1 with
  | error failure => rfl
  | ok other => exact congrArg _ (h other hanswer)

theorem CarriesOut.bind {next : α → Dialogue β} {value : α} {last : β}
    {requests more : List Request}
    (h : CarriesOut party state dialogue requests value)
    (hnext : ∀ after, dialogue.run party state = (.ok value, after) →
      CarriesOut party after (next value) more last) :
    CarriesOut party state (dialogue.bind next) (requests ++ more) last := by
  obtain ⟨outcome, hcarried, hresult⟩ := h
  rcases hrun : dialogue.run party state with ⟨result, after⟩
  rw [hrun] at hresult
  cases outcome with
  | error failure =>
    cases hresult
    obtain ⟨hrun', hexchanges⟩ := bind_of_error hrun next
    refine ⟨.error failure, ?_, congrArg Prod.fst hrun'⟩
    rw [hexchanges]
    exact hcarried.append_of_error more
  | ok =>
    cases hresult
    obtain ⟨hrun', hexchanges⟩ := bind_of_ok hrun next
    obtain ⟨outcome, hcarried', hresult⟩ := hnext after hrun
    refine ⟨outcome, ?_, ?_⟩
    · rw [hexchanges]
      exact hcarried.append hcarried'
    · rw [hrun', hresult]

end Dialogue

end Uplink.Remote
