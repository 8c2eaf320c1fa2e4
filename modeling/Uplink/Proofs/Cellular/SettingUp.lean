import Uplink.Cellular.Setup
import Uplink.Proofs.Cellular.Sequence
import Uplink.Proofs.Remote.Exchanges
import Uplink.Remote.Rehearsal
/-!
# Setting up the internet context

Following the wizard comes down to one dialogue: list the contexts, create one if none carries
general traffic, get hold of the context and write the settings. The three operations that a setup
may take are always enough. Whatever a party answers, what is asked of it is this list of requests
up to the first that fails, on the context that looking for the internet context finds in the same
state, or on the one just created. The requests are given in full, apart from the functions that
make them.
-/

namespace Uplink.Cellular

open CellularContext (ForInternet kind_ofProperties_iff)
open Remote (Call Dialogue Party Request Exchange CarriedOut Rehearsal)
open Text (Blank)
open Wire (Properties)

variable {σ : Type} (manager : String) (settings : ContextSettings) (party : Party σ)

/-! ## Without the wizard -/

/-- Brings a context to the settings. -/
def bringTo (context : ObjectPath) : Dialogue ObjectPath :=
  (Dialogue.opened context).bind fun _ ↦
    (writeProperties context settings.told).bind fun _ ↦ pure context

/-- Brings the context that was found to the settings, or else a new one. -/
def bringFound : Option CellularContext → Dialogue ObjectPath
  | some existing => bringTo settings existing.path
  | none => (Dialogue.ask (addContext manager)).bind (bringTo settings)

/-- Brings the internet context to the settings. -/
def bringUp : Dialogue ObjectPath :=
  (internetContext manager).bind (bringFound manager settings)

theorem follow_finished (operations : Nat) (wizard : ContextWizard) (context : ObjectPath) :
    follow manager operations (wizard, .ok (.finished context)) = pure context := by
  cases operations <;> rfl

theorem follow_configure (operations : Nat) (context : ObjectPath) :
    follow manager (operations + 1) ({ settings, state := .configuring context },
      .ok (.configure context settings.told)) = bringTo settings context := by
  change Dialogue.bind (Dialogue.bind _ _) _ = Dialogue.bind _ _
  rw [Dialogue.bind_assoc]
  congr 1
  funext _
  change Dialogue.bind (Dialogue.bind _ _) _ = Dialogue.bind _ _
  rw [Dialogue.bind_assoc]
  congr 1
  funext _
  exact follow_finished manager operations _ context

theorem follow_listContexts (operations : Nat) :
    follow manager (operations + 3) ({ settings, state := .listing }, .ok .listContexts) =
      bringUp manager settings := by
  change Dialogue.bind (Dialogue.bind _ _) _ = Dialogue.bind (Dialogue.bind _ _) _
  rw [Dialogue.bind_assoc, Dialogue.bind_assoc]
  congr 1
  funext contexts
  change follow manager (operations + 2) (ContextWizard.handle _ (.listed contexts)) =
    bringFound manager settings (CellularContext.internet? contexts)
  cases hfound : CellularContext.internet? contexts with
  | some existing =>
    have hfirst := CellularContext.internet?_eq_some_iff.1 hfound
    rw [(ContextWizard.Advances.reuse hfirst).handle]
    exact follow_configure manager settings (operations + 1) existing.path
  | none =>
    have hnone := CellularContext.internet?_eq_none_iff.1 hfound
    rw [(ContextWizard.Advances.create hnone).handle]
    change Dialogue.bind (Dialogue.bind _ _) _ = Dialogue.bind _ _
    rw [Dialogue.bind_assoc]
    congr 1
    funext created
    change follow manager (operations + 1) (ContextWizard.handle _ (.created created)) = _
    rw [(ContextWizard.Advances.created created).handle]
    exact follow_configure manager settings operations created

/-- Without an access point nothing is done, whatever is allowed. -/
theorem follow_start_of_blank (hname : Blank settings.accessPointName) (operations : Nat) :
    follow manager operations ({ settings } : ContextWizard).start =
      .fail (.contextSetup "access point name is empty") := by
  rw [ContextWizard.start_of_blank hname]
  cases operations <;> rfl

/-- However many operations are allowed, three or more, the wizard is followed to the end. -/
theorem follow_start (hname : ¬ Blank settings.accessPointName) (operations : Nat) :
    follow manager (operations + 3) ({ settings } : ContextWizard).start =
      bringUp manager settings := by
  have hstart : ({ settings } : ContextWizard).start =
      ({ settings, state := .listing }, .ok .listContexts) :=
    (ContextWizard.Advances.start hname).handle
  rw [hstart]
  exact follow_listContexts manager settings operations

/-! ## What is asked for -/

/-- The call that lists the contexts. -/
def listing : Call :=
  { object := manager, interface := "org.ofono.ConnectionManager", method := "GetContexts",
    expects := .children }

/-- The call for a new context for the internet. -/
def creation : Call :=
  { object := manager, interface := "org.ofono.ConnectionManager", method := "AddContext",
    args := .texts ["internet"], expects := .path }

/-- The call that tells a context one thing. -/
def telling (context : ObjectPath) (property : String × String) : Call :=
  { object := context.text, interface := "org.ofono.ConnectionContext", method := "SetProperty",
    args := .property property.1 (.text property.2) }

/-- What is asked of the context, if there is one. -/
def writes (properties : List (String × String)) : Except Failure ObjectPath → List Request
  | .ok context => .reach context :: properties.map fun property ↦ .call (telling context property)
  | .error _ => []

/-- Exchanges in which all look-ups were made, which give the context if none of them failed. The
context was then opened and written to, up to the first request that failed, and that failure is the
result. -/
def BroughtUp (lookups : List Request) (context : Except Failure ObjectPath)
    (exchanges : List Exchange) (result : Except Failure ObjectPath) : Prop :=
  ∃ looked written outcome, exchanges = looked ++ written ∧
    looked.map Exchange.request = lookups ∧
    CarriedOut lookups looked (context.map fun _ ↦ ()) ∧
    CarriedOut (writes settings.told context) written outcome ∧
    result = context.bind fun path ↦ outcome.map fun _ ↦ path

variable {settings party}

section Asks

variable {α : Type} {dialogue : Dialogue α} {request : Request} {state after : σ}

/-- A look-up that fails is the last request. -/
theorem BroughtUp.of_error {failure : Failure} (h : dialogue.Asks party state request)
    (hrun : dialogue.run party state = (.error failure, after)) (next : α → Dialogue ObjectPath) :
    BroughtUp settings [request] (.error failure) ((dialogue.bind next).exchanges party state)
      ((dialogue.bind next).run party state).1 := by
  obtain ⟨asked, rfl, hasked, houtcome⟩ := h
  obtain ⟨hrun', hexchanges⟩ := Dialogue.bind_of_error hrun next
  have hlooked : CarriedOut [asked.request] [asked] (.error failure) := by
    have hsingle := CarriedOut.single asked
    rw [houtcome, hrun] at hsingle
    exact hsingle
  refine ⟨[asked], [], .ok (), ?_, rfl, hlooked, .nil, congrArg Prod.fst hrun'⟩
  rw [hexchanges, hasked, List.append_nil]

/-- A look-up that succeeds comes before what its answer leads to. -/
theorem BroughtUp.of_ok {value : α} {next : α → Dialogue ObjectPath} {lookups : List Request}
    {context : Except Failure ObjectPath} (h : dialogue.Asks party state request)
    (hrun : dialogue.run party state = (.ok value, after))
    (hnext : BroughtUp settings lookups context ((next value).exchanges party after)
      ((next value).run party after).1) :
    BroughtUp settings (request :: lookups) context ((dialogue.bind next).exchanges party state)
      ((dialogue.bind next).run party state).1 := by
  obtain ⟨asked, rfl, hasked, houtcome⟩ := h
  obtain ⟨looked, written, outcome, hexchanges, hrequests, hlooked, hwritten, hresult⟩ := hnext
  obtain ⟨hrun', hexchanges'⟩ := Dialogue.bind_of_ok hrun next
  rw [hrun] at houtcome
  refine ⟨asked :: looked, written, outcome, ?_, congrArg (List.cons _) hrequests,
    .cons houtcome hlooked, hwritten, ?_⟩
  · rw [hexchanges', hasked, hexchanges]
    rfl
  · rw [hrun', hresult]

end Asks

theorem carriesOut_writeProperties (context : ObjectPath) (properties : List (String × String))
    (state : σ) :
    (writeProperties context properties).CarriesOut party state
      (properties.map fun property ↦ .call (telling context property)) () := by
  induction properties generalizing state with
  | nil => exact Dialogue.carriesOut_pure ()
  | cons property rest ih =>
    let made := telling context property
    have hasked : (Dialogue.ask made).CarriesOut party state [.call made] () :=
      Dialogue.carriesOut_ask fun _ _ ↦ rfl
    exact hasked.bind fun after _ ↦ ih after

theorem broughtUp_bringTo (context : ObjectPath) (state : σ) :
    BroughtUp settings [] (.ok context) ((bringTo settings context).exchanges party state)
      ((bringTo settings context).run party state).1 := by
  have hcarried : (bringTo settings context).CarriesOut party state
      (writes settings.told (.ok context)) context := by
    rw [← List.append_nil (writes settings.told (.ok context))]
    apply (Dialogue.carriesOut_opened context).bind
    intro after _
    apply (carriesOut_writeProperties context settings.told after).bind
    intro after _
    exact Dialogue.carriesOut_pure context
  obtain ⟨outcome, hwritten, hresult⟩ := hcarried
  exact ⟨[], _, outcome, rfl, rfl, .nil, hwritten, hresult⟩

/-- What looking for the internet context finds where these children are listed. -/
inductive Finds : Except Failure (List (ObjectPath × Properties)) →
    Except Failure (Option CellularContext) → Prop
  | failed (failure : Failure) : Finds (.error failure) (.error failure)
  | first {before after : List (ObjectPath × Properties)} {child : ObjectPath × Properties}
    {context : CellularContext} (hfirst : ForInternet child.2)
    (hbefore : ∀ other ∈ before, ¬ ForInternet other.2) (hpath : context.path = child.1) :
    Finds (.ok (before ++ child :: after)) (.ok (some context))
  | nothing {children : List (ObjectPath × Properties)}
    (hnone : ∀ child ∈ children, ¬ ForInternet child.2) : Finds (.ok children) (.ok none)

/-- The contexts as which children are read. -/
def contextsOf (children : List (ObjectPath × Properties)) : List CellularContext :=
  children.map fun child ↦ CellularContext.ofProperties child.1 child.2

/-- The first context that is read as one for the internet is that of the first such child. -/
theorem finds_internet? (children : List (ObjectPath × Properties)) :
    Finds (.ok children) (.ok (CellularContext.internet? (contextsOf children))) := by
  cases hfound : CellularContext.internet? (contextsOf children) with
  | some context =>
    obtain ⟨before, after, hsplit, hkind, hbefore⟩ :=
      CellularContext.internet?_eq_some_iff.1 hfound
    obtain ⟨before, rest, rfl, rfl, hrest⟩ := List.map_eq_append_iff.1 hsplit
    obtain ⟨child, after, rfl, rfl, rfl⟩ := List.map_eq_cons_iff.1 hrest
    refine .first (kind_ofProperties_iff.1 hkind) (fun other hother hinternet ↦ ?_) rfl
    exact hbefore _ (List.mem_map_of_mem hother) (kind_ofProperties_iff.2 hinternet)
  | none =>
    have hnone := CellularContext.internet?_eq_none_iff.1 hfound
    refine .nothing fun child hchild hinternet ↦ ?_
    exact hnone _ (List.mem_map_of_mem hchild) (kind_ofProperties_iff.2 hinternet)

theorem run_internetContext (state : σ) :
    (internetContext manager).run party state =
      ((party.answer (listing manager) state).1.map fun children ↦
          CellularContext.internet? (contextsOf children),
        (party.answer (listing manager) state).2) := by
  let answer := (party.answer (listing manager) state).1
  change (Dialogue.bind (.done (answer.map _)) _).run party _ = (answer.map _, _)
  cases answer <;> rfl

theorem finds_internetContext (state : σ) :
    Finds (party.answer (listing manager) state).1
      ((internetContext manager).run party state).1 := by
  rw [run_internetContext]
  cases (party.answer (listing manager) state).1 with
  | error failure => exact .failed failure
  | ok children => exact finds_internet? children

/-- Looking for the internet context is a single call. -/
theorem asks_internetContext (state : σ) :
    (internetContext manager).Asks party state (.call (listing manager)) := by
  let answer := (party.answer (listing manager) state).1
  refine ⟨.call (listing manager) answer, rfl, ?_, ?_⟩
  · apply congrArg (List.cons (Exchange.call (listing manager) answer))
    change (Dialogue.bind (.done (answer.map _)) _).exchanges party _ = []
    cases answer <;> rfl
  · change answer.map _ = ((Dialogue.bind (.done (answer.map _)) _).run party _).1.map _
    cases answer <;> rfl

/-- The context to set up: the one that was found, or else the one that was created. -/
def target (found : Except Failure (Option CellularContext)) (created : Except Failure ObjectPath) :
    Except Failure ObjectPath :=
  match found with
  | .ok (some existing) => .ok existing.path
  | .ok none => created
  | .error failure => .error failure

/-- The calls that lead to the context. A new one is asked for if none was found. -/
def lookups : Except Failure (Option CellularContext) → List Request
  | .ok none => [.call (listing manager), .call (creation manager)]
  | _ => [.call (listing manager)]

theorem broughtUp_bringUp (state : σ) :
    let found := ((internetContext manager).run party state).1
    let created := (party.answer (creation manager) (party.answer (listing manager) state).2).1
    BroughtUp settings (lookups manager found) (target found created)
      ((bringUp manager settings).exchanges party state)
      ((bringUp manager settings).run party state).1 := by
  have hasks : (internetContext manager).Asks party state _ := asks_internetContext manager state
  have hafter : ((internetContext manager).run party state).2 =
      (party.answer (listing manager) state).2 :=
    congrArg Prod.snd (run_internetContext manager state)
  rcases hfound : (internetContext manager).run party state with ⟨failure | found, after⟩
  · exact .of_error hasks hfound _
  rw [hfound] at hafter
  cases hafter
  cases found with
  | some existing => exact .of_ok hasks hfound (broughtUp_bringTo existing.path _)
  | none =>
    apply BroughtUp.of_ok hasks hfound
    let listed := (party.answer (listing manager) state).2
    have hadds := Dialogue.asks_ask party (creation manager) listed
    dsimp only
    rcases hcreated : party.answer (creation manager) listed with ⟨failure | created, later⟩
    · exact .of_error hadds hcreated _
    · exact .of_ok hadds hcreated (broughtUp_bringTo created later)

/-! ## How a setup goes -/

variable (settings)

/-- How a setup goes whose look-up gives `found` and which is about this context. -/
structure GoesOn (found : Except Failure (Option CellularContext))
    (context : Except Failure ObjectPath) (exchanges : List Exchange)
    (result : Except Failure ObjectPath) : Prop where
  in_order : BroughtUp settings (lookups manager found) context exchanges result
  ok_iff : ∀ path, result = .ok path ↔
    context = .ok path ∧ ∀ exchange ∈ exchanges, exchange.outcome = .ok ()
  listed_once : (exchanges.map Exchange.request).countP (·.asks "GetContexts") = 1
  created_if_none : (exchanges.map Exchange.request).countP (·.asks "AddContext") =
    if found = .ok none then 1 else 0
  opened_once : (exchanges.map Exchange.request).filterMap Request.reached? =
    context.toOption.toList
  removes_none : ∀ request ∈ exchanges.map Exchange.request, ¬ request.asks "RemoveContext"
  writes_there : ∀ request ∈ exchanges.map Exchange.request, request.asks "SetProperty" →
    ∃ path, context = .ok path ∧ ∃ property ∈ settings.told,
      request = .call (telling path property)

section Requests

variable {manager settings}
variable {found : Except Failure (Option CellularContext)} {context : Except Failure ObjectPath}
  {properties : List (String × String)} {request : Request}

theorem mem_lookups (h : request ∈ lookups manager found) :
    request = .call (listing manager) ∨ request = .call (creation manager) := by
  rcases found with failure | existing | existing
  · exact .inl (List.mem_singleton.1 h)
  · exact List.mem_pair.1 h
  · exact .inl (List.mem_singleton.1 h)

theorem mem_writes (h : request ∈ writes properties context) :
    ∃ path, context = .ok path ∧ (request = .reach path ∨
      ∃ property ∈ properties, request = .call (telling path property)) := by
  cases context with
  | error failure => cases h
  | ok path =>
    refine ⟨path, rfl, ?_⟩
    rcases List.mem_cons.1 h with hreach | hcall
    · exact .inl hreach
    · obtain ⟨property, hproperty, rfl⟩ := List.mem_map.1 hcall
      exact .inr ⟨property, hproperty, rfl⟩

/-- No call to a context is one of another method. -/
theorem countP_writes {method : String} (hmethod : method ≠ "SetProperty") :
    (writes properties context).countP (·.asks method) = 0 := by
  rw [List.countP_eq_zero]
  intro request hrequest
  obtain ⟨path, -, rfl | ⟨property, -, rfl⟩⟩ := mem_writes hrequest
  · exact Bool.false_ne_true
  · exact fun hasks ↦ hmethod (of_decide_eq_true hasks).symm

theorem reached_writes :
    (writes properties context).filterMap Request.reached? = context.toOption.toList := by
  cases context with
  | error failure => rfl
  | ok path =>
    apply congrArg (List.cons path)
    rw [List.filterMap_map]
    exact List.filterMap_eq_nil_iff.2 fun _ _ ↦ rfl

/-- The requests to the context are those for the first properties. -/
theorem requests_written {written : List Exchange} {outcome : Outcome}
    (h : CarriedOut (writes properties context) written outcome) :
    ∃ first, first <+: properties ∧ written.map Exchange.request = writes first context := by
  cases context with
  | error failure =>
    cases h
    exact ⟨[], List.nil_prefix, rfl⟩
  | ok path =>
    obtain ⟨made, hprefix, hmade⟩ := h.exists_of_cons
    obtain ⟨first, hfirst, rfl⟩ := List.prefix_map_iff.1 hprefix
    exact ⟨first, hfirst, hmade⟩

theorem BroughtUp.goesOn {exchanges : List Exchange} {result : Except Failure ObjectPath}
    (h : BroughtUp settings (lookups manager found) context exchanges result) :
    GoesOn manager settings found context exchanges result := by
  obtain ⟨looked, written, outcome, hexchanges, hlooked, hcarried, hwritten, hresult⟩ := id h
  obtain ⟨first, hfirst, hwrites⟩ := requests_written hwritten
  have hrequests : exchanges.map Exchange.request =
      lookups manager found ++ writes first context := by
    rw [hexchanges, List.map_append, hlooked, hwrites]
  constructor
  case in_order => exact h
  case ok_iff =>
    intro path
    rw [hexchanges, List.forall_mem_append, ← hcarried.eq_ok_iff, ← hwritten.eq_ok_iff, hresult]
    cases context <;> cases outcome <;> simp [Except.bind, Except.map]
  case listed_once =>
    rw [hrequests, List.countP_append, countP_writes (by decide)]
    rcases found with failure | existing | existing <;> rfl
  case created_if_none =>
    rw [hrequests, List.countP_append, countP_writes (by decide)]
    rcases found with failure | existing | existing <;> rfl
  case opened_once =>
    have hlookups : (lookups manager found).filterMap Request.reached? = [] := by
      rcases found with failure | existing | existing <;> rfl
    rw [hrequests, List.filterMap_append, hlookups, List.nil_append, reached_writes]
  case removes_none =>
    intro request hmade
    rw [hrequests] at hmade
    rcases List.mem_append.1 hmade with hlookup | hwrite
    · rcases mem_lookups hlookup with rfl | rfl <;> exact Bool.false_ne_true
    · exact List.countP_eq_zero.1 (countP_writes (by decide)) request hwrite
  case writes_there =>
    intro request hmade hasks
    rw [hrequests] at hmade
    rcases List.mem_append.1 hmade with hlookup | hwrite
    · rcases mem_lookups hlookup with rfl | rfl <;> cases hasks
    · obtain ⟨path, hpath, rfl | ⟨property, hproperty, rfl⟩⟩ := mem_writes hwrite
      · cases hasks
      · exact ⟨path, hpath, property, hfirst.mem hproperty, rfl⟩

end Requests

/-- Setting up the internet context takes three operations of the wizard at most. Looking for the
internet context finds the first that is listed. Without an access point nothing is asked of the
party; otherwise the setup goes on with what looking for the internet context in the same state
finds, or with the context that is then created. -/
theorem setupInternetContext_goesOn (party : Party σ) (state : σ) (manager : String)
    (settings : ContextSettings) :
    let exchanges := (setupInternetContext manager settings).exchanges party state
    let result := ((setupInternetContext manager settings).run party state).1
    let found := ((internetContext manager).run party state).1
    let created := (party.answer (creation manager) (party.answer (listing manager) state).2).1
    (∀ operations, follow manager (operations + 3) ({ settings } : ContextWizard).start =
      setupInternetContext manager settings) ∧
    Finds (party.answer (listing manager) state).1 found ∧
    (Blank settings.accessPointName →
      exchanges = [] ∧ result = .error (.contextSetup "access point name is empty")) ∧
    (¬ Blank settings.accessPointName →
      GoesOn manager settings found (target found created) exchanges result) := by
  intro exchanges result found created
  by_cases hname : Blank settings.accessPointName
  · have hsetup := follow_start_of_blank manager settings hname
    refine ⟨fun operations ↦ (hsetup _).trans (hsetup 3).symm, finds_internetContext manager state,
      fun _ ↦ ?_, fun hnot ↦ absurd hname hnot⟩
    change (setupInternetContext manager settings).exchanges party state = [] ∧
      ((setupInternetContext manager settings).run party state).1 = _
    rw [setupInternetContext, hsetup]
    exact ⟨rfl, rfl⟩
  · have hsetup := follow_start manager settings hname
    refine ⟨fun operations ↦ (hsetup operations).trans (hsetup 0).symm,
      finds_internetContext manager state, fun hblank ↦ absurd hblank hname, fun _ ↦ ?_⟩
    apply BroughtUp.goesOn
    change BroughtUp _ _ _ ((setupInternetContext manager settings).exchanges party state)
      ((setupInternetContext manager settings).run party state).1
    rw [setupInternetContext, hsetup 0]
    exact broughtUp_bringUp manager state

/-- The context that is listed is not for the internet. The first write to the new one is refused,
and there is no second. -/
theorem setupInternetContext_goesOn_refused :
    let messages : ObjectPath := ⟨"/context1", by decide⟩
    let context : ObjectPath := ⟨"/context3", by decide⟩
    let prepared := (({} : Rehearsal).modify "/m" (·.queuePath context)).modify "/m"
      (·.addChild messages (.ofPairs [("Type", .text "mms")]))
    let rehearsal := prepared.modify "/context3"
      (·.refuseNext "SetProperty" "org.ofono.Error.Failed")
    let settings : ContextSettings := { name := some "Mobile", accessPointName := "apn.example" }
    let dialogue := setupInternetContext "/m" settings
    let outcome := rehearsal.follow dialogue
    outcome.1 = .error (.refused "org.ofono.Error.Failed" none) ∧
      outcome.2.log.map (fun made ↦ (made.object, made.method, made.args.rendered?)) =
        [("/m", "GetContexts", some []), ("/m", "AddContext", some ["internet"]),
          ("/context3", "SetProperty", some ["Name", "Mobile"])] ∧
      GoesOn "/m" settings (.ok none) (.ok context) (dialogue.exchanges Rehearsal.party rehearsal)
        outcome.1 := by
  intro messages context prepared rehearsal settings dialogue outcome
  refine ⟨by decide, by decide, ?_⟩
  have hname : ¬ Blank settings.accessPointName := by decide
  have hfound : ((internetContext "/m").run Rehearsal.party rehearsal).1 = .ok none := rfl
  have hcreated : (Rehearsal.party.answer (creation "/m")
      (Rehearsal.party.answer (listing "/m") rehearsal).2).1 = .ok context := rfl
  have hgoes := (setupInternetContext_goesOn Rehearsal.party rehearsal "/m" settings).2.2.2 hname
  rw [hfound, hcreated] at hgoes
  exact hgoes

end Uplink.Cellular
