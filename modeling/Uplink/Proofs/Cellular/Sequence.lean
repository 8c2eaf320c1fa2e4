import Mathlib.Data.List.Forall2
import Uplink.Cellular.Wizard
import Uplink.Proofs.Cellular.Terms
/-!
# The wizard goes on in one order only

A wizard can be told anything at any time. Each state goes on with one kind of report, as
`ContextWizard.Advances` lists; every other report makes the wizard fail, and it then fails for
good. So whatever is reported, the wizard first goes the way of a setup, as far as the reports do,
and from the first report that does not belong there it answers with failures only.
-/

namespace Uplink

open Text (Blank)

namespace ContextWizard

open CellularContext (FirstInternet NoInternet)

/-! ## Single reports -/

/-- The states that go on with a report, what they ask for and the states that follow. -/
inductive Advances (settings : ContextSettings) : State → Report → Action → State → Prop
  | start (hname : ¬ Blank settings.accessPointName) :
    Advances settings .idle .start .listContexts .listing
  | reuse {contexts : List CellularContext} {context : CellularContext}
    (hfirst : FirstInternet contexts context) :
    Advances settings .listing (.listed contexts) (.configure context.path settings.told)
      (.configuring context.path)
  | create {contexts : List CellularContext} (hnone : NoInternet contexts) :
    Advances settings .listing (.listed contexts) .createContext .creating
  | created (context : ObjectPath) :
    Advances settings .creating (.created context) (.configure context settings.told)
      (.configuring context)
  | configured (context : ObjectPath) :
    Advances settings (.configuring context) .configured (.finished context) (.done context)

variable {settings : ContextSettings} {state after : State} {report : Report} {action : Action}

@[simp] theorem expecting_self (settings : ContextSettings) (state : State)
    (next : ContextWizard × Except Failure Action) :
    expecting { settings, state } state next = next := if_pos rfl

theorem Advances.handle (h : Advances settings state report action after) :
    ({ settings, state } : ContextWizard).handle report =
      ({ settings, state := after }, .ok action) := by
  cases h with
  | start hname =>
    rw [← Text.isBlank_iff] at hname
    simp only [ContextWizard.handle, ContextWizard.start, expecting_self, if_neg hname]
  | reuse hfirst =>
    have hfound := CellularContext.internet?_eq_some_iff.2 hfirst
    simp only [ContextWizard.handle, contextsListed, expecting_self, hfound, configure,
      ContextSettings.properties_eq_told]
  | create hnone =>
    have habsent := CellularContext.internet?_eq_none_iff.2 hnone
    simp only [ContextWizard.handle, contextsListed, expecting_self, habsent]
  | created context =>
    simp only [ContextWizard.handle, contextCreated, expecting_self, configure,
      ContextSettings.properties_eq_told]
  | configured context => rfl

theorem expecting_of_ne {expected : State} (h : state ≠ expected)
    (next : ContextWizard × Except Failure Action) :
    ∃ reason, expecting { settings, state } expected next = fail { settings, state } reason :=
  ⟨_, if_neg h⟩

theorem start_of_blank (h : Blank settings.accessPointName) :
    ({ settings } : ContextWizard).start = fail { settings } "access point name is empty" := by
  unfold start
  rw [expecting_self, if_pos (Text.isBlank_iff.2 h)]

/-- A report takes the wizard on or makes it fail. -/
theorem handle_cases (settings : ContextSettings) (state : State) (report : Report) :
    (∃ action after, Advances settings state report action after) ∨
      ∃ reason, ({ settings, state } : ContextWizard).handle report =
        fail { settings, state } reason := by
  cases report with
  | start =>
    by_cases hstate : state = .idle
    · cases hstate
      by_cases hname : Blank settings.accessPointName
      · exact .inr ⟨_, start_of_blank hname⟩
      · exact .inl ⟨_, _, .start hname⟩
    · exact .inr (expecting_of_ne hstate _)
  | listed contexts =>
    by_cases hstate : state = .listing
    · cases hstate
      cases hfound : CellularContext.internet? contexts with
      | some context =>
        exact .inl ⟨_, _, .reuse (CellularContext.internet?_eq_some_iff.1 hfound)⟩
      | none => exact .inl ⟨_, _, .create (CellularContext.internet?_eq_none_iff.1 hfound)⟩
    · exact .inr (expecting_of_ne hstate _)
  | created context =>
    by_cases hstate : state = .creating
    · cases hstate
      exact .inl ⟨_, _, .created context⟩
    · exact .inr (expecting_of_ne hstate _)
  | configured =>
    cases state with
    | configuring context => exact .inl ⟨_, _, .configured context⟩
    | idle => exact .inr ⟨_, rfl⟩
    | listing => exact .inr ⟨_, rfl⟩
    | creating => exact .inr ⟨_, rfl⟩
    | done context => exact .inr ⟨_, rfl⟩
    | failed reason => exact .inr ⟨_, rfl⟩
  | failed reason => exact .inr ⟨reason, rfl⟩

theorem advances_of_handle {next : ContextWizard}
    (h : ({ settings, state } : ContextWizard).handle report = (next, .ok action)) :
    Advances settings state report action next.state := by
  rcases handle_cases settings state report with ⟨action', after, hadvances⟩ | ⟨reason, hfail⟩
  · rw [hadvances.handle] at h
    cases h
    exact hadvances
  · rw [hfail] at h
    cases congrArg Prod.snd h

/-- What a context is configured with are the properties of the settings. -/
theorem Advances.written_eq {context : ObjectPath} {written : List (String × String)}
    (h : Advances settings state report (.configure context written) after) :
    written = settings.told := by
  cases h <;> rfl

theorem not_advances_failed {reason : String} :
    ¬ Advances settings (.failed reason) report action after := by
  intro h
  cases h

/-- Two ways on with one report are the same way. -/
theorem Advances.unique {action' : Action} {after' : State}
    (h : Advances settings state report action after)
    (h' : Advances settings state report action' after') : action = action' ∧ after = after' := by
  have heq := h.handle.symm.trans h'.handle
  simp only [Prod.mk.injEq, ContextWizard.mk.injEq, true_and, Except.ok.injEq] at heq
  exact heq.symm

/-! ## The way of a setup -/

/-- What is reported to a wizard and what it asks for in return, step by step from a state on. -/
inductive Way (settings : ContextSettings) : State → List (Report × Action) → Prop
  | nil (state : State) : Way settings state []
  | cons {state after : State} {report : Report} {action : Action} {rest : List (Report × Action)}
    (hfirst : Advances settings state report action after) (hrest : Way settings after rest) :
    Way settings state ((report, action) :: rest)

variable {steps more : List (Report × Action)}

theorem Way.of_prefix (h : Way settings state steps) (hmore : more <+: steps) :
    Way settings state more := by
  induction h generalizing more with
  | nil =>
    rw [List.prefix_nil.1 hmore]
    exact .nil _
  | cons hfirst _ ih =>
    cases more with
    | nil => exact .nil _
    | cons step more =>
      obtain ⟨rfl, hrest⟩ := List.cons_prefix_cons.1 hmore
      exact .cons hfirst (ih hrest)

/-- After one report a way goes on from the state that follows. -/
theorem Way.of_cons (h : Way settings state ((report, action) :: steps))
    (hfirst : Advances settings state report action after) : Way settings after steps := by
  cases h with
  | cons hother hrest =>
    obtain ⟨-, rfl⟩ := hfirst.unique hother
    exact hrest

/-- A whole setup: the contexts are listed, one is created if none of them is for the internet, and
the first one that is, or the one created, is told the settings and is the one to finish with.
Without an access point there is nothing to do. -/
inductive Setup (settings : ContextSettings) : List (Report × Action) → Prop
  | blank (hname : Blank settings.accessPointName) : Setup settings []
  | reuse (hname : ¬ Blank settings.accessPointName) {contexts : List CellularContext}
    {context : CellularContext} (hfirst : FirstInternet contexts context) :
    Setup settings
      [(.start, .listContexts),
        (.listed contexts, .configure context.path settings.told),
        (.configured, .finished context.path)]
  | create (hname : ¬ Blank settings.accessPointName) {contexts : List CellularContext}
    (hnone : NoInternet contexts) (created : ObjectPath) :
    Setup settings
      [(.start, .listContexts),
        (.listed contexts, .createContext),
        (.created created, .configure created settings.told),
        (.configured, .finished created)]

theorem Setup.way (h : Setup settings steps) : Way settings .idle steps := by
  cases h with
  | blank hname => exact .nil _
  | @reuse hname _ context hfirst =>
    exact .cons (.start hname) (.cons (.reuse hfirst) (.cons (.configured context.path) (.nil _)))
  | create hname hnone created =>
    exact .cons (.start hname)
      (.cons (.create hnone) (.cons (.created created) (.cons (.configured created) (.nil _))))

theorem Way.of_done {context : ObjectPath} (h : Way settings (.done context) steps) :
    steps = [] := by
  cases h with
  | nil => rfl
  | cons hfirst _ => cases hfirst

theorem Way.of_configuring {context : ObjectPath} (h : Way settings (.configuring context) steps) :
    steps <+: [(.configured, .finished context)] := by
  cases h with
  | nil => exact List.nil_prefix
  | cons hfirst hrest =>
    cases hfirst
    obtain rfl := hrest.of_done
    exact List.prefix_rfl

theorem Way.of_creating (h : Way settings .creating steps) :
    ∃ created, steps <+:
      [(.created created, .configure created settings.told), (.configured, .finished created)] := by
  cases h with
  | nil => exact ⟨.root, List.nil_prefix⟩
  | cons hfirst hrest =>
    cases hfirst with
    | created created => exact ⟨created, (List.prefix_cons_inj _).2 hrest.of_configuring⟩

/-- With an access point there is a setup that begins with the listing and goes on like this. -/
theorem Way.of_listing (hname : ¬ Blank settings.accessPointName)
    (h : Way settings .listing steps) :
    ∃ setup, Setup settings setup ∧ (.start, .listContexts) :: steps <+: setup := by
  cases h with
  | nil =>
    have hnone : NoInternet [] := nofun
    exact ⟨_, .create hname hnone .root, (List.prefix_cons_inj _).2 List.nil_prefix⟩
  | cons hfirst hrest =>
    cases hfirst with
    | reuse hfirst =>
      refine ⟨_, .reuse hname hfirst, ?_⟩
      exact (List.prefix_cons_inj _).2 ((List.prefix_cons_inj _).2 hrest.of_configuring)
    | create hnone =>
      obtain ⟨created, hcreated⟩ := hrest.of_creating
      refine ⟨_, .create hname hnone created, ?_⟩
      exact (List.prefix_cons_inj _).2 ((List.prefix_cons_inj _).2 hcreated)

/-- Every way from the beginning is that of a setup, as far as it goes. -/
theorem Way.exists_setup (h : Way settings .idle steps) :
    ∃ setup, Setup settings setup ∧ steps <+: setup := by
  cases h with
  | nil =>
    by_cases hname : Blank settings.accessPointName
    · exact ⟨[], .blank hname, List.nil_prefix⟩
    · obtain ⟨setup, hsetup, -⟩ := Way.of_listing hname (.nil _)
      exact ⟨setup, hsetup, List.nil_prefix⟩
  | cons hfirst hrest =>
    cases hfirst with
    | start hname => exact hrest.of_listing hname

/-! ## Whole courses -/

/-- What was reported to a wizard, what it answered and the state it then was in. -/
structure Turn where
  report : Report
  answer : Except Failure Action
  state : State

namespace Turn

/-- Whether the turn is this step of a setup. -/
def Took (turn : Turn) (step : Report × Action) : Prop :=
  turn.report = step.1 ∧ turn.answer = .ok step.2

/-- Whether the wizard failed, with the reason that it now keeps. -/
def Failed (turn : Turn) : Prop :=
  ∃ reason, turn.answer = .error (.contextSetup reason) ∧ turn.state = .failed reason

end Turn

/-- The turns of a wizard to which these reports are made, one after the other. -/
def course : ContextWizard → List Report → List Turn
  | _, [] => []
  | wizard, report :: rest =>
    let (next, answer) := wizard.handle report
    { report, answer, state := next.state } :: course next rest

theorem course_cons (wizard : ContextWizard) (report : Report) (rest : List Report) :
    wizard.course (report :: rest) =
      { report, answer := (wizard.handle report).2, state := (wizard.handle report).1.state } ::
        (wizard.handle report).1.course rest := rfl

theorem failed_of_course {reason : String} {reports : List Report} {turn : Turn}
    (hturn : turn ∈ ({ settings, state := .failed reason } : ContextWizard).course reports) :
    turn.Failed := by
  induction reports generalizing reason with
  | nil => cases hturn
  | cons report rest ih =>
    rcases handle_cases settings (.failed reason) report with ⟨_, _, hadvances⟩ | ⟨reason', hfail⟩
    · exact absurd hadvances not_advances_failed
    · rw [course_cons, hfail] at hturn
      rcases List.mem_cons.1 hturn with rfl | hrest
      · exact ⟨reason', rfl, rfl⟩
      · exact ih hrest

/-- From any state a wizard goes a way, as far as the reports do, and then fails for good. -/
theorem course_from (settings : ContextSettings) (state : State) (reports : List Report) :
    ∃ steps done failures, Way settings state steps ∧
      ({ settings, state } : ContextWizard).course reports = done ++ failures ∧
      done.Forall₂ Turn.Took steps ∧
      (∀ turn ∈ failures, turn.Failed) ∧
      ∀ turn ∈ failures.head?, ∀ action,
        ¬ Way settings state (steps ++ [(turn.report, action)]) := by
  induction reports generalizing state with
  | nil =>
    refine ⟨[], [], [], .nil state, rfl, .nil, List.forall_mem_nil _, fun turn hturn ↦ ?_⟩
    cases hturn
  | cons report rest ih =>
    rw [course_cons]
    rcases handle_cases settings state report with ⟨action, after, hadvances⟩ | ⟨reason, hfail⟩
    · obtain ⟨steps, done, failures, hway, hcourse, htook, hfailed, hstray⟩ := ih after
      let turn : Turn := { report, answer := .ok action, state := after }
      refine ⟨(report, action) :: steps, turn :: done, failures, .cons hadvances hway, ?_,
        .cons ⟨rfl, rfl⟩ htook, hfailed, fun stray hmem answer hmore ↦ ?_⟩
      · rw [hadvances.handle, hcourse, List.cons_append]
      · exact hstray stray hmem answer (hmore.of_cons hadvances)
    · rw [hfail]
      refine ⟨[], [], _, .nil state, rfl, .nil, ?_, ?_⟩
      · intro other hother
        rcases List.mem_cons.1 hother with rfl | hrest
        · exact ⟨reason, rfl, rfl⟩
        · exact failed_of_course hrest
      · rintro other ⟨⟩ action hmore
        cases hmore with
        | cons hadvances _ =>
          rw [hadvances.handle] at hfail
          cases congrArg Prod.snd hfail

/-- Whether these turns are those of a setup as far as they are answered with an action, and fail
from the first report on that no setup has there. -/
def InSequence (settings : ContextSettings) (turns : List Turn) : Prop :=
  ∃ setup steps done failures, Setup settings setup ∧ steps <+: setup ∧
    turns = done ++ failures ∧
    done.Forall₂ Turn.Took steps ∧
    (∀ turn ∈ failures, turn.Failed) ∧
    ∀ turn ∈ failures.head?, ∀ setup, Setup settings setup → ∀ action,
      ¬ steps ++ [(turn.report, action)] <+: setup

/-- Whatever is reported to a new wizard, it goes the way of a setup, as far as the reports do:
listing, creating a context if none for the internet is listed, configuring the first one that is
or the one created, and finishing with it, each once. Everything from the first report out of this
order on fails. -/
theorem course_in_sequence (settings : ContextSettings) (reports : List Report) :
    InSequence settings (({ settings } : ContextWizard).course reports) := by
  obtain ⟨steps, done, failures, hway, hcourse, htook, hfailed, hstray⟩ :=
    course_from settings .idle reports
  obtain ⟨setup, hsetup, hprefix⟩ := hway.exists_setup
  refine ⟨setup, steps, done, failures, hsetup, hprefix, hcourse, htook, hfailed, ?_⟩
  intro turn hturn other hother action hmore
  exact hstray turn hturn action (hother.way.of_prefix hmore)

/-- Of two contexts for the internet the first is taken, and a second start fails. -/
theorem course_in_sequence_first :
    let settings : ContextSettings := { name := some "Mobile", accessPointName := "apn.example" }
    let messages : CellularContext := { path := ⟨"/context1", by decide⟩, kind := some "mms" }
    let first : CellularContext := { path := ⟨"/context2", by decide⟩, kind := some "internet" }
    let second : CellularContext := { path := ⟨"/context3", by decide⟩, kind := some "internet" }
    let turns := ({ settings } : ContextWizard).course
      [.start, .listed [messages, first, second], .configured, .start]
    turns.map (·.answer.toOption) =
        [some .listContexts,
          some (.configure first.path [("Name", "Mobile"), ("AccessPointName", "apn.example"),
            ("Username", ""), ("Password", "")]),
          some (.finished first.path), none] ∧
      InSequence settings turns := by
  intro settings messages first second turns
  exact ⟨by decide, course_in_sequence settings _⟩

end ContextWizard

end Uplink
