import Mathlib.Data.Finset.Basic
import Mathlib.Data.Finset.Lattice.Lemmas
import Mathlib.Tactic.Tauto
import Uplink.Live.Client
import Uplink.Proofs.Tracker.Subject
/-!
# What actions do to the watches

The actions of the tracker begin and end watches, which are known by their keys. A chain of actions
leads from one set of watches to another if each of them fits where it is taken: what it begins is
not there yet, and what it ends is there. The client that carries out an action begins and ends just
the watches that the action says.
-/

namespace Uplink

open Live (WatchKey)

namespace Action

/-- The watches after an action. -/
def watch (keys : Finset WatchKey) : Action → Finset WatchKey
  | attachService ticket => insert (.service ticket.path) keys
  | detachService path => keys.erase (.service path)
  | attachModem path => insert (.modem path) keys
  | detachModem path => (keys.erase (.sim path)).erase (.modem path)
  | attachSim ticket => insert (.sim ticket.path) keys
  | detachSim path => keys.erase (.sim path)
  | _ => keys

/-- Whether an action begins a watch that is not there yet, or ends one that is there. A modem that
goes may have had no SIM manager. -/
def Fits (keys : Finset WatchKey) : Action → Prop
  | attachService ticket => .service ticket.path ∉ keys
  | detachService path => .service path ∈ keys
  | attachModem path => .modem path ∉ keys
  | detachModem path => .modem path ∈ keys
  | attachSim ticket => .sim ticket.path ∉ keys
  | detachSim path => .sim path ∈ keys
  | _ => True

/-- Actions that lead from these watches to those, each of which fits where it is taken. -/
inductive Leads : Finset WatchKey → List Action → Finset WatchKey → Prop
  | nil (keys : Finset WatchKey) : Leads keys [] keys
  | cons {keys after : Finset WatchKey} {action : Action} {actions : List Action}
    (hfits : action.Fits keys) (hrest : Leads (action.watch keys) actions after) :
    Leads keys (action :: actions) after

variable {before between after : Finset WatchKey} {actions more : List Action}

theorem Leads.trans (h : Leads before actions between) (h' : Leads between more after) :
    Leads before (actions ++ more) after := by
  induction h with
  | nil => exact h'
  | cons hfits _ ih => exact .cons hfits (ih h')

theorem Leads.single {action : Action} (hfits : action.Fits before)
    (hwatch : after = action.watch before) : Leads before [action] after := by
  rw [hwatch]
  exact .cons hfits (.nil _)

theorem Leads.of_eq (h : after = before) : Leads before [] after := by
  rw [h]
  exact .nil before

theorem Leads.foldl_watch (h : Leads before actions after) :
    actions.foldl watch before = after := by
  induction h with
  | nil => rfl
  | cons _ _ ih => exact ih

/-- Each of the actions fits the watches that those before it leave. -/
theorem Leads.fits (h : Leads before actions after) {earlier : List Action} {action : Action}
    (hplace : earlier ++ [action] <+: actions) : action.Fits (earlier.foldl watch before) := by
  induction h generalizing earlier with
  | nil => simp at hplace
  | cons hfits _ ih =>
    cases earlier with
    | nil =>
      obtain ⟨rfl, -⟩ := List.cons_prefix_cons.1 hplace
      exact hfits
    | cons first earlier =>
      obtain ⟨rfl, hrest⟩ := List.cons_prefix_cons.1 hplace
      exact ih hrest

/-- Calls to a SIM touch no watch. -/
theorem leads_calls (h : ∀ action ∈ actions, action.subject = .calls) :
    Leads before actions before := by
  induction actions with
  | nil => exact .nil before
  | cons action rest ih =>
    obtain ⟨haction, hrest⟩ := List.forall_mem_cons.1 h
    have hkeep : action.Fits before ∧ action.watch before = before := by
      cases action with
      | simCall call => exact ⟨trivial, rfl⟩
      | _ => cases haction
    refine .cons hkeep.1 ?_
    rw [hkeep.2]
    exact ih hrest

theorem leads_detachServices {paths : List ObjectPath} (hdistinct : paths.Nodup)
    (hthere : ∀ path ∈ paths, .service path ∈ before) :
    Leads before (paths.map .detachService) (before \ (paths.map WatchKey.service).toFinset) := by
  induction paths generalizing before with
  | nil => exact .of_eq (by simp)
  | cons path rest ih =>
    obtain ⟨hfresh, hrest⟩ := List.nodup_cons.1 hdistinct
    have hlater : ∀ other ∈ rest, .service other ∈ before.erase (.service path) := by
      intro other hother
      refine Finset.mem_erase.2 ⟨?_, hthere other (List.mem_cons_of_mem _ hother)⟩
      rintro ⟨⟩
      exact hfresh hother
    have hkeys : before \ ((path :: rest).map WatchKey.service).toFinset =
        before.erase (.service path) \ (rest.map WatchKey.service).toFinset := by
      ext key
      simp only [List.map_cons, List.toFinset_cons, Finset.mem_sdiff, Finset.mem_insert,
        Finset.mem_erase]
      tauto
    rw [hkeys]
    exact .cons (hthere path List.mem_cons_self) (ih hrest hlater)

theorem leads_attachServices {tickets : List Ticket} (hdistinct : (tickets.map (·.path)).Nodup)
    (hnew : ∀ ticket ∈ tickets, .service ticket.path ∉ before) :
    Leads before (tickets.map .attachService)
      (before ∪ (tickets.map fun ticket ↦ WatchKey.service ticket.path).toFinset) := by
  induction tickets generalizing before with
  | nil => exact .of_eq (by simp)
  | cons ticket rest ih =>
    obtain ⟨hfresh, hrest⟩ := List.nodup_cons.1 hdistinct
    have hlater : ∀ other ∈ rest, .service other.path ∉ insert (.service ticket.path) before := by
      intro other hother hmem
      rcases Finset.mem_insert.1 hmem with hsame | hthere
      · have hpath : other.path = ticket.path := WatchKey.service.inj hsame
        exact hfresh (List.mem_map.2 ⟨other, hother, hpath⟩)
      · exact hnew other (List.mem_cons_of_mem _ hother) hthere
    have hkeys :
        before ∪ ((ticket :: rest).map fun ticket ↦ WatchKey.service ticket.path).toFinset =
          insert (.service ticket.path) before ∪
          (rest.map fun ticket ↦ WatchKey.service ticket.path).toFinset := by
      rw [List.map_cons, List.toFinset_cons, Finset.union_insert, Finset.insert_union]
    rw [hkeys]
    exact .cons (hnew ticket List.mem_cons_self) (ih hrest hlater)

end Action

namespace Live.Client

/-- The keys of all watches. -/
def keys (client : Client) : Finset WatchKey := (client.watches.map (·.key)).toFinset

theorem mem_keys {client : Client} {key : WatchKey} :
    key ∈ client.keys ↔ ∃ watch ∈ client.watches, watch.key = key := by
  simp [keys]

theorem keys_unwatch (client : Client) (key : WatchKey) :
    (client.unwatch key).keys = client.keys.erase key := by
  ext other
  simp only [Finset.mem_erase, mem_keys, unwatch, List.mem_filter, decide_eq_true_eq]
  grind

theorem keys_fetch (client : Client) (fetch : Fetch) :
    (client.fetch fetch).keys = fetch.key?.elim client.keys fun key ↦ insert key client.keys := by
  unfold Client.fetch
  cases fetch.key? with
  | none => rfl
  | some key =>
    have hkeys : ((client.unwatch key).watches.map (·.key)).toFinset = client.keys.erase key :=
      keys_unwatch client key
    change (((client.unwatch key).watches ++ [({ key } : Watch)]).map (·.key)).toFinset = _
    rw [List.map_append, List.toFinset_append, hkeys]
    ext other
    simp only [List.map_cons, List.map_nil, List.mem_toFinset, List.mem_singleton,
      Finset.mem_union, Finset.mem_erase, Option.elim_some, Finset.mem_insert]
    tauto

/-- The client begins and ends watches as the actions say. -/
theorem keys_execute (client : Client) (action : Action) :
    (client.execute action).keys = action.watch client.keys := by
  cases action with
  | attachService ticket => exact keys_fetch client (.service ticket)
  | detachService path => exact keys_unwatch client (.service path)
  | refetchService ticket => exact keys_fetch client (.serviceAgain ticket)
  | removeProvider path => rfl
  | attachModem path => exact keys_fetch client (.modem path)
  | detachModem path =>
    change ((client.unwatch (.sim path)).unwatch (.modem path)).keys = _
    rw [keys_unwatch, keys_unwatch]
    rfl
  | attachSim ticket => exact keys_fetch client (.sim ticket)
  | detachSim path => exact keys_unwatch client (.sim path)
  | simCall call =>
    unfold execute
    dsimp only
    split <;> rfl

end Live.Client

end Uplink
