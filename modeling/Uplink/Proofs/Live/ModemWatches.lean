import Mathlib.Logic.Function.Basic
import Uplink.Proofs.Live.Watches
import Uplink.Proofs.Modem.Totals
/-!
# The watches of modems

A tracked modem is watched, and so is its SIM manager while it is attached. Of a roster only that
matters here: which modems there are, and whether their SIM managers are attached. Whatever changes
a roster either leaves this as it is and asks for nothing, or changes it for one modem and asks for
the one action that is due.
-/

namespace Uplink

open Wire (Value Properties)
open Live (WatchKey)
open Uplink.Action (Leads)

/-- The watches of the services at these paths, of these modems and of the SIM managers that are
attached to them. -/
def subscriptions (services : List ObjectPath) (modems : List Modem) : Finset WatchKey :=
  (services.map WatchKey.service).toFinset ∪
    (modems.map fun modem ↦ WatchKey.modem modem.path).toFinset ∪
    ((modems.filter (·.hasSimManager)).map fun modem ↦ WatchKey.sim modem.path).toFinset

@[simp] theorem service_mem_subscriptions {services : List ObjectPath} {modems : List Modem}
    {path : ObjectPath} : .service path ∈ subscriptions services modems ↔ path ∈ services := by
  simp [subscriptions]

/-- The action that is due when the modem at this path comes or goes, or its SIM manager does. -/
inductive Action.Due (path : ObjectPath) : Option Bool → Option Bool → Action → Prop
  | modemCame : Due path none (some false) (.attachModem path)
  | managerCame (generation : Nat) :
    Due path (some false) (some true) (.attachSim ⟨path, generation⟩)
  | managerWent : Due path (some true) (some false) (.detachSim path)
  | modemWent (attached : Bool) : Due path (some attached) none (.detachModem path)

namespace ModemRoster

variable {roster roster' : ModemRoster} {entry : Entry} {path : ObjectPath}
  {services : List ObjectPath}

/-- Whether the SIM manager of the modem at this path is attached, if one is tracked there. -/
def manager? (roster : ModemRoster) (path : ObjectPath) : Option Bool :=
  (roster.find? path.text).map (·.hasSimManager)

theorem manager?_eq (roster : ModemRoster) (path : ObjectPath) :
    roster.manager? path = (roster.entries.get? path).map (·.modem.hasSimManager) := by
  unfold manager? find?
  rw [Option.map_map]
  rfl

theorem manager?_of_get? (h : roster.entries.get? path = some entry) :
    roster.manager? path = some entry.modem.hasSimManager := by
  rw [manager?_eq, h]
  rfl

/-- One entry comes, goes or changes. -/
theorem manager?_update {value : Option Entry}
    (h : ∀ text, roster'.entries.find? text =
      if path.text = text then value else roster.entries.find? text) :
    roster'.manager? =
      Function.update roster.manager? path (value.map (·.modem.hasSimManager)) := by
  funext other
  rw [manager?_eq, get?_update h, Function.update_apply, manager?_eq]
  split <;> rfl

/-- An entry is changed in its place, and its SIM manager stays as it is. -/
theorem Holds.manager?_eq (h : roster.Holds entry) {changed : Entry}
    (hfind : ∀ text, roster'.entries.find? text =
      if entry.modem.path.text = text then some changed else roster.entries.find? text)
    (hmanager : changed.modem.hasSimManager = entry.modem.hasSimManager) :
    roster'.manager? = roster.manager? := by
  rw [manager?_update hfind, Option.map_some, hmanager, ← manager?_of_get? h]
  exact Function.update_eq_self _ _

theorem Holds.manager?_describe (h : roster.Holds entry) {modem : Modem}
    (hsame : entry.modem.SameSim modem) :
    (roster.put { entry with modem }).manager? = roster.manager? := by
  have hfind := find?_put roster { entry with modem }
  dsimp only at hfind
  rw [← hsame.path] at hfind
  exact h.manager?_eq hfind hsame.hasSimManager.symm

theorem Keyed.modem_mem_subscriptions (hkeyed : roster.Keyed) :
    .modem path ∈ subscriptions services roster.modems ↔ roster.manager? path ≠ none := by
  have hmem : .modem path ∈ subscriptions services roster.modems ↔
      ∃ modem ∈ roster.modems, modem.path = path := by
    simp [subscriptions]
  rw [hmem, manager?, ne_eq, Option.map_eq_none_iff, ← ne_eq, Option.ne_none_iff_exists']
  constructor
  · rintro ⟨modem, hmodem, rfl⟩
    exact ⟨modem, hkeyed.mem_modems_iff.1 hmodem⟩
  · rintro ⟨modem, hfind⟩
    obtain ⟨hmodem, hpath⟩ := hkeyed.mem_modems_of_find? hfind
    exact ⟨modem, hmodem, ObjectPath.ext_text hpath⟩

theorem Keyed.sim_mem_subscriptions (hkeyed : roster.Keyed) :
    .sim path ∈ subscriptions services roster.modems ↔ roster.manager? path = some true := by
  have hmem : .sim path ∈ subscriptions services roster.modems ↔
      ∃ modem ∈ roster.modems, modem.hasSimManager = true ∧ modem.path = path := by
    simp [subscriptions, and_assoc]
  rw [hmem, manager?, Option.map_eq_some_iff]
  constructor
  · rintro ⟨modem, hmodem, hmanager, rfl⟩
    exact ⟨modem, hkeyed.mem_modems_iff.1 hmodem, hmanager⟩
  · rintro ⟨modem, hfind, hmanager⟩
    obtain ⟨hmodem, hpath⟩ := hkeyed.mem_modems_of_find? hfind
    exact ⟨modem, hmodem, hmanager, ObjectPath.ext_text hpath⟩

/-- Rosters that agree on which modems there are, and on which SIM managers are attached. -/
theorem Keyed.subscriptions_congr (hkeyed : roster.Keyed) (hkeyed' : roster'.Keyed)
    (hsame : roster'.manager? = roster.manager?) :
    subscriptions services roster'.modems = subscriptions services roster.modems := by
  ext key
  cases key with
  | service path => rw [service_mem_subscriptions, service_mem_subscriptions]
  | modem path => rw [hkeyed'.modem_mem_subscriptions, hkeyed.modem_mem_subscriptions, hsame]
  | sim path => rw [hkeyed'.sim_mem_subscriptions, hkeyed.sim_mem_subscriptions, hsame]
  | manager => simp [subscriptions]
  | modemManager => simp [subscriptions]

/-- The action that is due changes the watches as the modems changed. -/
theorem Keyed.leads_of_due (hkeyed : roster.Keyed) (hkeyed' : roster'.Keyed)
    {before after : Option Bool} {action : Action} (hdue : Action.Due path before after action)
    (hbefore : roster.manager? path = before)
    (hafter : roster'.manager? = Function.update roster.manager? path after) :
    Leads (subscriptions services roster.modems) [action]
      (subscriptions services roster'.modems) := by
  refine .single ?_ ?_
  · cases hdue <;>
      simp [Action.Fits, hkeyed.modem_mem_subscriptions, hkeyed.sim_mem_subscriptions, hbefore]
  · ext key
    cases key with
    | service other => cases hdue <;> simp [Action.watch]
    | modem other =>
      cases hdue <;>
        simp only [Action.watch, Finset.mem_insert, Finset.mem_erase,
          hkeyed.modem_mem_subscriptions, hkeyed'.modem_mem_subscriptions, hafter,
          Function.update_apply] <;>
        grind
    | sim other =>
      cases hdue <;>
        simp only [Action.watch, Finset.mem_insert, Finset.mem_erase,
          hkeyed.sim_mem_subscriptions, hkeyed'.sim_mem_subscriptions, hafter,
          Function.update_apply] <;>
        grind
    | manager => cases hdue <;> simp [subscriptions, Action.watch]
    | modemManager => cases hdue <;> simp [subscriptions, Action.watch]

theorem Keyed.leads_of_same (hkeyed : roster.Keyed) (hkeyed' : roster'.Keyed)
    (hsame : roster'.manager? = roster.manager?) :
    Leads (subscriptions services roster.modems) [] (subscriptions services roster'.modems) :=
  .of_eq (hkeyed.subscriptions_congr hkeyed' hsame)

theorem Holds.manager?_setLock (h : roster.Holds entry) (lock : SimLock) :
    (roster.setLock entry lock).manager? = roster.manager? :=
  h.manager?_eq (find?_put roster _) rfl

/-- The actions of a course turn the watches from those of the first roster into those of the
last. -/
theorem Course.leads {typed : Prop} {actions : List Action}
    (h : Course typed roster actions roster') (hkeyed : roster.Keyed) :
    Leads (subscriptions services roster.modems) actions
      (subscriptions services roster'.modems) := by
  have hkeyed' := h.keyed hkeyed
  induction h with
  | idle hcalls => exact Action.leads_calls hcalls
  | trans h _ ih ih' =>
    have hbetween := h.keyed hkeyed
    exact (ih hkeyed hbetween).trans (ih' hbetween hkeyed')
  | @announce roster path hfresh =>
    have hbefore : roster.manager? path = none := by
      rw [manager?_eq, hfresh]
      rfl
    exact hkeyed.leads_of_due hkeyed' .modemCame hbefore (manager?_update (find?_put _ _))
  | describe hentry hsame => exact hkeyed.leads_of_same hkeyed' (hentry.manager?_describe hsame)
  | count => exact hkeyed.leads_of_same hkeyed' rfl
  | attach hentry hbare =>
    have hbefore := manager?_of_get? hentry
    rw [hbare] at hbefore
    exact hkeyed.leads_of_due hkeyed' (.managerCame _) hbefore (manager?_update (find?_put _ _))
  | detach hentry hattached =>
    have hbefore := manager?_of_get? hentry
    rw [hattached] at hbefore
    exact hkeyed.leads_of_due hkeyed' .managerWent hbefore
      (manager?_update (find?_putCounted _ _ _))
  | report hentry hattached =>
    exact hkeyed.leads_of_same hkeyed' (hentry.manager?_eq (find?_putCounted _ _ _) rfl)
  | change hentry hattached hchange =>
    exact hkeyed.leads_of_same hkeyed' (hentry.manager?_eq (find?_putCounted _ _ _)
      (Counted.hasSimManager_setProperty? hchange))
  | note hentry hattached kind =>
    exact hkeyed.leads_of_same hkeyed' (hentry.manager?_setLock _)
  | submit hentry hattached htyped hsubmit =>
    exact hkeyed.leads_of_same hkeyed' (hentry.manager?_setLock _)
  | complete hentry => exact hkeyed.leads_of_same hkeyed' (hentry.manager?_setLock _)
  | @forget roster entry hentry =>
    have hgone := find?_erase roster entry.modem.path (roster.counted entry).clearSim.totals
    have hafter := manager?_update hgone
    exact hkeyed.leads_of_due hkeyed' (.modemWent _) (manager?_of_get? hentry) hafter

end ModemRoster

end Uplink
