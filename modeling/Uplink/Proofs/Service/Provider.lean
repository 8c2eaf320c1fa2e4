import Uplink.Proofs.Service.Transition
import Uplink.Proofs.Tracker.Subject
/-!
# Providers of VPNs that went down

When the daemon announces that a VPN went idle or failed, its provider is to be removed, once. A
reply that shows the same is taken without a word, and the announcement that it has overtaken then
finds nothing changed.
-/

namespace Uplink

open Wire (Value Properties)

/-- Whether the service is idle or failed and was neither, or was the other of them, before. -/
def Service.GoesDown (before after : Service) : Prop :=
  after.state ≠ before.state ∧ after.state.isDown = true

instance (before after : Service) : Decidable (before.GoesDown after) :=
  inferInstanceAs (Decidable (_ ∧ _))

namespace Service

theorem not_goesDown_of_same {before after : Service} (h : after.state = before.state) :
    ¬ before.GoesDown after :=
  fun hdown ↦ hdown.1 h

end Service

namespace ServiceRoster

variable {roster : ServiceRoster} {path : ObjectPath} {entry : Entry}

/-- What has to follow a change: another fetch, the removal of a provider, or nothing. -/
theorem change_snd (hentry : roster.get? path = some entry) (key : String) (value : Value) :
    (roster.change path key value).2 =
      if needsRefetch key then .refetch ⟨path, roster.generation + 1⟩
      else if (entry.service.setProperty key value).isVpn = true ∧
          entry.service.GoesDown (entry.service.setProperty key value) then .removeProvider path
      else .applied := by
  cases hkey : needsRefetch key with
  | true =>
    rw [change_of_needsRefetch hentry hkey]
    rfl
  | false =>
    rw [if_neg Bool.false_ne_true]
    unfold change
    rw [hentry]
    dsimp only
    rw [if_neg (by simp [hkey])]
    by_cases hstate : key = "State"
    · rw [if_pos hstate]
      have hcondition :
          (((entry.record key value).setProperty key value).service.isVpn &&
              decide (((entry.record key value).setProperty key value).service.state ≠
                entry.service.state) &&
              ((entry.record key value).setProperty key value).service.state.isDown) = true ↔
            (entry.service.setProperty key value).isVpn = true ∧
              entry.service.GoesDown (entry.service.setProperty key value) := by
        rw [Bool.and_eq_true, Bool.and_eq_true, decide_eq_true_iff, and_assoc]
        rfl
      by_cases hdown : (entry.service.setProperty key value).isVpn = true ∧
          entry.service.GoesDown (entry.service.setProperty key value)
      · rw [if_pos (hcondition.2 hdown), if_pos hdown]
      · rw [if_neg (mt hcondition.1 hdown), if_neg hdown]
    · have hsame := Service.not_goesDown_of_same
        (entry.service.state_setProperty_of_ne hstate value)
      rw [if_neg hstate, if_neg (fun hdown ↦ hsame hdown.2)]

end ServiceRoster

namespace Tracker

variable {tracker : Tracker} {event : Event} {path : ObjectPath}

open ServiceRoster (Entry)

theorem actions_changeService_of_some {entry : Entry}
    (hentry : tracker.services.get? path = some entry) (key : String) (value : Value) :
    (tracker.changeService path key value).actions =
      if ServiceRoster.needsRefetch key then
        [.refetchService ⟨path, tracker.services.generation + 1⟩]
      else if (entry.service.setProperty key value).isVpn = true ∧
          entry.service.GoesDown (entry.service.setProperty key value) then
        [.removeProvider path]
      else [] := by
  rw [actions_changeService_eq, ServiceRoster.change_snd hentry, apply_ite ServiceChange.actions,
    apply_ite ServiceChange.actions]
  rfl

/-- Only a change of the service itself asks for the removal of its provider. -/
theorem exists_of_removeProvider_mem
    (h : .removeProvider path ∈ (tracker.handle event).actions) :
    ∃ key value, event = .serviceChanged path key value := by
  have hmanager (state : Tracker) (key : String) (value : Value) :
      ∀ action ∈ (state.setManagerProperty key value).2, action ≠ .removeProvider path := by
    intro action haction
    rcases eq_of_mem_setManagerProperty haction with ⟨_, rfl⟩ | ⟨_, rfl⟩ <;> nofun
  cases event with
  | managerReported properties =>
    have hstep (state : Tracker) (property : String × Value) :
        ∀ action ∈ (state.setManagerProperty property.1 property.2).2,
          action ≠ .removeProvider path :=
      hmanager state property.1 property.2
    have hnever := forall_mem_foldl_collect hstep properties.entries _
      (fun _ hnone ↦ absurd hnone List.not_mem_nil) _ h
    exact absurd rfl hnever
  | managerChanged key value => exact absurd rfl (hmanager tracker key value _ h)
  | serviceChanged changed key value =>
    change _ ∈ (tracker.changeService changed key value).actions at h
    cases hentry : tracker.services.get? changed with
    | none =>
      unfold changeService ServiceRoster.change at h
      rw [hentry] at h
      cases h
    | some entry =>
      rw [actions_changeService_of_some hentry] at h
      split at h
      · cases List.mem_singleton.1 h
      · split at h
        · cases List.mem_singleton.1 h
          exact ⟨key, value, rfl⟩
        · cases h
  | serviceFetched ticket properties => simp [handle] at h
  | passphraseSubmitted changed passphrase => simp [handle] at h
  | serviceForgotten changed => simp [handle] at h
  | shutdown => cases h
  | _ => cases subject_of_mem_handle h

theorem count_removeProvider_of_ne (h : ∀ key value, event ≠ .serviceChanged path key value) :
    (tracker.handle event).actions.count (.removeProvider path) = 0 := by
  apply List.count_eq_zero.2
  intro hmem
  obtain ⟨key, value, rfl⟩ := exists_of_removeProvider_mem hmem
  exact h key value rfl

theorem count_removeProvider_of_takesReply {properties : Properties}
    (htaken : tracker.services.TakesReply path properties event) :
    (tracker.handle event).actions.count (.removeProvider path) = 0 := by
  obtain ⟨ticket, rfl, -⟩ := htaken
  exact count_removeProvider_of_ne nofun

/-- Without a reply, an event asks once for the removal of the provider of a VPN that it takes down,
and else not. -/
theorem count_removeProvider_of_not_takesReply {before after : Service}
    (hbefore : tracker.services.service? path = some before)
    (hafter : (tracker.handle event).tracker.services.service? path = some after)
    (hvpn : after.isVpn = true)
    (hreply : ∀ properties, ¬ tracker.services.TakesReply path properties event) :
    (tracker.handle event).actions.count (.removeProvider path) =
      if before.GoesDown after then 1 else 0 := by
  obtain ⟨earlier, hearlier, rfl⟩ := Option.map_eq_some_iff.1 hbefore
  obtain ⟨later, hlater, rfl⟩ := Option.map_eq_some_iff.1 hafter
  cases becomes_handle hearlier hlater with
  | answered htaken => exact absurd htaken (hreply _)
  | @doubted key value hkey =>
    have hsame := earlier.state_invalidated hkey (tracker.services.generation + 1) value
    change (tracker.changeService path key value).actions.count _ = _
    rw [actions_changeService_of_some hearlier, if_pos hkey,
      if_neg (Service.not_goesDown_of_same hsame)]
    rfl
  | @changed key value hkey =>
    change (earlier.service.setProperty key value).isVpn = true at hvpn
    change (tracker.changeService path key value).actions.count _ =
      if earlier.service.GoesDown (earlier.service.setProperty key value) then 1 else 0
    rw [actions_changeService_of_some hearlier, hkey, if_neg Bool.false_ne_true, hvpn]
    split
    next hdown => rw [if_pos hdown.2, List.count_singleton_self]
    next hnot => rw [if_neg (fun hdown ↦ hnot ⟨rfl, hdown⟩), List.count_nil]
  | commanded hcommand =>
    rw [if_neg (Service.not_goesDown_of_same (earlier.state_withPassphrase _))]
    apply count_removeProvider_of_ne
    rintro key value rfl
    cases hcommand
  | kept _ hchange =>
    rw [if_neg (Service.not_goesDown_of_same (earlier.state_moved _))]
    exact count_removeProvider_of_ne hchange

/-- An event asks once for the removal of the provider of a VPN that it takes down, and else not,
except that a reply never asks for it: exactly then a VPN goes down without a word. -/
theorem removeProvider_once_iff {before after : Service}
    (hbefore : tracker.services.service? path = some before)
    (hafter : (tracker.handle event).tracker.services.service? path = some after)
    (hvpn : after.isVpn = true) :
    let asked := (tracker.handle event).actions.count (.removeProvider path)
    (asked = (if before.GoesDown after then 1 else 0) ↔
      ¬ (before.GoesDown after ∧
        ∃ properties, tracker.services.TakesReply path properties event)) ∧
    ∀ properties, tracker.services.TakesReply path properties event → asked = 0 := by
  intro asked
  have hsilent (properties : Properties)
      (htaken : tracker.services.TakesReply path properties event) : asked = 0 :=
    count_removeProvider_of_takesReply htaken
  refine ⟨?_, hsilent⟩
  by_cases hreply : ∃ properties, tracker.services.TakesReply path properties event
  · obtain ⟨properties, htaken⟩ := hreply
    rw [hsilent properties htaken, and_iff_left ⟨properties, htaken⟩]
    split <;> simp_all
  · have hasked := count_removeProvider_of_not_takesReply hbefore hafter hvpn
      (not_exists.1 hreply)
    exact iff_of_true hasked (fun h ↦ hreply h.2)

/-- The path of a VPN. -/
def onlyVpn : ObjectPath := ⟨"/vpn", by decide⟩

def vpnIn (state : ServiceState) : Service where
  path := onlyVpn
  index := 0
  populated := true
  kind := some .vpn
  state := state

/-- A VPN is up, and is being fetched again. -/
def vpnUp : List Event :=
  [.managerChanged "Services" (.ofTexts ["/vpn"]),
    .serviceFetched ⟨onlyVpn, 1⟩ (.ofPairs [("Type", .text "vpn"), ("State", .text "ready")]),
    .serviceChanged onlyVpn "SetupRequired" (.bool false)]

/-- The announcement that it failed asks for the removal of its provider. -/
theorem removeProvider_once_announced :
    let tracker := run vpnUp
    let event := Event.serviceChanged onlyVpn "State" (.text "failure")
    tracker.services.service? onlyVpn = some (vpnIn .ready) ∧
      (tracker.handle event).tracker.services.service? onlyVpn = some (vpnIn .failure) ∧
      (vpnIn .failure).isVpn = true ∧
      (tracker.handle event).actions.count (.removeProvider onlyVpn) = 1 := by
  intro tracker event
  have hbefore : tracker.services.service? onlyVpn = some (vpnIn .ready) := by decide +kernel
  have hafter : (tracker.handle event).tracker.services.service? onlyVpn =
      some (vpnIn .failure) := by decide +kernel
  have hdown : (vpnIn .ready).GoesDown (vpnIn .failure) := by decide
  have hunanswered : ¬ ((vpnIn .ready).GoesDown (vpnIn .failure) ∧
      ∃ properties, tracker.services.TakesReply onlyVpn properties event) :=
    fun h ↦ h.2.elim ServiceRoster.not_takesReply_serviceChanged
  have honce := (removeProvider_once_iff hbefore hafter rfl).1.2 hunanswered
  rw [if_pos hdown] at honce
  exact ⟨hbefore, hafter, rfl, honce⟩

/-- The reply says that it went idle, before the announcement does: neither of them asks for the
removal of its provider. -/
theorem removeProvider_missed :
    let tracker := run vpnUp
    let reply := Event.serviceFetched ⟨onlyVpn, 2⟩
      (.ofPairs [("Type", .text "vpn"), ("State", .text "idle")])
    let answered := tracker.handle reply
    let announced := answered.tracker.handle (.serviceChanged onlyVpn "State" (.text "idle"))
    tracker.services.service? onlyVpn = some (vpnIn .ready) ∧
      answered.tracker.services.service? onlyVpn = some (vpnIn .idle) ∧
      announced.tracker.services.service? onlyVpn = some (vpnIn .idle) ∧
      (vpnIn .ready).GoesDown (vpnIn .idle) ∧ (vpnIn .idle).isVpn = true ∧
      answered.actions.count (.removeProvider onlyVpn) = 0 ∧
      announced.actions.count (.removeProvider onlyVpn) = 0 := by
  decide +kernel

end Tracker

end Uplink
