import Mathlib.Tactic.Common
import Uplink.Service.Property
/-!
# Reading the properties of a service

A service is read off the last value of each property, one part of the record from each. How the
properties were ordered and which of them were replaced meanwhile leaves no trace, so that a report
and the changes since can be taken together.
-/

namespace Uplink

open Wire (Value Properties)

/-- The last value under each key. -/
def lastValue? : List (String × Value) → String → Option Value
  | [], _ => none
  | (name, value) :: rest, key =>
    (lastValue? rest key).or (if name = key then some value else none)

@[simp] theorem lastValue?_nil (key : String) : lastValue? [] key = none := rfl

theorem lastValue?_append (earlier later : List (String × Value)) (key : String) :
    lastValue? (earlier ++ later) key = (lastValue? later key).or (lastValue? earlier key) := by
  induction earlier with
  | nil => simp
  | cons change rest ih =>
    rw [List.cons_append, lastValue?, ih, lastValue?, Option.or_assoc]

theorem lastValue?_filter_ne (changes : List (String × Value)) (key name : String) :
    lastValue? (changes.filter fun change ↦ change.1 ≠ key) name =
      if key = name then none else lastValue? changes name := by
  induction changes with
  | nil => simp
  | cons change rest ih =>
    rw [List.filter_cons]
    by_cases hkey : change.1 = key
    · rw [if_neg (by simpa using hkey), ih, lastValue?]
      split
      next => rfl
      next hname =>
        rw [if_neg (fun h ↦ hname (hkey.symm.trans h)), Option.or_none]
    · rw [if_pos (by simpa using hkey), lastValue?, ih, lastValue?]
      split
      next hname =>
        rw [if_neg (fun h ↦ hkey (h.trans hname.symm))]
        rfl
      next => rfl

/-- A change that is kept behind all others, in the place of an earlier one, is the last one. -/
theorem lastValue?_record (changes : List (String × Value)) (key : String) (value : Value)
    (name : String) :
    lastValue? (changes.filter (fun change ↦ change.1 ≠ key) ++ [(key, value)]) name =
      lastValue? (changes ++ [(key, value)]) name := by
  rw [lastValue?_append, lastValue?_append, lastValue?_filter_ne]
  simp only [lastValue?, Option.none_or]
  split <;> rfl

theorem lastValue?_eq_none_iff {changes : List (String × Value)} {key : String} :
    lastValue? changes key = none ↔ key ∉ changes.map (·.1) := by
  induction changes with
  | nil => simp
  | cons change rest ih =>
    rw [lastValue?, Option.or_eq_none_iff, ih, List.map_cons, List.mem_cons, not_or, and_comm]
    simp [eq_comm]

theorem Wire.Properties.lookup_eq_none_of_not_mem {entries : List (String × Value)} {key : String}
    (h : key ∉ entries.map (·.1)) : Properties.lookup key entries = none := by
  induction entries with
  | nil => rfl
  | cons entry rest ih =>
    rw [List.map_cons, List.mem_cons, not_or] at h
    rw [Properties.lookup, if_neg (fun hname ↦ h.1 hname.symm)]
    exact ih h.2

theorem Wire.Properties.lastValue?_entries (properties : Properties) (key : String) :
    lastValue? properties.entries key = properties.get? key := by
  obtain ⟨entries, hdistinct⟩ := properties
  change lastValue? entries key = Properties.lookup key entries
  induction entries with
  | nil => rfl
  | cons entry rest ih =>
    obtain ⟨hfresh, htail⟩ := List.nodup_cons.1 hdistinct
    rw [lastValue?, ih htail, Properties.lookup]
    split
    next hname =>
      rw [Properties.lookup_eq_none_of_not_mem (hname ▸ hfresh)]
      rfl
    next => rw [Option.or_none]

/-- After a sequence of writes the last value under a key is found, or what was there before. -/
theorem Wire.Properties.get?_foldl_set (writes : List (String × Value)) (properties : Properties)
    (key : String) :
    (writes.foldl (fun properties write ↦ properties.set write.1 write.2) properties).get? key =
      (lastValue? writes key).or (properties.get? key) := by
  induction writes generalizing properties with
  | nil => rfl
  | cons write rest ih =>
    rw [List.foldl_cons, ih, lastValue?, Option.or_assoc, Properties.get?_set]
    split <;> rfl

namespace Overlay

/-- Both sides read anew, where there is a value for them. -/
def amended {α : Type} (overlay : Overlay α) (read : Value → Option α)
    (effective configured : Option Value) : Overlay α where
  effective := effective.elim overlay.effective read
  configured := configured.elim overlay.configured read

end Overlay

namespace Service

/-- Every part of the record read anew, where there is a value for it. -/
def amended (service : Service) (found : String → Option Value) : Service :=
  { service with
    name := (found "Name").elim service.name Value.nonemptyText?
    kind := (found "Type").elim service.kind fun value ↦ value.text?.map .ofName
    state := (found "State").elim service.state fun value ↦ value.text?.elim .unknown .ofName
    favorite := (found "Favorite").elim service.favorite (·.bool?.getD false)
    autoConnect := (found "AutoConnect").elim service.autoConnect (·.bool?.getD false)
    strength := (found "Strength").elim service.strength Value.octet?
    security := (found "Security").elim service.security fun value ↦
      (value.texts?.getD []).map .ofName
    passphrase := (found "Passphrase").elim service.passphrase Value.nonemptyText?
    passphraseRequired :=
      (found "PassphraseRequired").elim service.passphraseRequired (·.bool?.getD false)
    setupRequired := (found "SetupRequired").elim service.setupRequired (·.bool?.getD false)
    ipv4 := service.ipv4.amended IpSettings.ofValue? (found "IPv4") (found "IPv4.Configuration")
    ipv6 := service.ipv6.amended IpSettings.ofValue? (found "IPv6") (found "IPv6.Configuration")
    nameservers := service.nameservers.amended nonemptyTexts? (found "Nameservers")
      (found "Nameservers.Configuration")
    proxy := service.proxy.amended ProxySettings.ofValue? (found "Proxy")
      (found "Proxy.Configuration")
    immutable := (found "Immutable").elim service.immutable (·.bool?.getD false)
    loginRequired := (found "LoginRequired").elim service.loginRequired (·.bool?.getD false)
    macAddress := (found "Ethernet").elim service.macAddress linkAddress?
    error := (found "Error").elim service.error Value.nonemptyText? }

theorem elim_or {α β : Type} (later earlier : Option α) (rest : β) (read : α → β) :
    later.elim (earlier.elim rest read) read = (later.or earlier).elim rest read := by
  cases later <;> rfl

theorem amended_amended (service : Service) (earlier later : String → Option Value) :
    (service.amended earlier).amended later =
      service.amended fun key ↦ (later key).or (earlier key) := by
  simp only [amended, Overlay.amended, elim_or]

theorem setProperty_eq_amended (service : Service) (key : String) (value : Value) :
    service.setProperty key value =
      service.amended fun name ↦ if key = name then some value else none := by
  unfold setProperty
  split
  case h_23 => simp_all [amended, Overlay.amended]
  all_goals simp [amended, Overlay.amended, Overlay.setEffective, Overlay.setConfigured]

theorem setProperties_eq_amended (service : Service) (properties : List (String × Value)) :
    service.setProperties properties = service.amended (lastValue? properties) := by
  induction properties generalizing service with
  | nil => rfl
  | cons property rest ih =>
    change (service.setProperty property.1 property.2).setProperties rest = _
    rw [ih, setProperty_eq_amended, amended_amended]
    rfl

theorem path_setProperty (service : Service) (key : String) (value : Value) :
    (service.setProperty key value).path = service.path := by
  rw [setProperty_eq_amended]
  rfl

theorem index_setProperty (service : Service) (key : String) (value : Value) :
    (service.setProperty key value).index = service.index := by
  rw [setProperty_eq_amended]
  rfl

/-- The record with everything at rest that is not read off the daemon's reports alone: the path and
the place in the list, whether the service was fetched, and the passphrase. -/
def reported (service : Service) : Service :=
  { service with path := .root, index := 0, populated := false, passphrase := none }

theorem reported_amended (service : Service) (found : String → Option Value) :
    (service.amended found).reported = (service.reported.amended found).reported := rfl

end Service

end Uplink
