import Uplink.Proofs.Service.Transition
import Uplink.Proofs.Wire.Dictionary
import Uplink.Service.Request
/-!
# Settings that are read back

What is written to a service is what is read back of it. The network daemon reports a setting under
the name and in the form in which it was written, and the report then enters the configured side of
the service and nothing else. Reading back drops empty texts, and settings with nothing left in them
are no settings. What was read once is written and read again unchanged.
-/

namespace Uplink

open Wire (Value Properties)

/-- The entry of a dictionary for a field that may be absent. -/
theorem lastValue?_field {α : Type} (name : String) (field : Option α) (write : α → Value)
    (key : String) :
    lastValue? (field.map fun held ↦ (name, write held)).toList key =
      if name = key then field.map write else none := by
  cases field with
  | none => exact (ite_self none).symm
  | some held =>
    change Option.or none _ = _
    rw [Option.none_or]
    rfl

/-- What is left out when it is empty. -/
theorem filter_some_eq_ite {α : Type} [DecidableEq α] {isEmpty : α → Bool} {empty : α}
    (h : ∀ held, isEmpty held = true ↔ held = empty) (held : α) :
    ((some held).filter fun held ↦ !isEmpty held) = if held = empty then none else some held := by
  rw [Option.filter_some]
  simp only [Bool.not_eq_true', ← h]
  cases isEmpty held <;> rfl

namespace Wire.Value

theorem nonemptyText?_written (field : Option String) :
    ((field.map text).map variant).bind nonemptyText? = field.filter (· ≠ "") := by
  cases field with
  | none => rfl
  | some held =>
    change (variant (text held)).nonemptyText? = _
    simp only [nonemptyText?, text?, scalar?_variant]
    change (text held).text?.filter _ = _
    rw [text?_text]

theorem octet?_written (field : Option UInt8) :
    ((field.map byte).map variant).bind octet? = field := by
  cases field with
  | none => rfl
  | some held =>
    change (variant (byte held)).octet? = _
    simp only [octet?, scalar?_variant]
    exact octet?_byte held

/-- A text that was read is not empty. -/
theorem filter_nonemptyText? (found : Option Value) :
    (found.bind nonemptyText?).filter (· ≠ "") = found.bind nonemptyText? := by
  cases found with
  | none => rfl
  | some value =>
    change (value.text?.filter _).filter _ = value.text?.filter _
    rw [Option.filter_filter]
    simp only [Bool.and_self]

end Wire.Value

namespace IpSettings

/-- The settings without empty texts. -/
def trimmed (settings : IpSettings) : IpSettings :=
  { settings with
    method := settings.method.filter (· ≠ "")
    address := settings.address.filter (· ≠ "")
    netmask := settings.netmask.filter (· ≠ "")
    gateway := settings.gateway.filter (· ≠ "") }

/-- The form in which settings are read back: without empty texts, and none if nothing is left. -/
def normal? (settings : IpSettings) : Option IpSettings :=
  if settings.trimmed = {} then none else some settings.trimmed

theorem isEmpty_iff {settings : IpSettings} : settings.isEmpty = true ↔ settings = {} := by
  obtain ⟨method, address, netmask, prefixLength, gateway⟩ := settings
  simp [isEmpty, and_assoc]

theorem ofValue?_eq_some_iff {value : Value} {settings : IpSettings} :
    ofValue? value = some settings ↔
      ∃ properties, value.properties? = some properties ∧ ofProperties properties = settings ∧
        settings ≠ {} := by
  unfold ofValue?
  simp only [Option.filter_eq_some_iff, Option.map_eq_some_iff, Bool.not_eq_true', ne_eq,
    ← isEmpty_iff, Bool.not_eq_true, ← and_assoc, exists_and_right]

/-- What is written is read back in its normal form. -/
theorem ofValue?_toValue (settings : IpSettings) :
    ofValue? settings.toValue = settings.normal? := by
  obtain ⟨properties, hread, hfound⟩ := Value.exists_properties?_ofProperties <|
    (settings.method.map fun text ↦ ("Method", Value.text text)).toList ++
    (settings.address.map fun text ↦ ("Address", Value.text text)).toList ++
    (settings.netmask.map fun text ↦ ("Netmask", Value.text text)).toList ++
    (settings.prefixLength.map fun length ↦ ("PrefixLength", Value.byte length)).toList ++
    (settings.gateway.map fun text ↦ ("Gateway", Value.text text)).toList
  -- Every name is written at most once, so that looking it up passes over all other fields.
  have htrimmed : ofProperties properties = settings.trimmed := by
    simp only [ofProperties, trimmed, hfound, lastValue?_append, lastValue?_field, String.reduceEq,
      reduceIte, Option.none_or, Option.or_none, Option.bind_eq_bind, Value.nonemptyText?_written,
      Value.octet?_written]
  unfold ofValue? toValue normal?
  rw [hread, Option.map_some, htrimmed, filter_some_eq_ite fun _ ↦ isEmpty_iff]

theorem normal?_of_ofValue? {value : Value} {settings : IpSettings}
    (h : ofValue? value = some settings) : settings.normal? = some settings := by
  obtain ⟨properties, -, rfl, hleft⟩ := ofValue?_eq_some_iff.1 h
  have htrimmed : (ofProperties properties).trimmed = ofProperties properties := by
    simp only [trimmed, ofProperties, Option.bind_eq_bind, Value.filter_nonemptyText?]
  rw [normal?, htrimmed, if_neg hleft]

end IpSettings

namespace ProxySettings

/-- The settings without empty texts. -/
def trimmed (settings : ProxySettings) : ProxySettings :=
  { settings with
    method := settings.method.filter (· ≠ "")
    url := settings.url.filter (· ≠ "") }

/-- The form in which settings are read back: without empty texts, and none if nothing is left. -/
def normal? (settings : ProxySettings) : Option ProxySettings :=
  if settings.trimmed = {} then none else some settings.trimmed

theorem isEmpty_iff {settings : ProxySettings} : settings.isEmpty = true ↔ settings = {} := by
  obtain ⟨method, url, servers, excludes⟩ := settings
  simp [isEmpty, and_assoc]

theorem ofValue?_eq_some_iff {value : Value} {settings : ProxySettings} :
    ofValue? value = some settings ↔
      ∃ properties, value.properties? = some properties ∧ ofProperties properties = settings ∧
        settings ≠ {} := by
  unfold ofValue?
  simp only [Option.filter_eq_some_iff, Option.map_eq_some_iff, Bool.not_eq_true', ne_eq,
    ← isEmpty_iff, Bool.not_eq_true, ← and_assoc, exists_and_right]

theorem lastValue?_listEntry (name : String) (texts : List String) (key : String) :
    lastValue? (listEntry name texts) key =
      if name = key then (some texts).filter (· ≠ []) |>.map Value.ofTexts else none := by
  cases texts with
  | nil => exact (ite_self none).symm
  | cons text rest =>
    change Option.or none _ = _
    rw [Option.none_or]
    rfl

/-- A list that was left out because it is empty is read back as empty. -/
theorem texts?_written (texts : List String) :
    (((((some texts).filter (· ≠ [])).map Value.ofTexts).map Value.variant).bind
      Value.texts?).getD [] = texts := by
  cases texts with
  | nil => rfl
  | cons text rest =>
    change ((Value.variant (Value.ofTexts (text :: rest))).texts?).getD [] = _
    have hread := Value.texts?_ofTexts (text :: rest)
    simp only [Value.texts?, Value.items?, Value.peel_variant] at hread ⊢
    rw [hread, Option.getD_some]

/-- What is written is read back in its normal form. -/
theorem ofValue?_toValue (settings : ProxySettings) :
    ofValue? settings.toValue = settings.normal? := by
  obtain ⟨properties, hread, hfound⟩ := Value.exists_properties?_ofProperties <|
    (settings.method.map fun text ↦ ("Method", Value.text text)).toList ++
    (settings.url.map fun text ↦ ("URL", Value.text text)).toList ++
    listEntry "Servers" settings.servers ++
    listEntry "Excludes" settings.excludes
  have htrimmed : ofProperties properties = settings.trimmed := by
    simp only [ofProperties, trimmed, hfound, lastValue?_append, lastValue?_field,
      lastValue?_listEntry, String.reduceEq, reduceIte, Option.none_or, Option.or_none,
      Option.bind_eq_bind, Value.nonemptyText?_written, texts?_written]
  unfold ofValue? toValue normal?
  rw [hread, Option.map_some, htrimmed, filter_some_eq_ite fun _ ↦ isEmpty_iff]

theorem normal?_of_ofValue? {value : Value} {settings : ProxySettings}
    (h : ofValue? value = some settings) : settings.normal? = some settings := by
  obtain ⟨properties, -, rfl, hleft⟩ := ofValue?_eq_some_iff.1 h
  have htrimmed : (ofProperties properties).trimmed = ofProperties properties := by
    simp only [trimmed, ofProperties, Option.bind_eq_bind, Value.filter_nonemptyText?]
  rw [normal?, htrimmed, if_neg hleft]

end ProxySettings

/-- A setting that can be requested of a service. -/
inductive ServiceSetting where
  | ipv4 (settings : IpSettings)
  | ipv6 (settings : IpSettings)
  | proxy (settings : ProxySettings)
  | nameservers (servers : List String)
  | autoConnect (enabled : Bool)
  | passphrase (text : String)

namespace ServiceSetting

def request : ServiceSetting → ServiceRequest
  | ipv4 settings => .configureIpv4 settings
  | ipv6 settings => .configureIpv6 settings
  | proxy settings => .configureProxy settings
  | nameservers servers => .configureNameservers servers
  | autoConnect enabled => .setAutoConnect enabled
  | passphrase text => .submitPassphrase text

/-- The service with this setting as it is read back. -/
def note (service : Service) : ServiceSetting → Service
  | ipv4 settings => { service with ipv4 := { service.ipv4 with configured := settings.normal? } }
  | ipv6 settings => { service with ipv6 := { service.ipv6 with configured := settings.normal? } }
  | proxy settings =>
    { service with proxy := { service.proxy with configured := settings.normal? } }
  | nameservers servers =>
    { service with
      nameservers :=
        { service.nameservers with configured := if servers = [] then none else some servers } }
  | autoConnect enabled => { service with autoConnect := enabled }
  | passphrase text => { service with passphrase := if text = "" then none else some text }

/-- The property that a setting is written to. -/
def key : ServiceSetting → String
  | ipv4 _ => "IPv4.Configuration"
  | ipv6 _ => "IPv6.Configuration"
  | proxy _ => "Proxy.Configuration"
  | nameservers _ => "Nameservers.Configuration"
  | autoConnect _ => "AutoConnect"
  | passphrase _ => "Passphrase"

def value : ServiceSetting → Value
  | ipv4 settings => settings.toValue
  | ipv6 settings => settings.toValue
  | proxy settings => settings.toValue
  | nameservers servers => .ofTexts servers
  | autoConnect enabled => .bool enabled
  | passphrase text => .text text

theorem request_eq (setting : ServiceSetting) :
    setting.request = .set setting.key setting.value := by
  cases setting <;> rfl

theorem key_plain (setting : ServiceSetting) :
    ServiceRoster.needsRefetch setting.key = false ∧ setting.key ≠ "State" := by
  cases setting <;> simp [key, ServiceRoster.needsRefetch]

theorem setProperty_value (service : Service) (setting : ServiceSetting) :
    service.setProperty setting.key setting.value = setting.note service := by
  cases setting with
  | ipv4 settings =>
    change { service with ipv4 := _ } = _
    rw [value, IpSettings.ofValue?_toValue]
    rfl
  | ipv6 settings =>
    change { service with ipv6 := _ } = _
    rw [value, IpSettings.ofValue?_toValue]
    rfl
  | proxy settings =>
    change { service with proxy := _ } = _
    rw [value, ProxySettings.ofValue?_toValue]
    rfl
  | nameservers servers =>
    change { service with nameservers := _ } = _
    rw [value, nonemptyTexts?, Value.texts?_ofTexts]
    cases servers <;> rfl
  | autoConnect enabled =>
    change { service with autoConnect := _ } = _
    rw [value, Value.bool?_bool]
    rfl
  | passphrase text =>
    change { service with passphrase := _ } = _
    rw [value, Value.nonemptyText?, Value.text?_text, note, Option.filter_some]
    by_cases hempty : text = "" <;> simp [hempty]

end ServiceSetting

namespace ServiceRoster

variable {roster : ServiceRoster} {path : ObjectPath} {entry : Entry}

/-- A change of a plain property is noted in the entry of the service and nowhere else. -/
theorem change_of_plain (hentry : roster.get? path = some entry) {key : String}
    (hkey : needsRefetch key = false) (hstate : key ≠ "State") (value : Value) :
    roster.change path key value =
      (roster.put ((entry.record key value).setProperty key value), .applied) := by
  unfold change
  rw [hentry]
  dsimp only
  rw [if_neg (by simp [hkey]), if_neg hstate]

theorem service?_put (hentry : roster.get? path = some entry) {changed : Entry}
    (hpath : changed.path = path) (other : ObjectPath) :
    (roster.put changed).service? other =
      if other = path then some changed.service else roster.service? other := by
  unfold service?
  split
  next hsame => rw [hsame, get?_put_self hentry hpath, Option.map_some]
  next hother =>
    have hne : changed.path ≠ other := by
      rw [hpath]
      exact Ne.symm hother
    rw [get?_put_of_ne hne]

/-- What is written to a service, reported as a change of it, is noted in its normal form, and
nothing else of any service changes; and settings that were read are read back as they are. -/
theorem change_requested (roster : ServiceRoster) {path : ObjectPath}
    (hpath : path ∈ roster.paths) :
    (∀ setting : ServiceSetting, ∃ key value,
      setting.request.call path.text =
          .setProperty path.text ServiceRequest.serviceInterface key value ∧
        (roster.change path key value).2 = .applied ∧
        (roster.change path key value).1.paths = roster.paths ∧
        (roster.change path key value).1.generation = roster.generation ∧
        (roster.change path key value).1.lastActive = roster.lastActive ∧
        ∀ other, (roster.change path key value).1.service? other =
          if other = path then (roster.service? path).map fun service ↦ setting.note service
          else roster.service? other) ∧
    (∀ value settings, IpSettings.ofValue? value = some settings →
      IpSettings.ofValue? settings.toValue = some settings) ∧
    (∀ value settings, ProxySettings.ofValue? value = some settings →
      ProxySettings.ofValue? settings.toValue = some settings) := by
  refine ⟨fun setting ↦ ⟨setting.key, setting.value, ?_, ?_⟩, fun value settings hread ↦ ?_,
    fun value settings hread ↦ ?_⟩
  · rw [setting.request_eq]
    rfl
  · obtain ⟨entry, hentry⟩ := exists_get?_of_mem_paths hpath
    obtain ⟨hkey, hstate⟩ := setting.key_plain
    rw [change_of_plain hentry hkey hstate]
    refine ⟨rfl, paths_put .., rfl, rfl, fun other ↦ ?_⟩
    have hnoted : (((entry.record setting.key setting.value).setProperty setting.key
        setting.value).path) = path :=
      (entry.path_noted ..).trans (path_of_get? hentry)
    have hservice : roster.service? path = some entry.service := by
      rw [service?, hentry, Option.map_some]
    rw [service?_put hentry hnoted, hservice, Option.map_some, ← setting.setProperty_value]
    rfl
  · rw [IpSettings.ofValue?_toValue, IpSettings.normal?_of_ofValue? hread]
  · rw [ProxySettings.ofValue?_toValue, ProxySettings.normal?_of_ofValue? hread]

/-- An address is given by hand to a service that has one in effect; the gateway is left empty. -/
theorem change_requested_manual :
    let office : ObjectPath := ⟨"/office", by decide⟩
    let service : Service := { path := office, index := 0, ipv6 := { effective := some .auto } }
    let roster : ServiceRoster := { entries := [{ service, generation := 1 }], generation := 1 }
    let requested : IpSettings := .manualV6 "2001:db8::7" 24 (some "")
    office ∈ roster.paths ∧ ∃ key value,
      (ServiceRequest.configureIpv6 requested).call "/office" =
          .setProperty "/office" ServiceRequest.serviceInterface key value ∧
        (roster.change office key value).1.service? office =
          some { service with
            ipv6 :=
              { effective := some .auto, configured := some (.manualV6 "2001:db8::7" 24 none) } } := by
  intro office service roster requested
  have htracked : office ∈ roster.paths := by decide
  obtain ⟨key, value, hcall, -, -, -, -, hnoted⟩ :=
    (change_requested roster htracked).1 (.ipv6 requested)
  have hnormal : requested.normal? = some (.manualV6 "2001:db8::7" 24 none) := by decide
  have hservice : roster.service? office = some service := by decide
  refine ⟨htracked, key, value, hcall, ?_⟩
  rw [hnoted office, if_pos rfl, hservice, Option.map_some, ServiceSetting.note, hnormal]

end ServiceRoster

end Uplink
