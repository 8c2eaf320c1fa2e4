import Mathlib.Data.List.Nodup
import Mathlib.Data.List.Perm.Basic
import Uplink.Proofs.Wire.Dictionary
import Uplink.Sim.Credential
/-!
# Listings of one map

A property map lists its values in some order, and so does a dictionary; the names are distinct, and
the order carries no meaning. Two listings of one map answer every look-up alike, so that whatever
goes by look-ups alone reads the same off both. The attempts left are put down entry by entry, and
come out the same because distinct names are distinct kinds.
-/

namespace Uplink

open Labelled

namespace SortedMap

variable {κ β : Type} [Labelled κ]

theorem insert_comm (map : SortedMap κ β) {first second : κ} (hkeys : first ≠ second)
    (value other : β) :
    (map.insert first value).insert second other =
      (map.insert second other).insert first value := by
  refine ext_find? fun text ↦ ?_
  simp only [find?_insert]
  by_cases hfirst : label first = text
  · have hsecond : label second ≠ text := fun hsecond ↦
      hkeys (label_injective (hfirst.trans hsecond.symm))
    rw [if_neg hsecond, if_pos hfirst, if_pos hfirst]
  · rw [if_neg hfirst, if_neg hfirst]

/-- A map does not depend on the order in which distinct keys were put in. -/
theorem ofList_perm {pairs pairs' : List (κ × β)} (h : pairs.Perm pairs')
    (hdistinct : (pairs.map (·.1)).Nodup) : ofList pairs = ofList pairs' := by
  unfold ofList
  refine h.foldl_eq' (fun first hfirst second hsecond map ↦ ?_) ∅
  by_cases hkeys : first.1 = second.1
  · rw [List.inj_on_of_nodup_map hdistinct hfirst hsecond hkeys]
  · exact insert_comm map hkeys first.2 second.2

end SortedMap

namespace Wire

namespace Properties

/-- Whether the two list the same values under the same names. -/
def Relists (a b : Properties) : Prop := a.entries.Perm b.entries

theorem get?_eq_some_iff {properties : Properties} {key : String} {value : Value} :
    properties.get? key = some value ↔ (key, value) ∈ properties.entries := by
  obtain ⟨entries, hdistinct⟩ := properties
  change lookup key entries = some value ↔ (key, value) ∈ entries
  induction entries with
  | nil => simp [lookup]
  | cons entry rest ih =>
    obtain ⟨name, held⟩ := entry
    obtain ⟨hfresh, hrest⟩ := List.nodup_cons.1 hdistinct
    rw [lookup, List.mem_cons, ← ih hrest, Prod.mk.injEq]
    split
    next hname =>
      subst hname
      rw [lookup_eq_none_of_not_mem hfresh]
      simp [eq_comm]
    next hname => simp [Ne.symm hname]

/-- The order of a listing is what no look-up tells. -/
theorem relists_iff {a b : Properties} : a.Relists b ↔ ∀ key, a.get? key = b.get? key := by
  have hnodup (properties : Properties) : properties.entries.Nodup := properties.distinct.of_map
  unfold Relists
  rw [List.perm_ext_iff_of_nodup (hnodup a) (hnodup b)]
  constructor
  · intro h key
    refine Option.ext fun value ↦ ?_
    rw [get?_eq_some_iff, get?_eq_some_iff, h]
  · rintro h ⟨key, value⟩
    rw [← get?_eq_some_iff, ← get?_eq_some_iff, h]

theorem Relists.get?_eq {a b : Properties} (h : a.Relists b) : a.get? = b.get? :=
  funext (relists_iff.1 h)

theorem Relists.lastValue?_eq {a b : Properties} (h : a.Relists b) :
    lastValue? a.entries = lastValue? b.entries := by
  funext key
  rw [a.lastValue?_entries, b.lastValue?_entries, h.get?_eq]

theorem Relists.ofPairs {pairs pairs' : List (String × Value)} (h : pairs.Perm pairs')
    (hdistinct : (pairs.map (·.1)).Nodup) :
    (Properties.ofPairs pairs).Relists (Properties.ofPairs pairs') := by
  have hdistinct' : (pairs'.map (·.1)).Nodup := (h.map _).nodup_iff.1 hdistinct
  have hlisted : Relists ⟨pairs, hdistinct⟩ ⟨pairs', hdistinct'⟩ := h
  refine relists_iff.2 fun key ↦ ?_
  calc
    (Properties.ofPairs pairs).get? key = lastValue? pairs key := get?_ofPairs pairs key
    _ = (⟨pairs, hdistinct⟩ : Properties).get? key := lastValue?_entries ⟨pairs, hdistinct⟩ key
    _ = (⟨pairs', hdistinct'⟩ : Properties).get? key := relists_iff.1 hlisted key
    _ = lastValue? pairs' key := (lastValue?_entries ⟨pairs', hdistinct'⟩ key).symm
    _ = (Properties.ofPairs pairs').get? key := (get?_ofPairs pairs' key).symm

end Properties

/-- Keys of one type have different texts, if they have any. -/
theorem Scalar.eq_of_text? {a b : Scalar} {text : String} (htype : a.type = b.type)
    (ha : a.text? = some text) (hb : b.text? = some text) : a = b := by
  have htext : a.text? = b.text? := ha.trans hb.symm
  cases a with
  | text value =>
    cases b <;> cases htype
    exact congrArg Scalar.text (Option.some.inj htext)
  | path value =>
    cases b <;> cases htype
    exact congrArg Scalar.path (ObjectPath.ext_text (Option.some.inj htext))
  | _ => cases ha

namespace Value

/-- Whether the two are dictionaries with the same entries: distinct keys of one type, each with its
value. -/
def Relists (a b : Value) : Prop :=
  ∃ key element entries entries', a.peel = .dict key element entries ∧
    b.peel = .dict key element entries' ∧ entries.Perm entries' ∧ (entries.map (·.1)).Nodup ∧
    ∀ entry ∈ entries, entry.1.type = key

/-- The properties in two listings of one dictionary are two listings of one property map. -/
theorem Relists.properties? {a b : Value} (h : a.Relists b) :
    ∃ properties properties', a.properties? = some properties ∧ b.properties? = some properties' ∧
      properties.Relists properties' := by
  obtain ⟨key, element, entries, entries', ha, hb, hlisted, hdistinct, htype⟩ := h
  have hkeys : ((entries.filterMap fun entry ↦
      entry.1.text?.map fun key ↦ (key, entry.2)).map (·.1)).Nodup := by
    refine List.pairwise_map.2 (List.pairwise_filterMap.2 ?_)
    refine (List.pairwise_map.1 hdistinct).imp_of_mem ?_
    intro first second hfirst hsecond hne pair hpair pair' hpair' hsame
    obtain ⟨text, htext, rfl⟩ := Option.map_eq_some_iff.1 hpair
    obtain ⟨text', htext', rfl⟩ := Option.map_eq_some_iff.1 hpair'
    obtain rfl : text = text' := hsame
    exact hne (Scalar.eq_of_text? ((htype _ hfirst).trans (htype _ hsecond).symm) htext htext')
  refine ⟨_, _, ?_, ?_, .ofPairs (hlisted.filterMap _) hkeys⟩
  · unfold Value.properties?
    rw [ha]
  · unfold Value.properties?
    rw [hb]

end Value

end Wire

open Wire (Value Properties)

variable {value value' : Value}

theorem IpSettings.ofValue?_relists (h : value.Relists value') :
    IpSettings.ofValue? value = IpSettings.ofValue? value' := by
  obtain ⟨properties, properties', hread, hread', hlisted⟩ := h.properties?
  unfold ofValue? ofProperties
  rw [hread, hread', Option.map_some, Option.map_some, hlisted.get?_eq]

theorem ProxySettings.ofValue?_relists (h : value.Relists value') :
    ProxySettings.ofValue? value = ProxySettings.ofValue? value' := by
  obtain ⟨properties, properties', hread, hread', hlisted⟩ := h.properties?
  unfold ofValue? ofProperties
  rw [hread, hread', Option.map_some, Option.map_some, hlisted.get?_eq]

theorem Service.linkAddress?_relists (h : value.Relists value') :
    Service.linkAddress? value = Service.linkAddress? value' := by
  obtain ⟨properties, properties', hread, hread', hlisted⟩ := h.properties?
  unfold linkAddress?
  rw [hread, hread', Option.bind_some, Option.bind_some, hlisted.get?_eq]

theorem CredentialKind.ofName_injective {a b : String} (h : ofName a = ofName b) : a = b := by
  rw [← name_ofName a, h, name_ofName]

/-- Two names never share a count, since no two of them are read as one kind. -/
theorem Retries.ofValue_relists (h : value.Relists value') :
    Retries.ofValue value = Retries.ofValue value' := by
  obtain ⟨properties, properties', hread, hread', hlisted⟩ := h.properties?
  unfold ofValue
  rw [hread, hread']
  refine SortedMap.ofList_perm (List.Perm.filterMap _ hlisted) ?_
  refine List.pairwise_map.2 (List.pairwise_filterMap.2 ?_)
  refine (List.pairwise_map.1 properties.distinct).imp ?_
  intro first second hne count hcount count' hcount' hsame
  obtain ⟨octet, -, rfl⟩ := Option.map_eq_some_iff.1 hcount
  obtain ⟨octet', -, rfl⟩ := Option.map_eq_some_iff.1 hcount'
  exact hne (CredentialKind.ofName_injective hsame)

end Uplink
