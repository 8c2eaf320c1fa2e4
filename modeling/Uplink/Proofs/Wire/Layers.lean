import Mathlib.Data.List.Forall2
import Uplink.Settings
import Uplink.Sim.Credential
/-!
# Values apart from their layers

The daemons put some properties one variant layer deeper than others. `Value.unwrapped` takes every
layer off, at every depth, so that two values have the same content if they differ in nothing but
the number of layers: around them, around the items of an array or around the values of a
dictionary. Every reading of a value is a reading of what is left of it, and a dictionary is read
as the same map of values with the same content.
-/

namespace Uplink

namespace Wire

namespace Value

mutual

/-- The value without its variant layers, at every depth. The types of items and entries tell only
how they were wrapped, and are left out. -/
def unwrapped : Value → Value
  | scalar value => scalar value
  | variant inner => inner.unwrapped
  | array _ items => array .variant (unwrappedItems items)
  | dict key _ entries => dict key .variant (unwrappedEntries entries)
  | struct fields => struct (unwrappedItems fields)

def unwrappedItems : List Value → List Value
  | [] => []
  | item :: rest => item.unwrapped :: unwrappedItems rest

def unwrappedEntries : List (Scalar × Value) → List (Scalar × Value)
  | [] => []
  | (key, value) :: rest => (key, value.unwrapped) :: unwrappedEntries rest

end

theorem unwrappedItems_eq_map (items : List Value) :
    unwrappedItems items = items.map unwrapped := by
  induction items with
  | nil => rfl
  | cons item rest ih => rw [unwrappedItems, ih, List.map_cons]

theorem unwrappedEntries_eq_map (entries : List (Scalar × Value)) :
    unwrappedEntries entries = entries.map fun entry ↦ (entry.1, entry.2.unwrapped) := by
  induction entries with
  | nil => rfl
  | cons entry rest ih => rw [unwrappedEntries, ih, List.map_cons]

/-- Whether the two differ in nothing but the number of variant layers. -/
def SameContent (a b : Value) : Prop := a.unwrapped = b.unwrapped

theorem SameContent.symm {a b : Value} (h : a.SameContent b) : b.SameContent a := Eq.symm h

theorem SameContent.trans {a b c : Value} (hab : a.SameContent b) (hbc : b.SameContent c) :
    a.SameContent c := Eq.trans hab hbc

theorem sameContent_wrap (layers : Nat) (value : Value) :
    (wrap layers value).SameContent value := by
  unfold SameContent
  induction layers with
  | zero => rfl
  | succ layers ih =>
    rw [wrap, Nat.repeat, unwrapped]
    exact ih

theorem sameContent_array (element element' : Signature) {items items' : List Value}
    (h : items.Forall₂ SameContent items') :
    (array element items).SameContent (array element' items') := by
  unfold SameContent
  rw [unwrapped, unwrapped, unwrappedItems_eq_map, unwrappedItems_eq_map]
  congr 1
  induction h with
  | nil => rfl
  | cons hfirst _ ih => rw [List.map_cons, List.map_cons, hfirst, ih]

theorem sameContent_dict (key : ScalarType) (element element' : Signature)
    {entries entries' : List (Scalar × Value)}
    (h : entries.Forall₂ (fun entry entry' ↦ entry.1 = entry'.1 ∧ entry.2.SameContent entry'.2)
      entries') :
    (dict key element entries).SameContent (dict key element' entries') := by
  unfold SameContent
  rw [unwrapped, unwrapped, unwrappedEntries_eq_map, unwrappedEntries_eq_map]
  congr 1
  induction h with
  | nil => rfl
  | cons hfirst _ ih => rw [List.map_cons, List.map_cons, hfirst.1, hfirst.2, ih]

/-- What holds of a reading of values without outer layers holds of all, if the reading looks
through the layers. -/
theorem read_unwrapped {α : Type} (read : Value → α)
    (hlayer : ∀ inner, read (variant inner) = read inner)
    (hscalar : ∀ value, read (scalar value).unwrapped = read (scalar value))
    (harray : ∀ element items, read (array element items).unwrapped = read (array element items))
    (hdict : ∀ key element entries,
      read (dict key element entries).unwrapped = read (dict key element entries))
    (hstruct : ∀ fields, read (struct fields).unwrapped = read (struct fields)) (value : Value) :
    read value.unwrapped = read value := by
  induction value using peel.induct with
  | case1 inner ih => rw [unwrapped, ih, hlayer]
  | case2 value hpeeled =>
    cases value with
    | scalar value => exact hscalar value
    | variant inner => exact absurd rfl (hpeeled inner)
    | array element items => exact harray element items
    | dict key element entries => exact hdict key element entries
    | struct fields => exact hstruct fields

/-- Readings that do not depend on the layers do not tell values with the same content apart. -/
theorem SameContent.congr {α : Type} {a b : Value} (h : a.SameContent b) {read : Value → α}
    (hread : ∀ value, read value.unwrapped = read value) : read a = read b :=
  calc
    read a = read a.unwrapped := (hread a).symm
    _ = read b.unwrapped := congrArg read h
    _ = read b := hread b

/-! ## Single values and lists -/

theorem scalar?_unwrapped (value : Value) : value.unwrapped.scalar? = value.scalar? := by
  apply read_unwrapped _ scalar?_variant <;> intros <;> rfl

theorem text?_unwrapped (value : Value) : value.unwrapped.text? = value.text? := by
  rw [text?, scalar?_unwrapped, text?]

theorem nonemptyText?_unwrapped (value : Value) :
    value.unwrapped.nonemptyText? = value.nonemptyText? := by
  rw [nonemptyText?, text?_unwrapped, nonemptyText?]

theorem bool?_unwrapped (value : Value) : value.unwrapped.bool? = value.bool? := by
  rw [bool?, scalar?_unwrapped, bool?]

theorem octet?_unwrapped (value : Value) : value.unwrapped.octet? = value.octet? := by
  rw [octet?, scalar?_unwrapped, octet?]

theorem items?_variant (inner : Value) : (variant inner).items? = inner.items? := by
  rw [items?, peel_variant, items?]

/-- What is read off the items, item by item and through their layers. -/
theorem filterMap_items?_unwrapped {α : Type} {read : Value → Option α}
    (hread : ∀ item, read item.unwrapped = read item) (value : Value) :
    value.unwrapped.items?.map (·.filterMap read) = value.items?.map (·.filterMap read) := by
  apply read_unwrapped fun value ↦ value.items?.map (·.filterMap read)
  · intro inner
    rw [items?_variant]
  · intro held
    rfl
  · intro element items
    have hitems : read ∘ unwrapped = read := funext hread
    change some ((unwrappedItems items).filterMap read) = some (items.filterMap read)
    rw [unwrappedItems_eq_map, List.filterMap_map, hitems]
  · intro key element entries
    rfl
  · intro fields
    rfl

theorem texts?_unwrapped (value : Value) : value.unwrapped.texts? = value.texts? :=
  filterMap_items?_unwrapped text?_unwrapped value

theorem paths?_unwrapped (value : Value) : value.unwrapped.paths? = value.paths? := by
  apply filterMap_items?_unwrapped
  intro item
  rw [scalar?_unwrapped]

end Value

/-! ## Dictionaries -/

theorem rel_of_map_eq {α β : Type} {f : α → β} {R : α → α → Prop} {a b : Option α}
    (hR : ∀ x y, f x = f y → R x y) (h : a.map f = b.map f) : Option.Rel R a b := by
  cases a with
  | none =>
    cases b with
    | none => exact .none
    | some y => cases h
  | some x =>
    cases b with
    | none => cases h
    | some y => exact .some (hR x y (Option.some.inj h))

namespace Properties

theorem ext_entries {a b : Properties} (h : a.entries = b.entries) : a = b := by
  cases a
  cases b
  cases h
  rfl

def unwrappedPairs (pairs : List (String × Value)) : List (String × Value) :=
  pairs.map fun pair ↦ (pair.1, pair.2.unwrapped)

/-- The property map with every value unwrapped. -/
def unwrapped (properties : Properties) : Properties where
  entries := unwrappedPairs properties.entries
  distinct := by
    unfold unwrappedPairs
    rw [List.map_map]
    exact properties.distinct

/-- Whether the two hold values with the same content under the same names. -/
def SameContent (a b : Properties) : Prop :=
  ∀ key, Option.Rel Value.SameContent (a.get? key) (b.get? key)

theorem get?_unwrapped (properties : Properties) (key : String) :
    properties.unwrapped.get? key = (properties.get? key).map Value.unwrapped := by
  change lookup key (unwrappedPairs properties.entries) =
    (lookup key properties.entries).map Value.unwrapped
  induction properties.entries with
  | nil => rfl
  | cons entry rest ih =>
    change (if entry.1 = key then _ else lookup key (unwrappedPairs rest)) = _
    rw [ih, lookup]
    split <;> rfl

theorem sameContent_of_unwrapped {a b : Properties} (h : a.unwrapped = b.unwrapped) :
    a.SameContent b := by
  intro key
  apply rel_of_map_eq fun _ _ ↦ id
  rw [← get?_unwrapped, h, get?_unwrapped]

theorem set_unwrapped (properties : Properties) (key : String) (value : Value) :
    (properties.set key value).unwrapped = properties.unwrapped.set key value.unwrapped := by
  apply ext_entries
  change unwrappedPairs (replace key value properties.entries) =
    replace key value.unwrapped (unwrappedPairs properties.entries)
  induction properties.entries with
  | nil => rfl
  | cons entry rest ih =>
    change _ = if entry.1 = key then _ else _ :: replace key value.unwrapped (unwrappedPairs rest)
    rw [replace, ← ih]
    split <;> rfl

theorem ofPairs_unwrapped (pairs : List (String × Value)) :
    (ofPairs pairs).unwrapped = ofPairs (unwrappedPairs pairs) := by
  -- By induction on the pairs, for whatever was put in before them.
  suffices h : ∀ properties : Properties,
      (pairs.foldl (fun properties pair ↦ properties.set pair.1 pair.2) properties).unwrapped =
        (unwrappedPairs pairs).foldl
          (fun properties pair ↦ properties.set pair.1 pair.2) properties.unwrapped from h ∅
  induction pairs with
  | nil => exact fun _ ↦ rfl
  | cons pair rest ih =>
    intro properties
    rw [List.foldl_cons, ih, set_unwrapped]
    rfl

/-- What is read under a name is read through the layers of its value. -/
theorem get?_bind_unwrapped {α : Type} {read : Value → Option α}
    (hread : ∀ value, read value.unwrapped = read value) (properties : Properties) (key : String) :
    (properties.unwrapped.get? key).bind read = (properties.get? key).bind read := by
  rw [get?_unwrapped, Option.bind_map]
  exact congrArg _ (funext hread)

end Properties

theorem Value.properties?_variant (inner : Value) :
    (variant inner).properties? = inner.properties? := by
  rw [properties?, peel_variant, properties?]

theorem Value.properties?_unwrapped (value : Value) :
    value.unwrapped.properties? = value.properties?.map Properties.unwrapped := by
  induction value using peel.induct with
  | case1 inner ih => rw [unwrapped, ih, properties?_variant]
  | case2 value hpeeled =>
    cases value with
    | variant inner => exact absurd rfl (hpeeled inner)
    | dict key element entries =>
      change some (Properties.ofPairs _) = some (Properties.ofPairs _).unwrapped
      rw [Properties.ofPairs_unwrapped, Properties.unwrappedPairs, unwrappedEntries_eq_map,
        List.filterMap_map, List.map_filterMap]
      congr 3
      funext entry
      change (entry.1.text?).map _ = _
      rw [Option.map_map]
      rfl
    | _ => rfl

theorem Value.SameContent.properties? {a b : Value} (h : a.SameContent b) :
    Option.Rel Properties.SameContent a.properties? b.properties? := by
  apply rel_of_map_eq fun _ _ ↦ Properties.sameContent_of_unwrapped
  rw [← properties?_unwrapped, h, properties?_unwrapped]

end Wire

open Wire (Value Properties)

theorem IpSettings.ofProperties_unwrapped (properties : Properties) :
    ofProperties properties.unwrapped = ofProperties properties := by
  unfold ofProperties
  simp only [Option.bind_eq_bind, Properties.get?_bind_unwrapped Value.nonemptyText?_unwrapped,
    Properties.get?_bind_unwrapped Value.octet?_unwrapped]

theorem IpSettings.ofValue?_unwrapped (value : Value) :
    ofValue? value.unwrapped = ofValue? value := by
  unfold ofValue?
  rw [Value.properties?_unwrapped, Option.map_map]
  exact congrArg (fun read ↦ (value.properties?.map read).filter _) (funext ofProperties_unwrapped)

theorem ProxySettings.ofProperties_unwrapped (properties : Properties) :
    ofProperties properties.unwrapped = ofProperties properties := by
  unfold ofProperties
  simp only [Option.bind_eq_bind, Properties.get?_bind_unwrapped Value.nonemptyText?_unwrapped,
    Properties.get?_bind_unwrapped Value.texts?_unwrapped]

theorem ProxySettings.ofValue?_unwrapped (value : Value) :
    ofValue? value.unwrapped = ofValue? value := by
  unfold ofValue?
  rw [Value.properties?_unwrapped, Option.map_map]
  exact congrArg (fun read ↦ (value.properties?.map read).filter _) (funext ofProperties_unwrapped)

theorem Retries.ofValue_unwrapped (value : Value) : ofValue value.unwrapped = ofValue value := by
  unfold ofValue
  rw [Value.properties?_unwrapped]
  cases value.properties? with
  | none => rfl
  | some properties =>
    change SortedMap.ofList (List.filterMap _ (properties.entries.map _)) = _
    rw [List.filterMap_map]
    congr 2
    funext entry
    change (entry.2.unwrapped.octet?).map _ = _
    rw [Value.octet?_unwrapped]

theorem CredentialKind.required?_unwrapped (value : Value) :
    required? value.unwrapped = required? value := by
  rw [required?, Value.text?_unwrapped, required?]

theorem nonemptyTexts?_unwrapped (value : Value) :
    nonemptyTexts? value.unwrapped = nonemptyTexts? value := by
  rw [nonemptyTexts?, Value.texts?_unwrapped, nonemptyTexts?]

end Uplink
