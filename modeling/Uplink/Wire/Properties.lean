import Uplink.Wire.Value
/-!
# Property maps

What a daemon reports about one object: values under distinct names. The order of the listing
carries no meaning. `Properties.set` replaces a property in place or appends it, and
`Properties.ofPairs` lets the last pair with a name win.
-/

namespace Uplink.Wire

/-- Values under distinct names. -/
structure Properties where
  entries : List (String × Value)
  distinct : (entries.map (·.1)).Nodup

namespace Properties

def lookup (key : String) : List (String × Value) → Option Value
  | [] => none
  | (name, value) :: rest => if name = key then some value else lookup key rest

def replace (key : String) (value : Value) : List (String × Value) → List (String × Value)
  | [] => [(key, value)]
  | (name, held) :: rest =>
    if name = key then (key, value) :: rest else (name, held) :: replace key value rest

theorem mem_keys_replace {key name : String} {value : Value} {entries : List (String × Value)} :
    name ∈ (replace key value entries).map (·.1) ↔ name = key ∨ name ∈ entries.map (·.1) := by
  induction entries with
  | nil => simp [replace]
  | cons head rest ih =>
    obtain ⟨other, held⟩ := head
    rw [replace]
    split
    next same => subst same; simp
    next => simp only [List.map_cons, List.mem_cons, ih]; exact or_left_comm

theorem replace_distinct (key : String) (value : Value) {entries : List (String × Value)}
    (h : (entries.map (·.1)).Nodup) : ((replace key value entries).map (·.1)).Nodup := by
  induction entries with
  | nil => simp [replace]
  | cons head rest ih =>
    obtain ⟨other, held⟩ := head
    obtain ⟨fresh, tail⟩ := List.nodup_cons.1 h
    rw [replace]
    split
    next same => subst same; exact h
    next differ =>
      refine List.nodup_cons.2 ⟨fun member ↦ ?_, ih tail⟩
      exact (mem_keys_replace.1 member).elim differ fresh

theorem lookup_replace (key : String) (value : Value) (name : String)
    (entries : List (String × Value)) :
    lookup name (replace key value entries) =
      if key = name then some value else lookup name entries := by
  induction entries with
  | nil => rfl
  | cons head rest ih =>
    obtain ⟨other, held⟩ := head
    rw [replace]
    split
    next same =>
      subst same
      simp only [lookup]
      split <;> rfl
    next differ =>
      simp only [lookup, ih]
      split
      next found => rw [if_neg (fun h ↦ differ (found.trans h.symm))]
      next => rfl

def empty : Properties := ⟨[], List.nodup_nil⟩

instance : EmptyCollection Properties := ⟨empty⟩
instance : Inhabited Properties := ⟨empty⟩

def get? (properties : Properties) (key : String) : Option Value := lookup key properties.entries

def set (properties : Properties) (key : String) (value : Value) : Properties :=
  ⟨replace key value properties.entries, replace_distinct key value properties.distinct⟩

def ofPairs (pairs : List (String × Value)) : Properties :=
  pairs.foldl (fun properties pair ↦ properties.set pair.1 pair.2) ∅

@[simp] theorem get?_empty (key : String) : (∅ : Properties).get? key = none := rfl

theorem get?_set (properties : Properties) (key : String) (value : Value) (name : String) :
    (properties.set key value).get? name =
      if key = name then some value else properties.get? name :=
  lookup_replace key value name properties.entries

end Properties

end Uplink.Wire
