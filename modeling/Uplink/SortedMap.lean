/-!
# Maps listed in key order

A map from keys to values, kept as its entries in strictly ascending order of a text that tells the
keys apart. The listing is therefore a function of what the map holds: two maps that answer every
look-up alike are equal, whatever the order in which they were filled. The main statements say what
a look-up finds, and how many values of a kind there are, after an insertion or an erasure.
-/

namespace Uplink

/-- Keys that are told apart, and listed in order, by a text. -/
class Labelled (κ : Type) where
  label : κ → String
  label_injective : ∀ {a b : κ}, label a = label b → a = b

open Labelled

instance : Labelled String where
  label text := text
  label_injective h := h

/-- Entries in strictly ascending order of their keys' labels. -/
structure SortedMap (κ β : Type) [Labelled κ] where
  entries : List (κ × β)
  ascending : entries.Pairwise fun a b ↦ label a.1 < label b.1

theorem lt_or_eq_or_gt (a b : String) : a < b ∨ a = b ∨ b < a := by
  by_cases lt : a < b
  · exact Or.inl lt
  · by_cases gt : b < a
    · exact Or.inr (Or.inr gt)
    · exact Or.inr (Or.inl (String.le_antisymm (String.not_lt.1 gt) (String.not_lt.1 lt)))

namespace SortedMap

variable {κ β γ : Type} [Labelled κ]

/-- What the first entry under this label holds. -/
def lookupLabel (text : String) : List (κ × β) → Option β
  | [] => none
  | (key, value) :: rest => if label key = text then some value else lookupLabel text rest

def insertEntry (key : κ) (value : β) : List (κ × β) → List (κ × β)
  | [] => [(key, value)]
  | (other, held) :: rest =>
    if label key < label other then (key, value) :: (other, held) :: rest
    else if label key = label other then (key, value) :: rest
    else (other, held) :: insertEntry key value rest

theorem mem_insertEntry {key : κ} {value : β} {entry : κ × β} {entries : List (κ × β)}
    (h : entry ∈ insertEntry key value entries) : entry = (key, value) ∨ entry ∈ entries := by
  induction entries with
  | nil => simpa [insertEntry] using h
  | cons head rest ih =>
    obtain ⟨other, held⟩ := head
    rw [insertEntry] at h
    split at h
    · simpa using h
    · split at h
      · simp only [List.mem_cons] at h ⊢
        exact h.imp id Or.inr
      · simp only [List.mem_cons] at h ⊢
        rcases h with h | h
        · exact Or.inr (Or.inl h)
        · exact (ih h).imp id Or.inr

theorem insertEntry_ascending (key : κ) (value : β) {entries : List (κ × β)}
    (h : entries.Pairwise fun a b ↦ label a.1 < label b.1) :
    (insertEntry key value entries).Pairwise fun a b ↦ label a.1 < label b.1 := by
  induction entries with
  | nil => simp [insertEntry]
  | cons head rest ih =>
    obtain ⟨other, held⟩ := head
    obtain ⟨above, tail⟩ := List.pairwise_cons.1 h
    rw [insertEntry]
    split
    next below =>
      refine List.pairwise_cons.2 ⟨fun entry member ↦ ?_, h⟩
      rcases List.mem_cons.1 member with rfl | member
      · exact below
      · exact String.lt_trans below (above entry member)
    next notBelow =>
      split
      next same =>
        exact List.pairwise_cons.2 ⟨fun entry member ↦ same ▸ above entry member, tail⟩
      next differ =>
        have greater : label other < label key :=
          ((lt_or_eq_or_gt (label key) (label other)).resolve_left notBelow).resolve_left differ
        refine List.pairwise_cons.2 ⟨fun entry member ↦ ?_, ih tail⟩
        rcases mem_insertEntry member with rfl | member
        · exact greater
        · exact above entry member

def empty : SortedMap κ β := ⟨[], List.Pairwise.nil⟩

instance : EmptyCollection (SortedMap κ β) := ⟨empty⟩
instance : Inhabited (SortedMap κ β) := ⟨empty⟩

def isEmpty (map : SortedMap κ β) : Bool := map.entries.isEmpty

def size (map : SortedMap κ β) : Nat := map.entries.length

def toList (map : SortedMap κ β) : List (κ × β) := map.entries

def values (map : SortedMap κ β) : List β := map.entries.map (·.2)

/-- What is held under the key with this label. -/
def find? (map : SortedMap κ β) (text : String) : Option β := lookupLabel text map.entries

def get? (map : SortedMap κ β) (key : κ) : Option β := map.find? (label key)

def contains (map : SortedMap κ β) (key : κ) : Bool := (map.get? key).isSome

def insert (map : SortedMap κ β) (key : κ) (value : β) : SortedMap κ β :=
  ⟨insertEntry key value map.entries, insertEntry_ascending key value map.ascending⟩

def erase (map : SortedMap κ β) (key : κ) : SortedMap κ β :=
  ⟨map.entries.filter fun entry ↦ label entry.1 ≠ label key, map.ascending.filter _⟩

/-- Inserts the value, or erases the key where there is none. -/
def assign (map : SortedMap κ β) (key : κ) : Option β → SortedMap κ β
  | some value => map.insert key value
  | none => map.erase key

/-- Later pairs win over earlier ones with the same key. -/
def ofList (pairs : List (κ × β)) : SortedMap κ β :=
  pairs.foldl (fun map pair ↦ map.insert pair.1 pair.2) ∅

theorem lookupLabel_eq_none_of_lt {text : String} {entries : List (κ × β)}
    (h : ∀ entry ∈ entries, text < label entry.1) : lookupLabel text entries = none := by
  induction entries with
  | nil => rfl
  | cons head rest ih =>
    have first := h head (by simp)
    rw [lookupLabel, if_neg (fun same ↦ String.lt_irrefl _ (same ▸ first))]
    exact ih fun entry member ↦ h entry (by simp [member])

theorem lookupLabel_insertEntry (key : κ) (value : β) (text : String) (entries : List (κ × β)) :
    lookupLabel text (insertEntry key value entries) =
      if label key = text then some value else lookupLabel text entries := by
  induction entries with
  | nil => rfl
  | cons head rest ih =>
    obtain ⟨other, held⟩ := head
    rw [insertEntry]
    split
    · rfl
    · split
      next same =>
        simp only [lookupLabel, same]
        split <;> rfl
      next differ =>
        simp only [lookupLabel, ih]
        split
        next found => rw [if_neg (fun h ↦ differ (h.trans found.symm))]
        next => rfl

theorem lookupLabel_filter_ne (key : κ) (text : String) (entries : List (κ × β)) :
    lookupLabel text (entries.filter fun entry ↦ label entry.1 ≠ label key) =
      if label key = text then none else lookupLabel text entries := by
  induction entries with
  | nil => simp [lookupLabel]
  | cons head rest ih =>
    obtain ⟨other, held⟩ := head
    by_cases same : label other = label key
    · simp only [List.filter_cons, same, ne_eq, not_true_eq_false, decide_false, Bool.false_eq_true,
        if_false, lookupLabel]
      rw [show (rest.filter fun entry ↦ decide (¬label entry.1 = label key)) =
        rest.filter fun entry ↦ label entry.1 ≠ label key from rfl, ih]
      split <;> simp_all
    · simp only [List.filter_cons, same, ne_eq, not_false_eq_true, decide_true, if_true,
        lookupLabel]
      rw [show (rest.filter fun entry ↦ decide (¬label entry.1 = label key)) =
        rest.filter fun entry ↦ label entry.1 ≠ label key from rfl, ih]
      split
      next found => rw [if_neg (fun h ↦ same (found.trans h.symm))]
      next => rfl

@[simp] theorem find?_empty (text : String) : (∅ : SortedMap κ β).find? text = none := rfl

theorem find?_insert (map : SortedMap κ β) (key : κ) (value : β) (text : String) :
    (map.insert key value).find? text = if label key = text then some value else map.find? text :=
  lookupLabel_insertEntry key value text map.entries

theorem find?_erase (map : SortedMap κ β) (key : κ) (text : String) :
    (map.erase key).find? text = if label key = text then none else map.find? text :=
  lookupLabel_filter_ne key text map.entries

theorem find?_assign (map : SortedMap κ β) (key : κ) (value : Option β) (text : String) :
    (map.assign key value).find? text = if label key = text then value else map.find? text := by
  cases value with
  | none => exact find?_erase map key text
  | some value => exact find?_insert map key value text

theorem lookupLabel_of_mem {key : κ} {value : β} {entries : List (κ × β)}
    (h : entries.Pairwise fun a b ↦ label a.1 < label b.1) (member : (key, value) ∈ entries) :
    lookupLabel (label key) entries = some value := by
  induction entries with
  | nil => cases member
  | cons head rest ih =>
    obtain ⟨above, tail⟩ := List.pairwise_cons.1 h
    rcases List.mem_cons.1 member with rfl | member
    · simp [lookupLabel]
    · have below := above (key, value) member
      rw [lookupLabel, if_neg (fun same ↦ String.lt_irrefl _ (same ▸ below))]
      exact ih tail member

/-- Every entry that is listed is found. -/
theorem get?_of_mem {map : SortedMap κ β} {key : κ} {value : β}
    (h : (key, value) ∈ map.entries) : map.get? key = some value :=
  lookupLabel_of_mem map.ascending h

theorem countP_insertEntry (key : κ) (value : β) (p : β → Bool) {entries : List (κ × β)}
    (h : entries.Pairwise fun a b ↦ label a.1 < label b.1) :
    (insertEntry key value entries).countP (p ·.2) +
        ((lookupLabel (label key) entries).any p).toNat =
      entries.countP (p ·.2) + (p value).toNat := by
  induction entries with
  | nil => cases hvalue : p value <;> simp [insertEntry, lookupLabel, hvalue]
  | cons head rest ih =>
    obtain ⟨other, held⟩ := head
    obtain ⟨above, tail⟩ := List.pairwise_cons.1 h
    rw [insertEntry]
    split
    next below =>
      have missing : lookupLabel (label key) ((other, held) :: rest) = none :=
        lookupLabel_eq_none_of_lt (List.forall_mem_cons.2
          ⟨below, fun entry member ↦ String.lt_trans below (above entry member)⟩)
      rw [missing, List.countP_cons]
      cases hvalue : p value <;> simp
    next =>
      split
      next same =>
        rw [lookupLabel, if_pos same.symm, List.countP_cons, List.countP_cons]
        cases hvalue : p value <;> cases hheld : p held <;> simp [hheld]
      next differ =>
        rw [lookupLabel, if_neg (fun same ↦ differ same.symm), List.countP_cons, List.countP_cons]
        have := ih tail
        omega

/-- An insertion counts the new value, and no longer the one that was held under the key. -/
theorem countP_insert (map : SortedMap κ β) (key : κ) (value : β) (p : β → Bool) :
    (map.insert key value).values.countP p + ((map.get? key).any p).toNat =
      map.values.countP p + (p value).toNat := by
  unfold values
  rw [List.countP_map, List.countP_map]
  exact countP_insertEntry key value p map.ascending

theorem countP_filter_ne (key : κ) (p : β → Bool) {entries : List (κ × β)}
    (h : entries.Pairwise fun a b ↦ label a.1 < label b.1) :
    (entries.filter fun entry ↦ label entry.1 ≠ label key).countP (p ·.2) +
        ((lookupLabel (label key) entries).any p).toNat = entries.countP (p ·.2) := by
  induction entries with
  | nil => rfl
  | cons head rest ih =>
    obtain ⟨other, held⟩ := head
    obtain ⟨above, tail⟩ := List.pairwise_cons.1 h
    have kept := ih tail
    rw [List.filter_cons, lookupLabel]
    by_cases same : label other = label key
    · have missing : lookupLabel (label key) rest = none :=
        lookupLabel_eq_none_of_lt fun entry member ↦ same ▸ above entry member
      rw [missing] at kept
      rw [if_neg (by simpa using same), if_pos same, List.countP_cons, ← kept]
      cases hheld : p held <;> simp [hheld]
    · rw [if_pos (by simpa using same), if_neg same, List.countP_cons, List.countP_cons]
      omega

/-- An erasure no longer counts the value that was held under the key. -/
theorem countP_erase (map : SortedMap κ β) (key : κ) (p : β → Bool) :
    (map.erase key).values.countP p + ((map.get? key).any p).toNat = map.values.countP p := by
  unfold values
  rw [List.countP_map, List.countP_map]
  exact countP_filter_ne key p map.ascending

/-- A map is determined by what its look-ups find. -/
theorem ext_find? {a b : SortedMap κ β} (h : ∀ text, a.find? text = b.find? text) : a = b := by
  obtain ⟨left, ascendingLeft⟩ := a
  obtain ⟨right, ascendingRight⟩ := b
  suffices left = right by subst this; rfl
  replace h : ∀ text, lookupLabel text left = lookupLabel text right := h
  induction left generalizing right with
  | nil =>
    cases right with
    | nil => rfl
    | cons head rest => simpa [lookupLabel] using h (label head.1)
  | cons head rest ih =>
    obtain ⟨key, value⟩ := head
    cases right with
    | nil => simpa [lookupLabel] using h (label key)
    | cons head' rest' =>
      obtain ⟨key', value'⟩ := head'
      obtain ⟨above, tail⟩ := List.pairwise_cons.1 ascendingLeft
      obtain ⟨above', tail'⟩ := List.pairwise_cons.1 ascendingRight
      have same : label key = label key' := by
        rcases lt_or_eq_or_gt (label key) (label key') with lt | same | gt
        · have missing : lookupLabel (label key) ((key', value') :: rest') = none :=
            lookupLabel_eq_none_of_lt (List.forall_mem_cons.2
              ⟨lt, fun entry member ↦ String.lt_trans lt (above' entry member)⟩)
          have found := h (label key)
          rw [missing] at found
          simp [lookupLabel] at found
        · exact same
        · have missing : lookupLabel (label key') ((key, value) :: rest) = none :=
            lookupLabel_eq_none_of_lt (List.forall_mem_cons.2
              ⟨gt, fun entry member ↦ String.lt_trans gt (above entry member)⟩)
          have found := h (label key')
          rw [missing] at found
          simp [lookupLabel] at found
      have sameKey := label_injective same
      subst sameKey
      have sameValue : value = value' := by simpa [lookupLabel] using h (label key)
      subst sameValue
      congr 1
      refine ih tail rest' tail' fun text ↦ ?_
      have found := h text
      simp only [lookupLabel] at found
      by_cases eq : label key = text
      · subst eq
        rw [lookupLabel_eq_none_of_lt above, lookupLabel_eq_none_of_lt above']
      · simpa [eq] using found

instance [DecidableEq κ] [DecidableEq β] : DecidableEq (SortedMap κ β) := fun a b ↦
  if h : a.entries = b.entries then
    isTrue (by cases a; cases b; cases h; rfl)
  else isFalse (fun same ↦ h (same ▸ rfl))

end SortedMap

end Uplink
