import Uplink.Proofs.Service.Reading
import Uplink.Wire.Reading
/-!
# Dictionaries that are read back

A dictionary of properties is written with its entries in the order of their names, the last of
those with one name, each inside a variant. What is read back under a name is therefore the last
value that was written under it.
-/

namespace Uplink.Wire

/-- An entry of a dictionary that is keyed by texts. -/
def textEntry (entry : String × Value) : Scalar × Value := (.text entry.1, entry.2)

theorem Scalar.before_text_iff {a b : String} :
    (Scalar.text a).before (.text b) = true ↔ a < b := by
  change decide (a < b) = true ↔ a < b
  exact decide_eq_true_iff

namespace Value

/-- Keyed by texts, entries are inserted as into a map that is listed in key order. -/
theorem insertEntry_text (key : String) (value : Value) (entries : List (String × Value)) :
    insertEntry (.text key) value (entries.map textEntry) =
      (SortedMap.insertEntry key value entries).map textEntry := by
  induction entries with
  | nil => rfl
  | cons entry rest ih =>
    obtain ⟨other, held⟩ := entry
    rw [List.map_cons, textEntry, insertEntry, SortedMap.insertEntry]
    change _ = (if key < other then _ else if key = other then _ else _ : List _).map _
    rcases lt_or_eq_or_gt key other with hlt | rfl | hgt
    · rw [if_pos (Scalar.before_text_iff.2 hlt), if_pos hlt]
      rfl
    · have hirrefl := String.lt_irrefl key
      have hbefore := mt Scalar.before_text_iff.1 hirrefl
      rw [if_neg hbefore, if_neg hbefore, if_neg hirrefl, if_pos rfl]
      rfl
    · have hnot : ¬ key < other := fun hlt ↦ String.lt_irrefl _ (String.lt_trans hlt hgt)
      have hne : key ≠ other := fun hsame ↦ String.lt_irrefl _ (hsame ▸ hgt)
      rw [if_neg (mt Scalar.before_text_iff.1 hnot), if_pos (Scalar.before_text_iff.2 hgt), ih,
        if_neg hnot, if_neg hne]
      rfl

/-- The entries of a dictionary of properties, as a map. -/
def written (entries : List (String × Value)) : SortedMap String Value :=
  .ofList (entries.map fun entry ↦ (entry.1, .variant entry.2))

theorem ofProperties_eq (entries : List (String × Value)) :
    ofProperties entries = .dict .text .variant ((written entries).entries.map textEntry) := by
  unfold ofProperties ofEntries written SortedMap.ofList
  congr 1
  -- By induction on the entries, for whatever was written before them.
  suffices h : ∀ map : SortedMap String Value,
      (entries.map fun entry ↦ (Scalar.text entry.1, Value.variant entry.2)).foldl
          (fun sorted entry ↦ insertEntry entry.1 entry.2 sorted) (map.entries.map textEntry) =
        ((entries.map fun entry ↦ (entry.1, Value.variant entry.2)).foldl
          (fun map pair ↦ map.insert pair.1 pair.2) map).entries.map textEntry from h ∅
  induction entries with
  | nil => exact fun _ ↦ rfl
  | cons entry rest ih =>
    intro map
    rw [List.map_cons, List.map_cons, List.foldl_cons, List.foldl_cons, insertEntry_text]
    exact ih (map.insert entry.1 (.variant entry.2))

end Value

/-- In a map that is listed in key order the last value under a key is the one that is found. -/
theorem lastValue?_sorted (map : SortedMap String Value) (key : String) :
    lastValue? map.entries key = map.find? key := by
  have hdistinct : (map.entries.map (·.1)).Nodup := by
    refine List.pairwise_map.2 (map.ascending.imp fun hlt hsame ↦ ?_)
    exact String.lt_irrefl _ (hsame ▸ hlt)
  rw [Properties.lastValue?_entries ⟨map.entries, hdistinct⟩ key]
  change Properties.lookup key map.entries = SortedMap.lookupLabel key map.entries
  induction map.entries with
  | nil => rfl
  | cons entry rest ih =>
    rw [Properties.lookup, SortedMap.lookupLabel, ih]
    rfl

theorem find?_ofList (pairs : List (String × Value)) (key : String) :
    (SortedMap.ofList pairs).find? key = lastValue? pairs key := by
  suffices h : ∀ map : SortedMap String Value,
      (pairs.foldl (fun map pair ↦ map.insert pair.1 pair.2) map).find? key =
        (lastValue? pairs key).or (map.find? key) by
    have hall := h ∅
    rw [SortedMap.find?_empty, Option.or_none] at hall
    exact hall
  induction pairs with
  | nil => exact fun _ ↦ rfl
  | cons pair rest ih =>
    intro map
    rw [List.foldl_cons, ih, SortedMap.find?_insert, lastValue?, Option.or_assoc]
    by_cases hkey : pair.1 = key
    · rw [if_pos hkey]
      exact congrArg _ (if_pos hkey)
    · rw [if_neg hkey]
      exact congrArg _ (if_neg hkey)

theorem lastValue?_map (read : Value → Value) (entries : List (String × Value)) (key : String) :
    lastValue? (entries.map fun entry ↦ (entry.1, read entry.2)) key =
      (lastValue? entries key).map read := by
  induction entries with
  | nil => rfl
  | cons entry rest ih =>
    rw [List.map_cons, lastValue?, ih, lastValue?, Option.map_or]
    split <;> rfl

theorem Properties.get?_ofPairs (pairs : List (String × Value)) (key : String) :
    (ofPairs pairs).get? key = lastValue? pairs key := by
  unfold ofPairs
  rw [get?_foldl_set, get?_empty, Option.or_none]

/-- What is read back under a name is the last value that was written under it. -/
theorem Value.exists_properties?_ofProperties (entries : List (String × Value)) :
    ∃ properties, (ofProperties entries).properties? = some properties ∧
      ∀ key, properties.get? key = (lastValue? entries key).map .variant := by
  refine ⟨.ofPairs (written entries).entries, ?_, fun key ↦ ?_⟩
  · have hkeys : ((fun entry : Scalar × Value ↦ entry.1.text?.map fun key ↦ (key, entry.2)) ∘
        textEntry) = some := rfl
    rw [ofProperties_eq]
    change some (Properties.ofPairs _) = _
    rw [List.filterMap_map, hkeys, List.filterMap_some]
  · rw [Properties.get?_ofPairs, lastValue?_sorted, written, find?_ofList, lastValue?_map]

end Uplink.Wire
