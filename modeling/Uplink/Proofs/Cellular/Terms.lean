import Uplink.Cellular.Context
import Uplink.Text.Blank
/-!
# The terms of a setup

What a setup of the internet context goes by: which names of an access point count as left out,
which of the listed contexts is the one to take, and what is written to it in which order. The terms
are stated without a search, and the functions that a setup is made of meet them.
-/

namespace Uplink

namespace Text

/-- The code points with the property `White_Space`. -/
def whiteSpace : List Nat :=
  [0x09, 0x0a, 0x0b, 0x0c, 0x0d, 0x20, 0x85, 0xa0, 0x1680, 0x2000, 0x2001, 0x2002, 0x2003, 0x2004,
    0x2005, 0x2006, 0x2007, 0x2008, 0x2009, 0x200a, 0x2028, 0x2029, 0x202f, 0x205f, 0x3000]

/-- Whether nothing is left of the text once white space is taken off its ends. -/
def Blank (text : String) : Prop := ∀ c ∈ text.toList, c.toNat ∈ whiteSpace

theorem isWhiteSpace_iff {c : Char} : isWhiteSpace c = true ↔ c.toNat ∈ whiteSpace := by
  simp only [isWhiteSpace, whiteSpace, Bool.or_eq_true, Bool.and_eq_true, decide_eq_true_eq,
    beq_iff_eq, List.mem_cons, List.not_mem_nil, or_false]
  omega

theorem isBlank_iff {text : String} : isBlank text = true ↔ Blank text := by
  simp only [isBlank, List.all_eq_true, isWhiteSpace_iff, Blank]

instance (text : String) : Decidable (Blank text) := decidable_of_iff _ isBlank_iff

end Text

namespace CellularContext

open Wire (Properties Value)

variable {contexts : List CellularContext} {context : CellularContext}

/-- Whether the context is the first of these that is for the internet. -/
def FirstInternet (contexts : List CellularContext) (context : CellularContext) : Prop :=
  ∃ before after, contexts = before ++ context :: after ∧ context.kind = some "internet" ∧
    ∀ other ∈ before, other.kind ≠ some "internet"

/-- Whether none of these contexts is for the internet. -/
def NoInternet (contexts : List CellularContext) : Prop :=
  ∀ context ∈ contexts, context.kind ≠ some "internet"

theorem isInternet_iff : context.isInternet = true ↔ context.kind = some "internet" := beq_iff_eq

theorem internet?_eq_some_iff :
    internet? contexts = some context ↔ FirstInternet contexts context := by
  unfold internet? FirstInternet
  rw [List.find?_eq_some_iff_append, isInternet_iff]
  simp only [Bool.not_eq_true', ← Bool.not_eq_true, isInternet_iff]
  constructor
  · rintro ⟨hkind, before, after, hsplit, hbefore⟩
    exact ⟨before, after, hsplit, hkind, hbefore⟩
  · rintro ⟨before, after, hsplit, hkind, hbefore⟩
    exact ⟨hkind, before, after, hsplit, hbefore⟩

theorem internet?_eq_none_iff : internet? contexts = none ↔ NoInternet contexts := by
  simp only [internet?, List.find?_eq_none, isInternet_iff, NoInternet, ne_eq]

/-- Whether a context with these properties is for the internet. -/
def ForInternet (properties : Properties) : Prop :=
  (properties.get? "Type").bind Value.text? = some "internet"

theorem kind_ofProperties_iff {path : ObjectPath} {properties : Properties} :
    (ofProperties path properties).kind = some "internet" ↔ ForInternet properties := by
  change (properties.get? "Type").bind Value.nonemptyText? = _ ↔ _
  unfold ForInternet
  cases properties.get? "Type" with
  | none => rfl
  | some value =>
    simp only [Option.bind_some, Value.nonemptyText?, Option.filter_eq_some_iff, decide_eq_true_eq,
      ne_eq, String.reduceEq, not_false_eq_true, and_true]

end CellularContext

namespace ContextSettings

/-- What a context is told for these settings, in this order; its name only if there is one. -/
def told : ContextSettings → List (String × String)
  | { name := none, accessPointName, username, password } =>
    [("AccessPointName", accessPointName), ("Username", username), ("Password", password)]
  | { name := some name, accessPointName, username, password } =>
    [("Name", name), ("AccessPointName", accessPointName), ("Username", username),
      ("Password", password)]

theorem properties_eq_told (settings : ContextSettings) : settings.properties = settings.told := by
  rcases settings with ⟨_ | name, accessPointName, username, password⟩ <;> rfl

end ContextSettings

end Uplink
