import Uplink.Json
import Uplink.SortedMap
import Uplink.Text.Quoted
import Uplink.Wire.Reading
/-!
# SIM credentials

The kinds of PIN and PUK that a SIM or a modem can ask for, which PIN each PUK resets, and what a
credential of each kind looks like: ASCII digits only, and as many as its kind allows. A kind that
is not known keeps its text and has no valid credential.
-/

namespace Uplink

inductive CredentialKind where
  | none
  | pin | pin2 | phone | firstPhone | net | netSub | service | corp
  | puk | puk2 | firstPhonePuk | netPuk | netSubPuk | servicePuk | corpPuk
  | other (text : String)
deriving DecidableEq

/-- Why a text is not a credential of its kind. -/
inductive CredentialError where
  | nonDecimal
  | unknownKind (kind : String)
  | length (kind : String) (min max actual : Nat)
deriving DecidableEq

namespace CredentialError

def message : CredentialError → String
  | nonDecimal => "credential must contain only decimal digits"
  | unknownKind kind => s!"unknown credential kind: {kind}"
  | length kind min max actual => s!"{kind} must be {min}-{max} digits, got {actual}"

end CredentialError

namespace CredentialKind

def ofName : String → CredentialKind
  | "none" => none
  | "pin" => pin
  | "pin2" => pin2
  | "phone" => phone
  | "firstphone" => firstPhone
  | "net" => net
  | "netsub" => netSub
  | "service" => service
  | "corp" => corp
  | "puk" => puk
  | "puk2" => puk2
  | "firstphonepuk" => firstPhonePuk
  | "netpuk" => netPuk
  | "netsubpuk" => netSubPuk
  | "servicepuk" => servicePuk
  | "corppuk" => corpPuk
  | text => other text

def name : CredentialKind → String
  | none => "none"
  | pin => "pin"
  | pin2 => "pin2"
  | phone => "phone"
  | firstPhone => "firstphone"
  | net => "net"
  | netSub => "netsub"
  | service => "service"
  | corp => "corp"
  | puk => "puk"
  | puk2 => "puk2"
  | firstPhonePuk => "firstphonepuk"
  | netPuk => "netpuk"
  | netSubPuk => "netsubpuk"
  | servicePuk => "servicepuk"
  | corpPuk => "corppuk"
  | other text => text

@[simp] theorem name_ofName (text : String) : (ofName text).name = text := by
  unfold ofName; split <;> rfl

/-- The kinds that are known, under the names by which records and messages call them. -/
def known : List (String × CredentialKind) :=
  [("None", none), ("Pin", pin), ("Pin2", pin2), ("Phone", phone), ("FirstPhone", firstPhone),
    ("Net", net), ("NetSub", netSub), ("Service", service), ("Corp", corp), ("Puk", puk),
    ("Puk2", puk2), ("FirstPhonePuk", firstPhonePuk), ("NetPuk", netPuk),
    ("NetSubPuk", netSubPuk), ("ServicePuk", servicePuk), ("CorpPuk", corpPuk)]

/-- The name by which records and messages call the kind. -/
def title : CredentialKind → String
  | none => "None"
  | pin => "Pin"
  | pin2 => "Pin2"
  | phone => "Phone"
  | firstPhone => "FirstPhone"
  | net => "Net"
  | netSub => "NetSub"
  | service => "Service"
  | corp => "Corp"
  | puk => "Puk"
  | puk2 => "Puk2"
  | firstPhonePuk => "FirstPhonePuk"
  | netPuk => "NetPuk"
  | netSubPuk => "NetSubPuk"
  | servicePuk => "ServicePuk"
  | corpPuk => "CorpPuk"
  | other _ => "Other"

/-- The kind as it stands in messages; a text that is not known is quoted. -/
def described (kind : CredentialKind) : String :=
  match kind with
  | other text => s!"Other({Text.quoted text})"
  | _ => kind.title

/-- A text that tells all kinds apart, also an unknown one whose text is a known name. -/
def key : CredentialKind → String
  | other text => "=" ++ text
  | kind => kind.name

theorem key_injective {a b : CredentialKind} (h : a.key = b.key) : a = b := by
  have noName (kind : CredentialKind) (text : String) (plain : ∀ held, kind ≠ other held) :
      kind.name ≠ "=" ++ text := by
    intro same
    have first := congrArg (fun name ↦ name.toList.head?) same
    cases kind <;> simp [name] at first plain
  by_cases left : ∃ text, a = other text
  · obtain ⟨text, rfl⟩ := left
    by_cases right : ∃ text, b = other text
    · obtain ⟨text', rfl⟩ := right
      simpa [key] using h
    · have plain : ∀ held, b ≠ other held := fun held same ↦ right ⟨held, same⟩
      refine absurd ?_ (noName b text plain)
      cases b <;> first | exact h.symm | exact absurd rfl (plain _)
  · have plain : ∀ held, a ≠ other held := fun held same ↦ left ⟨held, same⟩
    by_cases right : ∃ text, b = other text
    · obtain ⟨text', rfl⟩ := right
      refine absurd ?_ (noName a text' plain)
      cases a <;> first | exact h | exact absurd rfl (plain _)
    · have plain' : ∀ held, b ≠ other held := fun held same ↦ right ⟨held, same⟩
      cases a <;> first | exact absurd rfl (plain _) | skip
      all_goals cases b <;> first | rfl | exact absurd rfl (plain' _) | exact absurd h (by decide)

instance : Labelled CredentialKind where
  label := key
  label_injective := key_injective

/-- The PUK kinds, each with the PIN kind it resets. -/
def pukResets : List (CredentialKind × CredentialKind) :=
  [(puk, pin), (puk2, pin2), (firstPhonePuk, firstPhone), (netPuk, net), (netSubPuk, netSub),
    (servicePuk, service), (corpPuk, corp)]

/-- The PIN kind that this PUK kind resets. -/
def resetTarget? (kind : CredentialKind) : Option CredentialKind := pukResets.lookup kind

/-- The PUK kind that resets this PIN kind. -/
def unblockingPuk? (kind : CredentialKind) : Option CredentialKind :=
  (pukResets.find? fun pair ↦ pair.2 == kind).map (·.1)

def isPuk (kind : CredentialKind) : Bool := kind.resetTarget?.isSome

def isPin : CredentialKind → Bool
  | pin | pin2 | phone | firstPhone | net | netSub | service | corp => true
  | _ => false

/-- The PINs of the SIM itself. -/
def isSimLevel : CredentialKind → Bool
  | pin | pin2 => true
  | _ => false

/-- The least and the greatest number of digits, for a kind whose form is known. -/
def digitRange? (kind : CredentialKind) : Option (Nat × Nat) :=
  if kind = none then some (0, 8)
  else if kind.isSimLevel then some (4, 8)
  else if kind.isPin then some (4, 16)
  else if kind.isPuk then some (8, 8)
  else .none

def isDecimal (text : String) : Bool := text.toList.all Char.isDigit

/-- Checks the digits first, then the kind, then their number. -/
def validate (kind : CredentialKind) (text : String) : Except CredentialError Unit :=
  if !isDecimal text then .error .nonDecimal
  else match kind.digitRange? with
    | .none => .error (.unknownKind kind.name)
    | some (min, max) =>
      if text.utf8ByteSize < min || max < text.utf8ByteSize then
        .error (.length kind.name min max text.utf8ByteSize)
      else .ok ()

/-- Whether the text is a credential of this kind. -/
def Accepts (kind : CredentialKind) (text : String) : Prop := kind.validate text = .ok ()

instance (kind : CredentialKind) (text : String) : Decidable (kind.Accepts text) :=
  match h : kind.validate text with
  | .ok () => isTrue h
  | .error _ => isFalse fun accepted ↦ by rw [Accepts, h] at accepted; cases accepted

@[simp] theorem isPuk_none : isPuk none = false := by decide

theorem isPuk_iff {kind : CredentialKind} :
    kind.isPuk = true ↔ ∃ target, kind.resetTarget? = some target := by
  rw [isPuk, Option.isSome_iff_exists]

/-- The kind that a daemon asks for; the word for none is no requirement. -/
def required? (value : Wire.Value) : Option CredentialKind :=
  (value.text?.map ofName).filter (· ≠ none)

def toJson (kind : CredentialKind) : Json :=
  match kind with
  | other text => .object [("Other", .text text)]
  | _ => .text kind.title

def ofJson? : Json → Option CredentialKind := Json.namedOrOther? known other

end CredentialKind

/-- Attempts left for each kind of credential. -/
abbrev Retries := SortedMap CredentialKind UInt8

namespace Retries

/-- The counts in a dictionary of small numbers; any other value holds none. -/
def ofValue (value : Wire.Value) : Retries :=
  match value.properties? with
  | some properties =>
    .ofList (properties.entries.filterMap fun entry ↦
      entry.2.octet?.map fun count ↦ (CredentialKind.ofName entry.1, count))
  | none => ∅

def toJson (retries : Retries) : Json :=
  .object (retries.toList.map fun entry ↦ (entry.1.name, .nat entry.2.toNat))

end Retries

end Uplink
