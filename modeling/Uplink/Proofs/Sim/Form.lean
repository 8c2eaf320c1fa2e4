import Mathlib.Data.String.Basic
import Mathlib.Tactic.Common
import Uplink.Sim.Credential
/-!
# What a valid credential looks like

The check of a credential goes by a table of ranges and measures the text in bytes. For every kind
of PIN and PUK this comes to a plain rule: digits only, eight of them for a PUK, from four to eight
for the PINs of the SIM itself, and from four to sixteen for all others.
-/

namespace Uplink.CredentialKind

variable {kind : CredentialKind} {text : String}

/-- Whether the text has the form of a PIN or a PUK of this kind. -/
structure HasForm (kind : CredentialKind) (text : String) : Prop where
  digits : ∀ char ∈ text.toList, char.isDigit = true
  length : if kind.isPuk then text.length = 8
    else 4 ≤ text.length ∧ text.length ≤ if kind = pin ∨ kind = pin2 then 8 else 16

theorem utf8Size_of_isDigit {char : Char} (h : char.isDigit = true) : char.utf8Size = 1 := by
  obtain ⟨-, hlast⟩ := Char.isDigit_iff_toNat.1 h
  have hbound : char.toNat ≤ 127 := Nat.le_trans hlast (by decide)
  exact Char.utf8Size_eq_one_iff.2 (UInt32.le_iff_toNat_le.2 hbound)

theorem utf8Len_of_digits {chars : List Char} (h : ∀ char ∈ chars, char.isDigit = true) :
    String.utf8Len chars = chars.length := by
  induction chars with
  | nil => rfl
  | cons char rest ih =>
    obtain ⟨hchar, hrest⟩ := List.forall_mem_cons.1 h
    rw [String.utf8Len_cons, ih hrest, utf8Size_of_isDigit hchar, List.length_cons]

/-- A text of digits has as many bytes as characters. -/
theorem utf8ByteSize_of_digits (h : ∀ char ∈ text.toList, char.isDigit = true) :
    text.utf8ByteSize = text.length := by
  calc
    text.utf8ByteSize = (String.ofList text.toList).utf8ByteSize := by rw [String.ofList_toList]
    _ = String.utf8Len text.toList := String.utf8ByteSize_ofList text.toList
    _ = text.toList.length := utf8Len_of_digits h
    _ = text.length := String.length_toList

/-- A text is accepted if it is decimal and as long as the range of its kind says. -/
theorem accepts_iff_of_digitRange? {min max : Nat}
    (hrange : kind.digitRange? = some (min, max)) :
    kind.Accepts text ↔
      (∀ char ∈ text.toList, char.isDigit = true) ∧ min ≤ text.length ∧ text.length ≤ max := by
  have hdecimal : isDecimal text = true ↔ ∀ char ∈ text.toList, char.isDigit = true :=
    List.all_eq_true
  unfold Accepts validate
  rw [hrange, ← hdecimal]
  by_cases hdigits : isDecimal text = true
  · have hbytes := utf8ByteSize_of_digits (hdecimal.1 hdigits)
    by_cases hlength : min ≤ text.length ∧ text.length ≤ max
    · have hin : ¬ (text.length < min ∨ max < text.length) := by omega
      simp [hdigits, hbytes, hin, hlength]
    · have hout : text.length < min ∨ max < text.length := by omega
      simp [hdigits, hbytes, hout, hlength]
  · simp [hdigits]

theorem digitRange?_eq (h : kind.isPin = true ∨ kind.isPuk = true) :
    kind.digitRange? =
      some (if kind.isPuk then (8, 8) else (4, if kind = pin ∨ kind = pin2 then 8 else 16)) := by
  cases kind with
  | none => exact absurd h (by decide)
  | other text =>
    have hpin : (other text).isPin = false := rfl
    have hpuk : (other text).isPuk = false := rfl
    simp [hpin, hpuk] at h
  | _ => decide

/-- The kinds of PIN and PUK accept what has their form, and nothing else. -/
theorem accepts_iff_hasForm (h : kind.isPin = true ∨ kind.isPuk = true) :
    kind.Accepts text ↔ kind.HasForm text := by
  have hrange := digitRange?_eq h
  by_cases hpuk : kind.isPuk = true
  · rw [if_pos hpuk] at hrange
    rw [accepts_iff_of_digitRange? hrange]
    constructor
    · rintro ⟨hdigits, hleast, hmost⟩
      exact ⟨hdigits, by rw [if_pos hpuk]; omega⟩
    · rintro ⟨hdigits, hlength⟩
      rw [if_pos hpuk] at hlength
      exact ⟨hdigits, hlength.ge, hlength.le⟩
  · rw [if_neg hpuk] at hrange
    rw [accepts_iff_of_digitRange? hrange]
    constructor
    · rintro ⟨hdigits, hleast, hmost⟩
      exact ⟨hdigits, by rw [if_neg hpuk]; exact ⟨hleast, hmost⟩⟩
    · rintro ⟨hdigits, hlength⟩
      rw [if_neg hpuk] at hlength
      exact ⟨hdigits, hlength⟩

/-- No other kind that a daemon can ask for accepts anything. -/
theorem isPin_or_isPuk_of_accepts (h : kind.Accepts text) (hnamed : kind ≠ none) :
    kind.isPin = true ∨ kind.isPuk = true := by
  cases kind with
  | none => exact absurd rfl hnamed
  | other name =>
    have hrange : (other name).digitRange? = .none := rfl
    unfold Accepts validate at h
    rw [hrange] at h
    split at h <;> cases h
  | _ => decide

theorem isPin_of_resetTarget? {target : CredentialKind} (h : kind.resetTarget? = some target) :
    target.isPin = true := by
  cases kind with
  | other name => cases h
  | _ => cases h <;> rfl

end Uplink.CredentialKind
