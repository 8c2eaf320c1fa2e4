/-!
# Blank text

Text that holds white space only. White space is the `White_Space` property of the Unicode character
database, so the no-break space and the ideographic space count, and the zero-width space does not.
-/

namespace Uplink.Text

def isWhiteSpace (c : Char) : Bool :=
  (0x09 ≤ c.toNat && c.toNat ≤ 0x0d) || c.toNat == 0x20 || c.toNat == 0x85 || c.toNat == 0xa0 ||
  c.toNat == 0x1680 || (0x2000 ≤ c.toNat && c.toNat ≤ 0x200a) || c.toNat == 0x2028 ||
  c.toNat == 0x2029 || c.toNat == 0x202f || c.toNat == 0x205f || c.toNat == 0x3000

/-- Whether trimming would leave nothing. -/
def isBlank (text : String) : Bool := text.toList.all isWhiteSpace

@[simp] theorem isBlank_empty : isBlank "" = true := by simp [isBlank]

theorem isWhiteSpace_of_isWhitespace {c : Char} (h : c.isWhitespace = true) :
    isWhiteSpace c = true := by
  simp only [Char.isWhitespace, Bool.or_eq_true, decide_eq_true_eq] at h
  rcases h with ((rfl | rfl) | rfl) | rfl <;> decide

end Uplink.Text
