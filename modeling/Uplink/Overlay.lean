import Uplink.Json
/-!
# Configured over effective

Some properties of a service have two sides: what is in effect, as the daemon negotiated it, and
what was configured by hand. Where a configured side is present it is the one to show.
-/

namespace Uplink

/-- The two sides of a property that can be configured. -/
structure Overlay (α : Type) where
  effective : Option α := none
  configured : Option α := none
deriving DecidableEq

namespace Overlay

variable {α : Type}

instance : Inhabited (Overlay α) := ⟨{}⟩

/-- The configured side if there is one, else the effective side. -/
def resolved (overlay : Overlay α) : Option α := overlay.configured <|> overlay.effective

def resolvedOr (overlay : Overlay α) (fallback : α) : α := overlay.resolved.getD fallback

def isConfigured (overlay : Overlay α) : Bool := overlay.configured.isSome

def isEmpty (overlay : Overlay α) : Bool := overlay.effective.isNone && overlay.configured.isNone

def setEffective (overlay : Overlay α) (value : Option α) : Overlay α :=
  { overlay with effective := value }

def setConfigured (overlay : Overlay α) (value : Option α) : Overlay α :=
  { overlay with configured := value }

def clearConfigured (overlay : Overlay α) : Overlay α := overlay.setConfigured none

def replace (_ : Overlay α) (effective configured : Option α) : Overlay α :=
  { effective, configured }

theorem isEmpty_iff (overlay : Overlay α) : overlay.isEmpty = true ↔ overlay.resolved = none := by
  obtain ⟨effective, configured⟩ := overlay
  cases effective <;> cases configured <;> simp [isEmpty, resolved]

def toJson (store : α → Json) (overlay : Overlay α) : Json :=
  .object [("effective", .ofOption store overlay.effective),
    ("configured", .ofOption store overlay.configured)]

def ofJson? (read : Json → Option α) (json : Json) : Option (Overlay α) := do
  let field ← json.record? ["effective", "configured"]
  let effective ← Json.optional read (field "effective")
  let configured ← Json.optional read (field "configured")
  some { effective, configured }

end Overlay

end Uplink
