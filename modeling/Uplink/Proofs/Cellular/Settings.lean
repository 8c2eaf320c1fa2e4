import Uplink.Cellular.Setup
import Uplink.Proofs.Cellular.Sequence
import Uplink.Proofs.Wire.Listing
/-!
# The settings of a context are read back

The wizard lists the properties to write, and a context is read from the properties that it has.
Both know the names of the properties and what an empty text means. Whatever a context had before,
once the writes of a configuration are stored it is read with the access point and the credentials
that were asked for, and its kind and whether it is active are as before.
-/

namespace Uplink

open Wire (Value Properties)
open Remote (Call)

/-- The properties of an object after a call that sets one of them. -/
def Remote.Call.store (properties : Properties) (call : Call) : Properties :=
  match call.args with
  | .property key value => properties.set key value
  | _ => properties

namespace ContextSettings

/-- The properties of these settings as values, each under a name of its own. -/
def written (settings : ContextSettings) : Properties where
  entries := settings.properties.map fun property ↦ (property.1, .text property.2)
  distinct := by
    rw [List.map_map]
    cases hname : settings.name <;> simp [properties, hname]

variable (settings : ContextSettings) (context : ObjectPath) (properties : Properties)

/-- The properties of a context after the calls that write these settings to it. -/
def stored : Properties :=
  (settings.properties.map (Cellular.setContextProperty context)).foldl Call.store properties

/-- What the settings say is found, and otherwise what was there before. -/
theorem get?_stored (key : String) :
    (settings.stored context properties).get? key =
      (settings.written.get? key).or (properties.get? key) := by
  rw [← settings.written.lastValue?_entries, ← Properties.get?_foldl_set, written, List.foldl_map,
    stored, List.foldl_map]
  rfl

theorem get?_stored_of_mem {key text : String} (h : (key, text) ∈ settings.properties) :
    (settings.stored context properties).get? key = some (.text text) := by
  have hwritten : settings.written.get? key = some (.text text) :=
    Properties.get?_eq_some_iff.2 (List.mem_map.2 ⟨(key, text), h, rfl⟩)
  rw [get?_stored, hwritten, Option.some_or]

theorem get?_stored_of_not_mem {key : String} (h : key ∉ settings.properties.map (·.1)) :
    (settings.stored context properties).get? key = properties.get? key := by
  have hwritten : settings.written.get? key = none := by
    rw [← settings.written.lastValue?_entries, lastValue?_eq_none_iff, written, List.map_map]
    exact h
  rw [get?_stored, hwritten, Option.none_or]

/-- An empty name reads as none, and without a name the context keeps the one it has. -/
theorem nonemptyText?_stored_name :
    ((settings.stored context properties).get? "Name").bind Value.nonemptyText? =
      settings.name.elim ((properties.get? "Name").bind Value.nonemptyText?)
        fun name ↦ if name = "" then none else some name := by
  cases hname : settings.name with
  | none =>
    have hfree : "Name" ∉ settings.properties.map (·.1) := by
      simp [ContextSettings.properties, hname]
    rw [get?_stored_of_not_mem settings context properties hfree]
    rfl
  | some name =>
    have hwritten : ("Name", name) ∈ settings.properties := by
      simp [ContextSettings.properties, hname]
    rw [get?_stored_of_mem settings context properties hwritten]
    by_cases hempty : name = "" <;> simp [Value.nonemptyText?, hempty]

theorem ofProperties_stored (path : ObjectPath) :
    CellularContext.ofProperties path (settings.stored context properties) =
      { CellularContext.ofProperties path properties with
        settings :=
          { settings with
            name := settings.name.elim (CellularContext.ofProperties path properties).settings.name
              fun name ↦ if name = "" then none else some name } } := by
  have hkept (key : String) (hkey : key ∉ ["Name", "AccessPointName", "Username", "Password"]) :
      (settings.stored context properties).get? key = properties.get? key := by
    apply get?_stored_of_not_mem
    cases hname : settings.name <;> simp_all [ContextSettings.properties]
  have htext (key text : String)
      (hmem : (key, text) ∈ [("AccessPointName", settings.accessPointName),
        ("Username", settings.username), ("Password", settings.password)]) :
      (settings.stored context properties).get? key = some (.text text) :=
    settings.get?_stored_of_mem context properties (List.mem_append_right _ hmem)
  unfold CellularContext.ofProperties
  simp only [Option.bind_eq_bind, nonemptyText?_stored_name, hkept "Type" (by decide),
    hkept "Active" (by decide), htext "AccessPointName" settings.accessPointName (by simp),
    htext "Username" settings.username (by simp), htext "Password" settings.password (by simp),
    Option.bind_some, Value.text?_text, Option.getD_some]

end ContextSettings

namespace CellularContext

/-- Once the calls that write what a wizard asks for are stored, a context is read with the settings
of the wizard, whatever it had before. An empty name reads as none, and without a name the context
keeps the one it has. With a name for its access point it is not unconfigured. -/
theorem read_configured {wizard after : ContextWizard} {report : ContextWizard.Report}
    {context : ObjectPath} {written : List (String × String)}
    (hasked : wizard.handle report = (after, .ok (.configure context written)))
    (hname : wizard.settings.accessPointName ≠ "") (path : ObjectPath) (properties : Properties) :
    let before := ofProperties path properties
    let read := ofProperties path
      ((written.map (Cellular.setContextProperty context)).foldl Call.store properties)
    read =
      { path
        kind := before.kind
        active := before.active
        settings :=
          { name := wizard.settings.name.elim before.settings.name
              fun name ↦ if name = "" then none else some name
            accessPointName := wizard.settings.accessPointName
            username := wizard.settings.username
            password := wizard.settings.password } } ∧
      read.isUnconfigured = false := by
  intro before read
  have hread : read = ofProperties path (wizard.settings.stored context properties) := by
    rw [ContextSettings.stored, ContextSettings.properties_eq_told,
      ← (ContextWizard.advances_of_handle hasked).written_eq]
  rw [hread, ContextSettings.ofProperties_stored]
  refine ⟨rfl, ?_⟩
  have hnonempty : wizard.settings.accessPointName.isEmpty = false :=
    Bool.eq_false_iff.2 fun h ↦ hname (String.isEmpty_iff.1 h)
  rw [isUnconfigured, hnonempty, Bool.false_and, Bool.false_and]

/-- A context that has a name is configured with an empty one, and is read without a name. -/
theorem read_configured_created :
    let settings : ContextSettings :=
      { name := some "", accessPointName := "internet.example", password := "secret" }
    let wizard : ContextWizard := { settings, state := .creating }
    let context : ObjectPath := ⟨"/context3", by decide⟩
    let properties : Properties := .ofPairs [("Type", .text "internet"), ("Name", .text "Internet"),
      ("Active", .bool true), ("Username", .text "user")]
    (wizard.handle (.created context)).2 = .ok (.configure context settings.properties) ∧
      settings.accessPointName ≠ "" ∧
      ofProperties context ((settings.properties.map (Cellular.setContextProperty context)).foldl
          Call.store properties) =
        { path := context, kind := some "internet", active := true,
          settings := { accessPointName := "internet.example", password := "secret" } } := by
  intro settings wizard context properties
  have hname : settings.accessPointName ≠ "" := by decide
  have hasked : wizard.handle (.created context) =
      ({ settings, state := .configuring context }, .ok (.configure context settings.properties)) :=
    rfl
  refine ⟨rfl, hname, ?_⟩
  rw [(read_configured hasked hname context properties).1]
  decide

end CellularContext

end Uplink
