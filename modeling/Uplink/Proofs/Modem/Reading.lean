import Uplink.Proofs.Modem.Course
import Uplink.Proofs.Wire.Listing
/-!
# Reading the properties of a modem

A report about a modem is read off what is found under each name, one part of the record from each;
only the interfaces say more, namely whether the SIM manager has come or gone. So the order of the
report leaves no trace, neither in the record nor in the generation that an attachment gets.
-/

namespace Uplink

open Wire (Value Properties)

/-- Whether the SIM manager is among these interfaces. -/
def Wire.Value.offersSim (interfaces : Value) : Bool :=
  (interfaces.texts?.getD []).contains Modem.simManagerInterface

namespace Modem

/-- Every part of the description read anew, where there is a value for it. -/
def amended (modem : Modem) (found : String → Option Value) : Modem :=
  { modem with
    name := (found "Name").elim modem.name Value.nonemptyText?
    manufacturer := (found "Manufacturer").elim modem.manufacturer Value.nonemptyText?
    model := (found "Model").elim modem.model Value.nonemptyText?
    powered := (found "Powered").elim modem.powered (·.bool?.getD false)
    online := (found "Online").elim modem.online (·.bool?.getD false)
    interfaces := (found "Interfaces").elim modem.interfaces (·.texts?.getD [])
    hasConnectionManager := (found "Interfaces").elim modem.hasConnectionManager fun value ↦
      (value.texts?.getD []).contains connectionManagerInterface }

theorem amended_amended (modem : Modem) (earlier later : String → Option Value) :
    (modem.amended earlier).amended later =
      modem.amended fun key ↦ (later key).or (earlier key) := by
  simp only [amended, Service.elim_or]

theorem amended_none (modem : Modem) : (modem.amended fun _ ↦ none) = modem := rfl

theorem sameSim_amended (modem : Modem) (found : String → Option Value) :
    modem.SameSim (modem.amended found) := ⟨rfl, rfl, rfl, rfl, rfl, rfl, rfl⟩

theorem withoutSim_amended (modem : Modem) (found : String → Option Value) :
    (modem.amended found).withoutSim = modem.withoutSim.amended found := rfl

end Modem

namespace ModemRoster

theorem laterChange_assoc (first second third : ModemChange) :
    laterChange (laterChange first second) third =
      laterChange first (laterChange second third) := by
  cases third <;> rfl

def Entry.amended (entry : Entry) (found : String → Option Value) : Entry :=
  { entry with modem := entry.modem.amended found }

theorem Entry.path_amended (entry : Entry) (found : String → Option Value) :
    (entry.amended found).modem.path = entry.modem.path := rfl

theorem Entry.amended_amended (entry : Entry) (earlier later : String → Option Value) :
    (entry.amended earlier).amended later =
      entry.amended fun key ↦ (later key).or (earlier key) := by
  unfold Entry.amended
  rw [Modem.amended_amended]

/-- Reads a modem anew; its SIM manager comes or goes where the interfaces say so. -/
def amend (roster : ModemRoster) (entry : Entry) (found : String → Option Value) :
    ModemRoster × ModemChange :=
  match found "Interfaces" with
  | some interfaces => roster.setSimManager (entry.amended found) interfaces.offersSim
  | none => (roster.put (entry.amended found), .applied)

variable {roster : ModemRoster} {entry : Entry} {found earlier later : String → Option Value}

theorem amend_of_some {interfaces : Value} (h : found "Interfaces" = some interfaces) :
    roster.amend entry found =
      roster.setSimManager (entry.amended found) interfaces.offersSim := by
  unfold amend
  rw [h]

theorem amend_of_none (h : found "Interfaces" = none) :
    roster.amend entry found = (roster.put (entry.amended found), .applied) := by
  unfold amend
  rw [h]

theorem setProperty_eq_amend (h : roster.Holds entry) (key : String) (value : Value) :
    roster.setProperty entry key value =
      roster.amend entry fun name ↦ if key = name then some value else none := by
  unfold setProperty
  split
  case h_6 => rfl
  case h_7 hother =>
    have hsame : (entry.amended fun name ↦ if key = name then some value else none) = entry := by
      simp_all [Entry.amended, Modem.amended]
    rw [amend_of_none (if_neg hother), hsame, put_eq_self h]
  all_goals
    rw [amend_of_none (if_neg (by decide))]
    rfl

theorem change_eq_amend (h : roster.Holds entry) (key : String) (value : Value) :
    roster.change entry.modem.path key value =
      roster.amend entry fun name ↦ if key = name then some value else none := by
  unfold change
  rw [h]
  exact setProperty_eq_amend h key value

theorem amend_ne_untracked (roster : ModemRoster) (entry : Entry)
    (found : String → Option Value) : (roster.amend entry found).2 ≠ .untracked := by
  unfold amend
  split
  · exact setSimManager_ne_untracked _ _ _
  · exact ModemChange.noConfusion

theorem laterChange_applied {change : ModemChange} (h : change ≠ .untracked) :
    laterChange .applied change = change := by
  cases change with
  | untracked => exact absurd rfl h
  | _ => rfl

theorem putCounted_eq_put (roster : ModemRoster) {entry : Entry} {counted : Counted}
    (hpath : counted.modem.path = entry.modem.path) :
    roster.putCounted entry counted =
      ({ roster with totals := counted.totals } : ModemRoster).put
        { entry with modem := counted.modem } := by
  unfold putCounted put
  rw [hpath]

/-- What was put in the place of an entry before its SIM manager comes or goes does not matter. -/
theorem setSimManager_put (roster : ModemRoster) {first second : Entry}
    (hpath : first.modem.path = second.modem.path) (attached : Bool) :
    (roster.put first).setSimManager second attached = roster.setSimManager second attached := by
  unfold setSimManager
  split
  · exact Prod.ext (put_put roster.count hpath) rfl
  · exact Prod.ext (putCounted_put roster.count hpath) rfl
  · exact Prod.ext (put_put roster.count hpath) rfl

/-- A modem can be described before its SIM manager comes or goes, or afterwards. -/
theorem setSimManager_amended (roster : ModemRoster) (entry : Entry) (attached : Bool)
    (found : String → Option Value) :
    let changed := roster.setSimManager entry attached
    ∃ after, changed.1.Holds after ∧ after.modem.path = entry.modem.path ∧
      roster.setSimManager (entry.amended found) attached =
        (changed.1.put (after.amended found), changed.2) := by
  dsimp only
  by_cases hsame : entry.modem.hasSimManager = attached
  · have hsame' : (entry.amended found).modem.hasSimManager = attached := hsame
    rw [setSimManager_same hsame, setSimManager_same hsame']
    refine ⟨entry, holds_put _ _, rfl, ?_⟩
    rw [put_put _ (entry.path_amended found).symm]
  · cases attached with
    | true =>
      have hbare : entry.modem.hasSimManager = false := by simpa using hsame
      have hbare' : (entry.amended found).modem.hasSimManager = false := hbare
      rw [setSimManager_attach hbare, setSimManager_attach hbare']
      refine ⟨entry.attach (roster.generation + 1), holds_put _ _, rfl, ?_⟩
      rw [put_put _ ((entry.attach _).path_amended found).symm]
      rfl
    | false =>
      have hattached : entry.modem.hasSimManager = true := by simpa using hsame
      have hattached' : (entry.amended found).modem.hasSimManager = true := hattached
      rw [setSimManager_detach hattached, setSimManager_detach hattached',
        putCounted_eq_put _ rfl, putCounted_eq_put _ rfl]
      refine ⟨{ entry with modem := entry.modem.withoutSim }, holds_put _ _, rfl, ?_⟩
      rw [put_put]
      · rfl
      · rfl

/-- Two readings come to one, if at most one of them has the interfaces. -/
theorem amend_amend (roster : ModemRoster) (entry : Entry)
    {earlier later : String → Option Value}
    (honce : earlier "Interfaces" = none ∨ later "Interfaces" = none) :
    let changed := roster.amend entry earlier
    ∃ after, changed.1.Holds after ∧ after.modem.path = entry.modem.path ∧
      (roster.amend entry fun key ↦ (later key).or (earlier key)) =
        ((changed.1.amend after later).1,
          laterChange changed.2 (changed.1.amend after later).2) := by
  dsimp only
  cases hearlier : earlier "Interfaces" with
  | none =>
    rw [amend_of_none hearlier]
    refine ⟨entry.amended earlier, holds_put _ _, rfl, ?_⟩
    rw [laterChange_applied (amend_ne_untracked _ _ _)]
    have hpath : (entry.amended earlier).modem.path =
        (entry.amended fun key ↦ (later key).or (earlier key)).modem.path := rfl
    cases hlater : later "Interfaces" with
    | none =>
      rw [amend_of_none (by rw [hearlier, hlater]; rfl), amend_of_none hlater,
        Entry.amended_amended, put_put _ hpath]
    | some interfaces =>
      rw [amend_of_some (by rw [hlater]; rfl), amend_of_some hlater, Entry.amended_amended,
        setSimManager_put _ hpath]
  | some interfaces =>
    have hlater := honce.resolve_left (by rw [hearlier]; exact nofun)
    rw [amend_of_some hearlier]
    obtain ⟨after, hafter, hpath, hboth⟩ :=
      roster.setSimManager_amended (entry.amended earlier) interfaces.offersSim later
    refine ⟨after, hafter, hpath, ?_⟩
    rw [amend_of_some (by rw [hearlier, hlater]; rfl), ← Entry.amended_amended, hboth,
      amend_of_none hlater]
    rfl

/-- The properties of a report come to one reading, as no two of them are the interfaces. -/
theorem foldl_change {entries : List (String × Value)} (hdistinct : (entries.map (·.1)).Nodup)
    (hentry : roster.Holds entry) (before : ModemChange) :
    entries.foldl
        (fun (state : ModemRoster × ModemChange) property ↦
          ((state.1.change entry.modem.path property.1 property.2).1,
            laterChange state.2 (state.1.change entry.modem.path property.1 property.2).2))
        (roster, before) =
      ((roster.amend entry (lastValue? entries)).1,
        laterChange before (roster.amend entry (lastValue? entries)).2) := by
  induction entries generalizing roster entry before with
  | nil =>
    rw [List.foldl_nil, amend_of_none rfl]
    exact Prod.ext (put_eq_self hentry).symm rfl
  | cons property rest ih =>
    obtain ⟨key, value⟩ := property
    obtain ⟨hfresh, hrest⟩ := List.nodup_cons.1 hdistinct
    let first (name : String) : Option Value := if key = name then some value else none
    have honce : first "Interfaces" = none ∨ lastValue? rest "Interfaces" = none := by
      by_cases hkey : key = "Interfaces"
      · exact .inr (lastValue?_eq_none_iff.2 (hkey ▸ hfresh))
      · exact .inl (if_neg hkey)
    obtain ⟨after, hafter, hpath, hboth⟩ := roster.amend_amend entry honce
    rw [List.foldl_cons]
    dsimp only
    rw [change_eq_amend hentry, ← hpath, ih hrest hafter, laterChange_assoc]
    exact (congrArg (fun state : ModemRoster × ModemChange ↦
      (state.1, laterChange before state.2)) hboth).symm

/-- A report about a tracked modem is read off what is found under each name. -/
theorem merge_eq_amend (hentry : roster.Holds entry) (properties : Properties) :
    roster.merge entry.modem.path properties = roster.amend entry properties.get? := by
  have hfound : lastValue? properties.entries = properties.get? :=
    funext properties.lastValue?_entries
  have hmerged := foldl_change properties.distinct hentry .applied
  rw [hfound, laterChange_applied (amend_ne_untracked _ _ _)] at hmerged
  exact hmerged

theorem Keyed.add_eq_amend (hkeyed : roster.Keyed) (path : ObjectPath) (properties : Properties) :
    roster.add path properties =
      match roster.entries.get? path with
      | some entry => roster.amend entry properties.get?
      | none => (roster.put { modem := { path } }).amend { modem := { path } } properties.get? := by
  unfold add contains SortedMap.contains
  cases hentry : roster.entries.get? path with
  | some entry =>
    obtain rfl := hkeyed.path_of_get? hentry
    exact merge_eq_amend hentry properties
  | none => exact merge_eq_amend (holds_put roster { modem := { path } }) properties

/-- The order of a report about a modem does not matter. -/
theorem Keyed.add_relists (hkeyed : roster.Keyed) (path : ObjectPath) {a b : Properties}
    (h : a.Relists b) : roster.add path a = roster.add path b := by
  rw [hkeyed.add_eq_amend, hkeyed.add_eq_amend, h.get?_eq]

theorem Keyed.refresh_relists (hkeyed : roster.Keyed) (path : ObjectPath) {a b : Properties}
    (h : a.Relists b) : roster.refresh path a = roster.refresh path b := by
  unfold refresh
  rw [hkeyed.add_relists path h]

end ModemRoster

/-- A full report of the SIM goes by look-ups alone. -/
theorem Counted.report_relists (counted : Counted) {a b : Properties} (h : a.Relists b) :
    counted.report a = counted.report b := by
  unfold report
  rw [h.get?_eq]

theorem ModemRoster.completeFetch?_relists (roster : ModemRoster) (ticket : Ticket)
    {a b : Properties} (h : a.Relists b) :
    roster.completeFetch? ticket a = roster.completeFetch? ticket b := by
  unfold completeFetch?
  simp only [Counted.report_relists _ h]

end Uplink
