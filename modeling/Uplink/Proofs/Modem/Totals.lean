import Uplink.Proofs.Modem.Course
/-!
# The totals over all modems

The number of SIMs and the credentials waited for are adjusted with each change and never counted
anew, and yet they are at all times what a scan of the modems finds. Each change of a modem adjusts
the totals by what this modem contributes, and by nothing else; a SIM that leaves the count is one
that is in it. Without its SIM manager a modem contributes nothing.
-/

namespace Uplink

open Wire (Value Properties)

namespace SimTotals

/-- The modems that wait for a PUK, or those that wait for a PIN. -/
def waiting (totals : SimTotals) : Bool → SortedMap ObjectPath CredentialKind
  | true => totals.lockedPuks
  | false => totals.requiredPins

/-- What each of these modems waits for, if that is a PUK, or if it is a PIN. -/
def waitingIn (modems : List Modem) (puk : Bool) : SortedMap ObjectPath CredentialKind :=
  modems.foldr
    (fun modem kinds ↦ kinds.assign modem.path (modem.required.filter (·.isPuk == puk))) ∅

/-- The totals as a scan of the modems finds them. -/
def scan (modems : List Modem) : SimTotals where
  present := modems.countP (·.simPresent)
  requiredPins := waitingIn modems false
  lockedPuks := waitingIn modems true

theorem find?_waitingIn (modems : List Modem) (puk : Bool) (text : String) :
    (waitingIn modems puk).find? text =
      (modems.find? fun modem ↦ modem.path.text == text).bind
        (·.required.filter (·.isPuk == puk)) := by
  induction modems with
  | nil => rfl
  | cons modem rest ih =>
    change (SortedMap.assign (waitingIn rest puk) modem.path _).find? text = _
    rw [SortedMap.find?_assign, ih, List.find?_cons]
    change (if modem.path.text = text then _ else _) = _
    by_cases hpath : modem.path.text = text
    · rw [if_pos hpath, beq_iff_eq.2 hpath]
      rfl
    · rw [if_neg hpath, beq_eq_false_iff_ne.2 hpath]

theorem ext_waiting {a b : SimTotals} (hpresent : a.present = b.present)
    (hwaiting : ∀ puk text, (a.waiting puk).find? text = (b.waiting puk).find? text) : a = b := by
  have hpins : a.requiredPins = b.requiredPins := SortedMap.ext_find? (hwaiting false)
  have hpuks : a.lockedPuks = b.lockedPuks := SortedMap.ext_find? (hwaiting true)
  cases a
  cases b
  simp_all

theorem find?_waiting_setRequired (totals : SimTotals) (path : ObjectPath)
    (required : Option CredentialKind) (puk : Bool) (text : String) :
    ((totals.setRequired path required).waiting puk).find? text =
      if path.text = text then required.filter (·.isPuk == puk)
      else (totals.waiting puk).find? text := by
  cases puk with
  | true =>
    change (totals.lockedPuks.assign path (required.filter CredentialKind.isPuk)).find? text = _
    rw [SortedMap.find?_assign]
    simp [Labelled.label, waiting]
  | false =>
    change (totals.requiredPins.assign path (required.filter fun kind ↦ !kind.isPuk)).find? text = _
    rw [SortedMap.find?_assign]
    simp [Labelled.label, waiting]

@[simp] theorem waiting_countPresent (totals : SimTotals) (before after : Bool) :
    (totals.countPresent before after).waiting = totals.waiting := by
  funext puk
  cases puk <;> cases before <;> cases after <;> rfl

/-- A SIM that leaves the count must be in it. -/
theorem present_countPresent {totals : SimTotals} {before : Bool} (after : Bool)
    (h : before = true → 0 < totals.present) :
    (totals.countPresent before after).present + before.toNat =
      totals.present + after.toNat := by
  cases before with
  | false => cases after <;> rfl
  | true =>
    have hcounted := h rfl
    cases after with
    | true => rfl
    | false =>
      change totals.present - 1 + 1 = totals.present + 0
      omega

end SimTotals

namespace Counted

/-- Whether the totals hold what this modem contributes. -/
structure Sound (counted : Counted) : Prop where
  present : counted.modem.simPresent = true → 0 < counted.totals.present
  waiting : ∀ puk, (counted.totals.waiting puk).find? counted.modem.path.text =
    counted.modem.required.filter (·.isPuk == puk)

/-- Whether the totals changed by what this modem contributes, and by nothing else. -/
structure Adjusts (before after : Counted) : Prop where
  path : after.modem.path = before.modem.path
  present : after.totals.present + before.modem.simPresent.toNat =
    before.totals.present + after.modem.simPresent.toNat
  waiting : ∀ puk text, (after.totals.waiting puk).find? text =
    if before.modem.path.text = text then after.modem.required.filter (·.isPuk == puk)
    else (before.totals.waiting puk).find? text

variable {before middle after : Counted}

theorem Adjusts.trans (h : before.Adjusts middle) (h' : middle.Adjusts after) :
    before.Adjusts after where
  path := h'.path.trans h.path
  present := by
    have hfirst := h.present
    have hsecond := h'.present
    omega
  waiting puk text := by
    rw [h'.waiting, h.waiting, h.path]
    split <;> rfl

theorem Adjusts.sound (h : before.Adjusts after) (hsound : before.Sound) : after.Sound where
  present hpresent := by
    have hadjusted := h.present
    rw [hpresent] at hadjusted
    cases hbefore : before.modem.simPresent with
    | false =>
      rw [hbefore] at hadjusted
      change _ + 0 = _ + 1 at hadjusted
      omega
    | true =>
      have hcounted := hsound.present hbefore
      rw [hbefore] at hadjusted
      omega
  waiting puk := by rw [h.waiting, h.path, if_pos rfl]

/-- What does not touch the SIM's presence or its requirement needs no adjustment. -/
theorem Sound.adjusts_of_same (h : before.Sound) (htotals : after.totals = before.totals)
    (hpath : after.modem.path = before.modem.path)
    (hpresent : after.modem.simPresent = before.modem.simPresent)
    (hrequired : after.modem.required = before.modem.required) : before.Adjusts after where
  path := hpath
  present := by rw [htotals, hpresent]
  waiting puk text := by
    rw [htotals, hrequired]
    split
    next htext => rw [← htext, h.waiting]
    next => rfl

theorem Sound.adjusts_setPresent (h : before.Sound) (present : Bool) :
    before.Adjusts (before.setPresent present) where
  path := rfl
  present := SimTotals.present_countPresent present h.present
  waiting puk text := by
    change ((SimTotals.countPresent _ _ _).waiting puk).find? text = _
    rw [SimTotals.waiting_countPresent]
    split
    next htext => rw [← htext, h.waiting]; rfl
    next => rfl

theorem adjusts_setRequired (counted : Counted) (required : Option CredentialKind) :
    counted.Adjusts (counted.setRequired required) where
  path := rfl
  present := rfl
  waiting puk text := SimTotals.find?_waiting_setRequired _ _ required puk text

theorem Sound.adjusts_clearSim (h : before.Sound) : before.Adjusts before.clearSim := by
  have hpresent := h.adjusts_setPresent false
  let emptied : Counted :=
    { before.setPresent false with
      modem := { (before.setPresent false).modem with retries := ∅, subscriberIdentity := none } }
  have hemptied : (before.setPresent false).Adjusts emptied :=
    (hpresent.sound h).adjusts_of_same rfl rfl rfl rfl
  have hrequired := emptied.adjusts_setRequired none
  have hsound := (hpresent.trans (hemptied.trans hrequired)).sound h
  exact hpresent.trans (hemptied.trans (hrequired.trans (hsound.adjusts_of_same rfl rfl rfl rfl)))

theorem Sound.adjusts_report (h : before.Sound) (properties : Properties) :
    before.Adjusts (before.report properties) := by
  let present := (properties.get? "Present" >>= Value.bool?).getD false
  let identity := properties.get? "SubscriberIdentity" >>= Value.nonemptyText?
  let retries := (properties.get? "Retries").elim ∅ Retries.ofValue
  have hpresent := h.adjusts_setPresent present
  have hcounts : (before.setPresent present).Adjusts
      (((before.setPresent present).setIdentity identity).setRetries retries) :=
    (hpresent.sound h).adjusts_of_same rfl rfl rfl rfl
  exact hpresent.trans (hcounts.trans (adjusts_setRequired _ _))

theorem Sound.adjusts_setProperty? (h : before.Sound) {key : String} {value : Value}
    (hchange : before.setProperty? key value = some after) : before.Adjusts after := by
  unfold setProperty? at hchange
  split at hchange
  · obtain rfl := Option.some.inj hchange
    exact h.adjusts_setPresent _
  · obtain rfl := Option.some.inj hchange
    exact before.adjusts_setRequired _
  · obtain rfl := Option.some.inj hchange
    exact h.adjusts_of_same rfl rfl rfl rfl
  · obtain rfl := Option.some.inj hchange
    exact h.adjusts_of_same rfl rfl rfl rfl
  · cases hchange

end Counted

namespace SimTotals

variable {totals totals' : SimTotals} {entries : SortedMap ObjectPath ModemRoster.Entry}

/-- Whether the totals are those of these entries. -/
structure AccountsFor (totals : SimTotals) (entries : SortedMap ObjectPath ModemRoster.Entry) :
    Prop where
  present : totals.present = entries.values.countP (·.modem.simPresent)
  waiting : ∀ puk text, (totals.waiting puk).find? text =
    (entries.find? text).bind (·.modem.required.filter (·.isPuk == puk))

theorem AccountsFor.sound (h : totals.AccountsFor entries) {entry : ModemRoster.Entry}
    (hentry : entries.get? entry.modem.path = some entry) :
    (Counted.mk entry.modem totals).Sound where
  present hpresent := by
    have hcount := entries.countP_erase entry.modem.path (·.modem.simPresent)
    rw [hentry, Option.any_some, hpresent, ← h.present] at hcount
    change _ + 1 = _ at hcount
    change 0 < totals.present
    omega
  waiting puk := by
    have hfind : entries.find? entry.modem.path.text = some entry := hentry
    rw [h.waiting, hfind]
    rfl

/-- An adjustment keeps the totals those of the entries, in which the modem is changed. -/
theorem AccountsFor.insert (h : totals.AccountsFor entries) (entry changed : ModemRoster.Entry)
    (hentry : entries.get? entry.modem.path = some entry)
    (hadjusts : (Counted.mk entry.modem totals).Adjusts ⟨changed.modem, totals'⟩) :
    totals'.AccountsFor (entries.insert entry.modem.path changed) where
  present := by
    have hcount := entries.countP_insert entry.modem.path changed (·.modem.simPresent)
    have hadjusted := hadjusts.present
    dsimp only at hadjusted
    rw [hentry, Option.any_some, ← h.present] at hcount
    omega
  waiting puk text := by
    have hadjusted := hadjusts.waiting puk text
    dsimp only at hadjusted
    rw [hadjusted, SortedMap.find?_insert, h.waiting]
    change _ = Option.bind (if entry.modem.path.text = text then _ else _) _
    split <;> rfl

theorem AccountsFor.announce (h : totals.AccountsFor entries) {path : ObjectPath}
    (hnew : entries.get? path = none) :
    totals.AccountsFor (entries.insert path { modem := { path } }) where
  present := by
    have hcount := entries.countP_insert path { modem := { path } } (·.modem.simPresent)
    rw [hnew, ← h.present] at hcount
    exact hcount.symm
  waiting puk text := by
    rw [SortedMap.find?_insert, h.waiting]
    split
    next htext =>
      have hfind : entries.find? text = none := htext ▸ hnew
      rw [hfind]
      rfl
    next => rfl

theorem AccountsFor.erase (h : totals.AccountsFor entries) {entry : ModemRoster.Entry}
    (hentry : entries.get? entry.modem.path = some entry) :
    (Counted.mk entry.modem totals).clearSim.totals.AccountsFor
      (entries.erase entry.modem.path) where
  present := by
    have hcount := entries.countP_erase entry.modem.path (·.modem.simPresent)
    have hadjusted := (h.sound hentry).adjusts_clearSim.present
    change _ = totals.present + 0 at hadjusted
    dsimp only at hadjusted
    rw [hentry, Option.any_some, ← h.present] at hcount
    omega
  waiting puk text := by
    have hadjusted := (h.sound hentry).adjusts_clearSim.waiting puk text
    dsimp only at hadjusted
    rw [hadjusted, SortedMap.find?_erase, h.waiting]
    change _ = Option.bind (if entry.modem.path.text = text then _ else _) _
    split <;> rfl

end SimTotals

namespace ModemRoster

variable {roster roster' : ModemRoster}

/-- Whether the totals are those of the modems. -/
def Accounted (roster : ModemRoster) : Prop := roster.totals.AccountsFor roster.entries

theorem Accounted.sound (h : roster.Accounted) {entry : Entry} (hentry : roster.Holds entry) :
    (roster.counted entry).Sound := SimTotals.AccountsFor.sound h hentry

theorem Accounted.putCounted (h : roster.Accounted) {entry : Entry} (hentry : roster.Holds entry)
    (changed : Entry) (hpath : changed.modem.path = entry.modem.path) {counted : Counted}
    (hadjusts : (roster.counted entry).Adjusts counted) :
    (roster.putCounted changed counted).Accounted := by
  unfold Accounted ModemRoster.putCounted
  rw [hpath]
  exact SimTotals.AccountsFor.insert h entry { changed with modem := counted.modem } hentry hadjusts

/-- A change that leaves the SIM's presence and its requirement alone needs no adjustment. -/
theorem Accounted.put (h : roster.Accounted) {entry : Entry} (hentry : roster.Holds entry)
    {changed : Entry} (hpath : changed.modem.path = entry.modem.path)
    (hpresent : changed.modem.simPresent = entry.modem.simPresent)
    (hrequired : changed.modem.required = entry.modem.required) :
    (roster.put changed).Accounted := by
  have hadjusts : (roster.counted entry).Adjusts (roster.counted changed) :=
    (h.sound hentry).adjusts_of_same rfl hpath hpresent hrequired
  exact h.putCounted hentry changed hpath hadjusts

theorem Move.accounted (hmove : Move roster roster') (h : roster.Accounted) :
    roster'.Accounted := by
  cases hmove with
  | announce hnew => exact SimTotals.AccountsFor.announce h hnew
  | describe hentry hsame =>
    exact h.put hentry hsame.path.symm hsame.simPresent.symm hsame.required.symm
  | count => exact h
  | attach hentry hbare => exact Accounted.put h hentry rfl rfl rfl
  | @detach entry hentry hattached =>
    have hdetach : (roster.counted entry).Adjusts (roster.counted entry.detach) :=
      (h.sound hentry).adjusts_of_same rfl rfl rfl rfl
    have hclear := (hdetach.sound (h.sound hentry)).adjusts_clearSim
    exact Accounted.putCounted h hentry entry.detach rfl (hdetach.trans hclear)
  | report hentry hattached =>
    exact h.putCounted hentry _ rfl ((h.sound hentry).adjusts_report _)
  | change hentry hattached hchange =>
    exact h.putCounted hentry _ rfl ((h.sound hentry).adjusts_setProperty? hchange)
  | note hentry hattached hnote => exact h.put hentry rfl rfl rfl
  | complete hentry => exact h.put hentry rfl rfl rfl
  | forget hentry => exact SimTotals.AccountsFor.erase h hentry

theorem Moves.accounted (hmoves : Moves roster roster') (h : roster.Accounted) :
    roster'.Accounted := by
  induction hmoves with
  | refl => exact h
  | tail _ hmove ih => exact hmove.accounted ih

theorem accounted_empty : ({} : ModemRoster).Accounted where
  present := rfl
  waiting puk text := by cases puk <;> rfl

/-- The totals of the modems are those that a scan finds. -/
theorem Accounted.eq_scan (h : roster.Accounted) (hkeyed : roster.Keyed) :
    roster.totals = .scan roster.modems := by
  apply SimTotals.ext_waiting
  · change _ = (roster.entries.values.map (·.modem)).countP (·.simPresent)
    rw [h.present, List.countP_map]
    rfl
  · intro puk text
    have hscan : ((SimTotals.scan roster.modems).waiting puk).find? text =
        (SimTotals.waitingIn roster.modems puk).find? text := by cases puk <;> rfl
    rw [hscan, SimTotals.find?_waitingIn, hkeyed.find?_modems, h.waiting]
    unfold find?
    cases roster.entries.find? text <;> rfl

/-- The modems are listed in strictly ascending order of their paths. -/
theorem Keyed.ascending (hkeyed : roster.Keyed) :
    roster.modems.Pairwise fun a b ↦ a.path.text < b.path.text := by
  have hpaths (entry : ObjectPath × Entry) (hentry : entry ∈ roster.entries.entries) :
      entry.2.modem.path.text = entry.1.text := hkeyed _ _ (SortedMap.get?_of_mem hentry)
  unfold modems SortedMap.values
  rw [List.pairwise_map, List.pairwise_map]
  refine roster.entries.ascending.imp_of_mem ?_
  intro a b ha hb hlabels
  rw [hpaths a ha, hpaths b hb]
  exact hlabels

theorem Keyed.mem_modems_of_find? (hkeyed : roster.Keyed) {text : String} {modem : Modem}
    (h : roster.find? text = some modem) : modem ∈ roster.modems ∧ modem.path.text = text := by
  rw [← hkeyed.find?_modems] at h
  have hpath := List.find?_some h
  exact ⟨List.mem_of_find?_eq_some h, beq_iff_eq.1 hpath⟩

theorem Keyed.mem_modems_iff (hkeyed : roster.Keyed) {modem : Modem} :
    modem ∈ roster.modems ↔ roster.find? modem.path.text = some modem := by
  constructor
  · intro hmodem
    obtain ⟨entry, hvalue, rfl⟩ := List.mem_map.1 hmodem
    obtain ⟨⟨path, held⟩, hentry, rfl⟩ := List.mem_map.1 hvalue
    have hfind : roster.entries.find? path.text = some held := SortedMap.get?_of_mem hentry
    unfold find?
    rw [hkeyed path.text held hfind, hfind]
    rfl
  · exact fun hfind ↦ (hkeyed.mem_modems_of_find? hfind).1

end ModemRoster

namespace Modem

/-- Whether a modem shows nothing of a SIM. -/
def ShowsNoSim (modem : Modem) : Prop :=
  modem.simPresent = false ∧ modem.required = none ∧ modem.retries = ∅ ∧
    modem.subscriberIdentity = none

theorem stable_showsNoSim : Stable fun modem ↦ modem.hasSimManager = false → modem.ShowsNoSim := by
  apply Stable.of_bare
  · exact fun path ↦ ⟨rfl, rfl, rfl, rfl⟩
  · intro modem described h hsame
    unfold ShowsNoSim
    rw [← hsame.simPresent, ← hsame.required, ← hsame.retries, ← hsame.subscriberIdentity]
    exact h
  · exact fun modem ↦ ⟨rfl, rfl, rfl, rfl⟩
  · exact fun modem request outcome h ↦ h

end Modem

namespace Tracker

theorem Reachable.accounted {tracker : Tracker} (h : tracker.Reachable) :
    tracker.modems.Accounted := h.moves.accounted ModemRoster.accounted_empty

/-- Two modems: the SIM of the first waits for its PIN, that of the second for its PUK. -/
def twoSims : List Event :=
  let manager := Value.ofTexts [Modem.simManagerInterface]
  [.modemsListed [(onlyModem, .ofPairs [("Interfaces", manager)]),
      (⟨"/second", by decide⟩, .ofPairs [("Interfaces", manager)])],
    .simFetched ⟨onlyModem, 1⟩ (.ofPairs [("Present", .bool true), ("PinRequired", .text "pin")]),
    .simFetched ⟨⟨"/second", by decide⟩, 2⟩
      (.ofPairs [("Present", .bool true), ("PinRequired", .text "puk")])]

/-- The totals are those that a scan of the modems finds, and no modem waits for a PIN and a PUK at
once. In whatever way the modems change further, a SIM that can leave the count is in it. The modems
are in the order of their paths, and those without a SIM manager show nothing of a SIM. -/
theorem totals_eq_scan {tracker : Tracker} (h : tracker.Reachable) :
    let snapshot := tracker.snapshot
    snapshot.totals = .scan snapshot.modems ∧
    (∀ path, snapshot.totals.requiredPins.get? path = none ∨
      snapshot.totals.lockedPuks.get? path = none) ∧
    (∀ puk path kind, (snapshot.totals.waiting puk).get? path = some kind →
      ∃ modem ∈ snapshot.modems, modem.path = path ∧ modem.required = some kind ∧
        kind.isPuk = puk) ∧
    (snapshot.modems.Pairwise fun a b ↦ a.path.text < b.path.text) ∧
    (∀ roster entry, ModemRoster.Moves tracker.modems roster → roster.Holds entry →
      entry.modem.simPresent = true → 0 < roster.totals.present) ∧
    ∀ modem ∈ snapshot.modems, modem.hasSimManager = false → modem.ShowsNoSim := by
  intro snapshot
  have hkeyed := h.keyed
  have hfind (puk : Bool) (path : ObjectPath) :
      (snapshot.totals.waiting puk).get? path =
        (tracker.modems.entries.find? path.text).bind
          (·.modem.required.filter (·.isPuk == puk)) := h.accounted.waiting puk path.text
  refine ⟨h.accounted.eq_scan hkeyed, ?_, ?_, hkeyed.ascending, ?_, ?_⟩
  · intro path
    have hpins := hfind false path
    have hpuks := hfind true path
    change snapshot.totals.requiredPins.get? path = _ at hpins
    change snapshot.totals.lockedPuks.get? path = _ at hpuks
    rw [hpins, hpuks]
    cases tracker.modems.entries.find? path.text with
    | none => exact .inl rfl
    | some entry =>
      cases hrequired : entry.modem.required with
      | none => simp [hrequired]
      | some kind => cases hpuk : kind.isPuk <;> simp [hrequired, hpuk, Option.filter]
  · intro puk path kind hwaiting
    rw [hfind] at hwaiting
    obtain ⟨entry, hentry, hfiltered⟩ := Option.bind_eq_some_iff.1 hwaiting
    obtain ⟨hrequired, hpuk⟩ := Option.filter_eq_some_iff.1 hfiltered
    have hmodem : tracker.modems.find? path.text = some entry.modem := by
      unfold ModemRoster.find?
      rw [hentry]
      rfl
    obtain ⟨htracked, hpath⟩ := hkeyed.mem_modems_of_find? hmodem
    exact ⟨entry.modem, htracked, ObjectPath.ext_text hpath, hrequired, by simpa using hpuk⟩
  · intro roster entry hmoves hentry hpresent
    exact ((hmoves.accounted h.accounted).sound hentry).present hpresent
  · intro modem hmodem
    obtain ⟨entry, hentry, rfl⟩ := Option.map_eq_some_iff.1 (hkeyed.mem_modems_iff.1 hmodem)
    exact h.all Modem.stable_showsNoSim _ entry hentry

/-- Of the two modems one waits for a PIN and one for a PUK; the SIM of the first one can go. -/
theorem totals_eq_scan_two :
    let tracker := run twoSims
    let bare := run (twoSims ++ [.modemChanged onlyModem "Interfaces" (.ofTexts [])])
    tracker.Reachable ∧
      tracker.snapshot.totals =
        { present := 2
          requiredPins := .ofList [(onlyModem, .pin)]
          lockedPuks := .ofList [(⟨"/second", by decide⟩, .puk)] } ∧
      tracker.snapshot.totals = .scan tracker.snapshot.modems ∧
      ∃ modem ∈ bare.snapshot.modems, modem.hasSimManager = false ∧ modem.ShowsNoSim := by
  intro tracker bare
  have hreachable : tracker.Reachable := reachable_run twoSims
  have hbare : ∃ modem ∈ bare.snapshot.modems, modem.hasSimManager = false := by decide +kernel
  obtain ⟨modem, hmodem, hmanager⟩ := hbare
  have hrests := (totals_eq_scan (reachable_run _)).2.2.2.2.2 modem hmodem hmanager
  exact ⟨hreachable, by decide +kernel, (totals_eq_scan hreachable).1,
    modem, hmodem, hmanager, hrests⟩

end Tracker

end Uplink
