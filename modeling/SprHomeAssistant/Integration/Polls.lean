import SprHomeAssistant.Library.Runs
import SprHomeAssistant.Integration.Coordinator

/-! What one poll makes of its response.

The device loop is described by its turns: each of them stops, passes its entry over or
settles one device. A poll that returns data has been through every entry, and keeps
the devices that it met.
-/

set_option autoImplicit false

namespace SprHomeAssistant.Integration
open Go

/-! ## What a response says of a device -/

def Poll.HasEntry (ha : HomeAssistant) (poll : Poll) (mac : String) (rawDev : Json) : Prop :=
  ∃ raw entries, poll.reply = .ok raw ∧ rawDevices raw = .ok entries ∧
    rawDev ∈ entries ∧ rawMac ha rawDev = .ok (some mac)

def reportsConnected (rawDev : Json) : Bool := (rawField rawDev "connected").truthy

/-- The sighting that an entry reports, if Home Assistant can read it. -/
def ReportsSeen (ha : HomeAssistant) (rawDev : Json) (seen : Instant) : Prop :=
  (rawField rawDev "last_seen").truthy = true ∧
    ha.utcFromTimestamp (rawField rawDev "last_seen") = .ok seen

def Poll.Lists (ha : HomeAssistant) (poll : Poll) (mac : String) : Prop :=
  ∃ rawDev, poll.HasEntry ha mac rawDev

def Poll.Connects (ha : HomeAssistant) (poll : Poll) (mac : String) : Prop :=
  ∃ rawDev, poll.HasEntry ha mac rawDev ∧ reportsConnected rawDev = true

def Poll.Sights (ha : HomeAssistant) (poll : Poll) (mac : String) (seen : Instant) : Prop :=
  ∃ rawDev, poll.HasEntry ha mac rawDev ∧ ReportsSeen ha rawDev seen

/-! ## One entry -/

@[simp] theorem describe_rawConnected (device : SprDevice) (rawDev : Json) :
    (device.describe rawDev).rawConnected = reportsConnected rawDev := rfl

@[simp] theorem describe_lastSeen (device : SprDevice) (rawDev : Json) :
    (device.describe rawDev).lastSeen = device.lastSeen := rfl

/-- A device just made has no sighting, so a sighting is one that the dict holds. -/
theorem device_lastSeen {acc : Polling} {mac : String} {seen : Instant}
    (stored : (acc.device mac).lastSeen = some seen) :
    ∃ device, acc.devices.lookup mac = some device ∧ device.lastSeen = some seen := by
  unfold Polling.device at stored
  cases found : acc.devices.lookup mac with
  | none => simp [found, SprDevice.make] at stored
  | some device => exact ⟨device, rfl, by simpa [found] using stored⟩

theorem sightedAt_cases {ha : HomeAssistant} {now : Instant} {device : SprDevice} {rawDev : Json}
    {lastSeen : Option Instant} (sighted : sightedAt ha now device rawDev = .ok lastSeen) :
    (device.rawConnected = true ∧ lastSeen = some now) ∨
      (device.rawConnected = false ∧ lastSeen = device.lastSeen) ∨
      (device.rawConnected = false ∧ ∃ reported, ReportsSeen ha rawDev reported ∧
        lastSeen = laterSighting device.lastSeen reported) := by
  unfold sightedAt at sighted
  cases raw : device.rawConnected with
  | true =>
      rw [raw, if_pos rfl, Except.ok.injEq] at sighted
      exact Or.inl ⟨rfl, sighted.symm⟩
  | false =>
      rw [raw, if_neg Bool.false_ne_true] at sighted
      right
      by_cases given : (rawField rawDev "last_seen").truthy = true
      · rw [if_pos given] at sighted
        cases read : ha.utcFromTimestamp (rawField rawDev "last_seen") with
        | error err => rw [read] at sighted; cases sighted
        | ok reported =>
            rw [read] at sighted
            exact Or.inr ⟨rfl, reported, ⟨given, read⟩, (Except.ok.inj sighted).symm⟩
      · rw [if_neg given, Except.ok.injEq] at sighted
        exact Or.inl ⟨rfl, sighted.symm⟩

/-- What one turn of the device loop does: it stops before it touches a device, passes the
entry over, settles its device, or stops with the device half changed. -/
theorem pollEntry_cases (ha : HomeAssistant) (now considerHome : Int) (acc : Polling) (rawDev : Json) :
    (∃ err, pollEntry ha now considerHome acc rawDev = (acc, some err)) ∨
    (rawMac ha rawDev = .ok none ∧ pollEntry ha now considerHome acc rawDev = (acc, none)) ∨
    (∃ mac lastSeen, rawMac ha rawDev = .ok (some mac) ∧
      sightedAt ha now ((acc.device mac).describe rawDev) rawDev = .ok lastSeen ∧
      pollEntry ha now considerHome acc rawDev =
        (acc.put mac (((acc.device mac).describe rawDev).settle now considerHome lastSeen), none)) ∨
    (∃ mac err, rawMac ha rawDev = .ok (some mac) ∧
      pollEntry ha now considerHome acc rawDev =
        (acc.put mac ((acc.device mac).describe rawDev), some err)) := by
  unfold pollEntry
  cases named : rawMac ha rawDev with
  | error err => exact Or.inl ⟨err, rfl⟩
  | ok found =>
      cases found with
      | none => exact Or.inr (Or.inl ⟨rfl, rfl⟩)
      | some mac =>
          cases sighted : sightedAt ha now ((acc.device mac).describe rawDev) rawDev with
          | error err => exact Or.inr (Or.inr (Or.inr ⟨mac, err, rfl, by simp [sighted]⟩))
          | ok lastSeen =>
              exact Or.inr (Or.inr (Or.inl ⟨mac, lastSeen, rfl, sighted, by simp [sighted]⟩))

theorem put_lookup_self (acc : Polling) (mac : String) (device : SprDevice) :
    (acc.put mac device).devices.lookup mac = some device := AList.lookup_insert _

theorem put_lookup_other (acc : Polling) {mac other : String} (device : SprDevice)
    (apart : other ≠ mac) : (acc.put mac device).devices.lookup other = acc.devices.lookup other :=
  AList.lookup_insert_ne apart

/-! ## The devices of a finished poll -/

/-- What the device loop has made of the entries it is through with. -/
structure Polled (ha : HomeAssistant) (now considerHome : Int) (entries : List Json) (acc : Polling) :
    Prop where
  seen : ∀ mac, mac ∈ acc.seenMacs ↔ ∃ rawDev ∈ entries, rawMac ha rawDev = .ok (some mac)
  settled : ∀ mac ∈ acc.seenMacs, ∃ device, acc.devices.lookup mac = some device ∧
    device.connected = (device.rawConnected || inGrace now considerHome device.lastSeen) ∧
    (device.rawConnected = true →
      ∃ rawDev ∈ entries, rawMac ha rawDev = .ok (some mac) ∧ reportsConnected rawDev = true)

theorem Polled.entry {ha : HomeAssistant} {now considerHome : Int} {entries : List Json} {acc : Polling}
    (polled : Polled ha now considerHome entries acc) {rawDev : Json} {next : Polling}
    (passed : pollEntry ha now considerHome acc rawDev = (next, none)) :
    Polled ha now considerHome (entries ++ [rawDev]) next := by
  obtain ⟨err, ended⟩ | ⟨skipped, same⟩ | ⟨mac, lastSeen, named, _, settled⟩ | ⟨_, err, _, ended⟩ :=
    pollEntry_cases ha now considerHome acc rawDev
  · rw [ended] at passed
    cases passed
  · rw [same] at passed
    cases passed
    refine ⟨fun mac => ?_, fun mac listed => ?_⟩
    · simp [polled.seen, skipped, or_and_right, exists_or]
    · obtain ⟨device, found, connected, raw⟩ := polled.settled mac listed
      refine ⟨device, found, connected, fun up => ?_⟩
      obtain ⟨reporting, member, reports⟩ := raw up
      exact ⟨reporting, List.mem_append_left _ member, reports⟩
  · rw [settled] at passed
    cases passed
    refine ⟨fun other => ?_, fun other listed => ?_⟩
    · simp only [Polling.put, List.mem_append, List.mem_singleton, polled.seen, or_and_right, exists_or,
        exists_eq_left, named, Except.ok.injEq, Option.some.injEq, eq_comm (a := other) (b := mac)]
    · by_cases same : other = mac
      · subst same
        exact ⟨_, put_lookup_self _ _ _, rfl, fun up => ⟨rawDev, by simp, named, up⟩⟩
      · have before : other ∈ acc.seenMacs := by simpa [Polling.put, same] using listed
        obtain ⟨device, found, connected, raw⟩ := polled.settled other before
        refine ⟨device, by rw [put_lookup_other _ _ same, found], connected, fun up => ?_⟩
        obtain ⟨reporting, member, reports⟩ := raw up
        exact ⟨reporting, List.mem_append_left _ member, reports⟩
  · rw [ended] at passed
    cases passed

theorem Polled.entries {ha : HomeAssistant} {now considerHome : Int} (rest : List Json) :
    ∀ {done : List Json} {acc final : Polling}, Polled ha now considerHome done acc →
      pollEntries ha now considerHome acc rest = (final, none) →
      Polled ha now considerHome (done ++ rest) final := by
  -- the entries done so far grow by one with every turn that passes
  induction rest with
  | nil =>
      intro done acc final polled finished
      cases finished
      simpa using polled
  | cons rawDev rest ih =>
      intro done acc final polled finished
      unfold pollEntries at finished
      split at finished
      next => cases finished
      next next passed =>
        have later := ih (polled.entry passed) finished
        simpa using later

theorem pollEntries_polled {ha : HomeAssistant} {now considerHome : Int} {entries : List Json}
    {devices : Map SprDevice} {final : Polling}
    (finished : pollEntries ha now considerHome ⟨devices, [], []⟩ entries = (final, none)) :
    Polled ha now considerHome entries final :=
  have start : Polled ha now considerHome [] ⟨devices, [], []⟩ := ⟨by simp, by simp⟩
  start.entries entries finished

theorem dropUnseen_lookup (devices : Map SprDevice) (seenMacs : List String) (mac : String) :
    (dropUnseen devices seenMacs).lookup mac =
      if mac ∈ seenMacs then devices.lookup mac else none := by
  have dropped : ∀ (keys : List String) (kept : Map SprDevice),
      (keys.foldl (fun kept mac => if mac ∈ seenMacs then kept else kept.erase mac) kept).lookup mac =
        if mac ∈ seenMacs ∨ mac ∉ keys then kept.lookup mac else none := by
    intro keys
    induction keys with
    | nil => simp
    | cons key keys ih =>
        intro kept
        rw [List.foldl_cons, ih]
        by_cases same : mac = key
        · subst same
          by_cases seen : mac ∈ seenMacs <;> simp [seen]
        · by_cases seen : key ∈ seenMacs <;> simp [seen, same, AList.lookup_erase_ne]
  rw [dropUnseen, dropped]
  by_cases seen : mac ∈ seenMacs
  · simp [seen]
  · by_cases key : mac ∈ devices.keys
    · simp [seen, key]
    · have absent : devices.lookup mac = none := AList.lookup_eq_none.mpr key
      simp [seen, absent]

/-! ## Whole polls -/

/-- A poll that returns data has been through every entry of its response. -/
theorem pollSucceeds_cases {ha : HomeAssistant} {c : SprCoordinator} {poll : Poll}
    (succeeds : pollSucceeds ha c poll = true) :
    ∃ raw entries final, poll.reply = .ok raw ∧ rawDevices raw = .ok entries ∧
      pollEntries ha poll.now poll.considerHome ⟨c.devices, [], []⟩ entries = (final, none) ∧
      (c.poll ha poll).devices = dropUnseen final.devices final.seenMacs := by
  unfold pollSucceeds at succeeds
  unfold SprCoordinator.poll
  unfold asyncUpdateData at succeeds ⊢
  cases replied : poll.reply with
  | error err => rw [replied] at succeeds; cases succeeds
  | ok raw =>
      simp only [replied] at succeeds ⊢
      cases read : rawDevices raw with
      | error err => rw [read] at succeeds; cases succeeds
      | ok entries =>
          simp only [read] at succeeds ⊢
          cases looped : pollEntries ha poll.now poll.considerHome ⟨c.devices, [], []⟩ entries with
          | mk final ended =>
              cases ended with
              | some err => rw [looped] at succeeds; cases succeeds
              | none => exact ⟨raw, entries, final, rfl, read, looped, rfl⟩

/-- A finished poll keeps a device that it lists as the device loop left it. -/
theorem listed_lookup {ha : HomeAssistant} {poll : Poll} {raw : Json} {entries : List Json}
    {devices : Map SprDevice} {final : Polling} {mac : String} (replied : poll.reply = .ok raw)
    (read : rawDevices raw = .ok entries)
    (finished : pollEntries ha poll.now poll.considerHome ⟨devices, [], []⟩ entries = (final, none))
    (listed : poll.Lists ha mac) :
    mac ∈ final.seenMacs ∧
      (dropUnseen final.devices final.seenMacs).lookup mac = final.devices.lookup mac := by
  obtain ⟨rawDev, raw', entries', replied', read', member, named⟩ := listed
  rw [replied, Except.ok.injEq] at replied'
  subst replied'
  rw [read, Except.ok.injEq] at read'
  subst read'
  have seen := ((pollEntries_polled finished).seen mac).mpr ⟨rawDev, member, named⟩
  exact ⟨seen, by rw [dropUnseen_lookup, if_pos seen]⟩

/-- The device that a finished poll keeps for a MAC it lists, and why it is connected. -/
theorem listed_settled {ha : HomeAssistant} {c : SprCoordinator} {poll : Poll} {mac : String}
    (succeeds : pollSucceeds ha c poll = true) (listed : poll.Lists ha mac) :
    ∃ device, (c.poll ha poll).devices.lookup mac = some device ∧
      device.connected =
        (device.rawConnected || inGrace poll.now poll.considerHome device.lastSeen) ∧
      (device.rawConnected = true → poll.Connects ha mac) := by
  obtain ⟨raw, entries, final, replied, read, finished, devices⟩ := pollSucceeds_cases succeeds
  obtain ⟨seen, kept⟩ := listed_lookup replied read finished listed
  obtain ⟨device, found, connected, raised⟩ := (pollEntries_polled finished).settled mac seen
  refine ⟨device, by rw [devices, kept, found], connected, fun up => ?_⟩
  obtain ⟨rawDev, member, named, reported⟩ := raised up
  exact ⟨rawDev, ⟨raw, entries, replied, read, member, named⟩, reported⟩

/-! ## What every turn keeps, a poll keeps -/

theorem pollEntries_induct {ha : HomeAssistant} {now considerHome : Int} {P : Polling → Prop}
    (entries : List Json)
    (turn : ∀ rawDev ∈ entries, ∀ acc, P acc → P (pollEntry ha now considerHome acc rawDev).1)
    {acc : Polling} (start : P acc) : P (pollEntries ha now considerHome acc entries).1 := by
  induction entries generalizing acc with
  | nil => exact start
  | cons rawDev rest ih =>
      have next := turn rawDev List.mem_cons_self acc start
      unfold pollEntries
      split
      next stopped => rwa [stopped] at next
      next passed =>
        rw [passed] at next
        exact ih (fun later listed => turn later (List.mem_cons_of_mem _ listed)) next

theorem pollEntries_preserves {ha : HomeAssistant} {now considerHome : Int} {P : Map SprDevice → Prop}
    (entries : List Json)
    (turn : ∀ rawDev ∈ entries, ∀ acc : Polling, P acc.devices →
      P (pollEntry ha now considerHome acc rawDev).1.devices)
    {acc : Polling} (start : P acc.devices) :
    P (pollEntries ha now considerHome acc entries).1.devices :=
  pollEntries_induct (P := fun acc => P acc.devices) entries turn start

/-- It does not matter whether the poll returned data: an exception leaves the dict where
the loop had taken it. -/
theorem poll_preserves {ha : HomeAssistant} {c : SprCoordinator} {poll : Poll}
    {P : Map SprDevice → Prop}
    (turn : ∀ raw entries, poll.reply = .ok raw → rawDevices raw = .ok entries →
      ∀ rawDev ∈ entries, ∀ acc : Polling, P acc.devices →
        P (pollEntry ha poll.now poll.considerHome acc rawDev).1.devices)
    (drop : ∀ devices seenMacs, P devices → P (dropUnseen devices seenMacs))
    (start : P c.devices) : P (c.poll ha poll).devices := by
  unfold SprCoordinator.poll asyncUpdateData
  cases replied : poll.reply with
  | error err => exact start
  | ok raw =>
      cases read : rawDevices raw with
      | error err => simpa only [read] using start
      | ok entries =>
          have first : P (⟨c.devices, [], []⟩ : Polling).devices := start
          have looped := pollEntries_preserves entries (turn raw entries replied read) first
          simp only [read]
          split
          next stopped => rwa [stopped] at looped
          next finished =>
            rw [finished] at looped
            exact drop _ _ looped

theorem pollEntry_put (ha : HomeAssistant) (now considerHome : Int) (acc : Polling) (rawDev : Json) :
    (pollEntry ha now considerHome acc rawDev).1 = acc ∨
      ∃ mac device, rawMac ha rawDev = .ok (some mac) ∧
        (pollEntry ha now considerHome acc rawDev).1 = acc.put mac device := by
  obtain ⟨_, turn⟩ | ⟨_, turn⟩ | ⟨mac, _, named, _, turn⟩ | ⟨mac, _, named, turn⟩ :=
    pollEntry_cases ha now considerHome acc rawDev
  all_goals rw [turn]
  · exact Or.inl rfl
  · exact Or.inl rfl
  · exact Or.inr ⟨mac, _, named, rfl⟩
  · exact Or.inr ⟨mac, _, named, rfl⟩

/-- A device that was not in the dict before is among the new ones. -/
theorem pollEntries_newMacs {ha : HomeAssistant} {now considerHome : Int} {devices : Map SprDevice}
    {entries : List Json} {final : Polling} {ended : Option PyError}
    (looped : pollEntries ha now considerHome ⟨devices, [], []⟩ entries = (final, ended)) :
    ∀ mac ∈ final.devices, mac ∈ devices ∨ mac ∈ final.newMacs := by
  have found : ∀ mac ∈ (pollEntries ha now considerHome ⟨devices, [], []⟩ entries).1.devices,
      mac ∈ devices ∨ mac ∈ (pollEntries ha now considerHome ⟨devices, [], []⟩ entries).1.newMacs := by
    apply pollEntries_induct (P := fun acc => ∀ mac ∈ acc.devices, mac ∈ devices ∨ mac ∈ acc.newMacs)
    · intro rawDev _ acc found
      obtain same | ⟨mac, device, _, put⟩ := pollEntry_put ha now considerHome acc rawDev
      · rwa [same]
      · rw [put]
        intro other member
        simp only [Polling.put, AList.mem_insert] at member ⊢
        by_cases unknown : (acc.devices.lookup mac).isNone = true
        · rw [if_pos unknown]
          rcases member with rfl | held
          · exact Or.inr (by simp)
          · exact (found other held).imp_right (List.mem_append_left _)
        · rw [if_neg unknown]
          rcases member with rfl | held
          · have known : (acc.devices.lookup other).isSome = true := by
              simpa [Option.isSome_iff_ne_none] using unknown
            exact found other (AList.lookup_isSome.mp known)
          · exact found other held
    · exact fun mac member => Or.inl member
  rw [looped] at found
  exact found

/-! ## Which devices a poll drops -/

theorem pollEntries_keeps {ha : HomeAssistant} {now considerHome : Int} {mac : String}
    (entries : List Json) {acc : Polling} (held : mac ∈ acc.devices) :
    mac ∈ (pollEntries ha now considerHome acc entries).1.devices := by
  apply pollEntries_preserves (P := fun devices => mac ∈ devices) entries _ held
  intro rawDev _ acc held
  obtain same | ⟨other, device, _, put⟩ := pollEntry_put ha now considerHome acc rawDev
  · rwa [same]
  · rw [put]
    exact (AList.mem_insert _).mpr (Or.inr held)

theorem mem_dropUnseen {devices : Map SprDevice} {seenMacs : List String} {mac : String} :
    mac ∈ dropUnseen devices seenMacs ↔ mac ∈ seenMacs ∧ mac ∈ devices := by
  rw [← AList.lookup_isSome, dropUnseen_lookup, ← AList.lookup_isSome]
  split <;> simp [*]

/-- Only a poll that returns data drops a device, and only one that its response does not list. -/
theorem poll_drops {ha : HomeAssistant} {c : SprCoordinator} {poll : Poll} {mac : String}
    (held : mac ∈ c.devices) (dropped : mac ∉ (c.poll ha poll).devices) :
    pollSucceeds ha c poll = true ∧ ¬ poll.Lists ha mac := by
  have succeeds : pollSucceeds ha c poll = true := by
    revert dropped
    unfold pollSucceeds SprCoordinator.poll asyncUpdateData
    cases replied : poll.reply with
    | error err => exact fun dropped => absurd held dropped
    | ok raw =>
        simp only
        cases read : rawDevices raw with
        | error err => exact fun dropped => absurd held dropped
        | ok entries =>
            have kept : mac ∈ (pollEntries ha poll.now poll.considerHome ⟨c.devices, [], []⟩
                entries).1.devices := pollEntries_keeps entries held
            simp only
            split
            next stopped =>
              rw [stopped] at kept
              exact fun dropped => absurd kept dropped
            next => exact fun _ => rfl
  refine ⟨succeeds, fun listed => dropped ?_⟩
  obtain ⟨device, found, _⟩ := listed_settled succeeds listed
  exact AList.lookup_isSome.mp (by simp [found])

/-- An entry's MAC is the image of a text, and neither empty nor all zero. -/
theorem rawMac_cases {ha : HomeAssistant} {rawDev : Json} {mac : String}
    (named : rawMac ha rawDev = .ok (some mac)) :
    (∃ text, ha.formatMac text = mac) ∧ mac ≠ "" ∧ mac ≠ zeroMac := by
  unfold rawMac at named
  cases given : rawDev.getD "mac" (.str "") with
  | error err => rw [given] at named; cases named
  | ok value =>
      rw [given] at named
      simp only [bind, Except.bind] at named
      split at named
      next text =>
        split at named
        next => cases named
        next passed =>
          cases named
          exact ⟨⟨text, rfl⟩, by simpa using passed⟩
      all_goals cases named

/-- The dict holds no empty and no all-zero MAC. -/
def TrackedOnly (devices : Map SprDevice) : Prop := ∀ mac ∈ devices, mac ≠ "" ∧ mac ≠ zeroMac

theorem TrackedOnly.poll {ha : HomeAssistant} {c : SprCoordinator} (tracked : TrackedOnly c.devices)
    (poll : Poll) : TrackedOnly (c.poll ha poll).devices := by
  refine poll_preserves (fun raw entries _ _ rawDev _ acc tracked => ?_)
    (fun devices seenMacs tracked mac member => tracked mac (mem_dropUnseen.mp member).2) tracked
  obtain same | ⟨mac, device, named, put⟩ := pollEntry_put ha poll.now poll.considerHome acc rawDev
  · rwa [same]
  · rw [put]
    intro other member
    rcases (AList.mem_insert _).mp member with rfl | held
    · exact (rawMac_cases named).2
    · exact tracked other held

end SprHomeAssistant.Integration
