import SprHomeAssistant.Integration.Polls

/-! The device dict as a function of the responses.

A device lives as long as every response lists it. What the dict holds for a MAC is what
the entries for it since its last absence make of a fresh device, one after the other.
-/

set_option autoImplicit false

namespace SprHomeAssistant.Integration
open Go Library.Runs

/-! ## What the responses report -/

def Poll.entries (poll : Poll) : List Json :=
  match poll.reply with
  | .error _ => []
  | .ok raw =>
      match rawDevices raw with
      | .error _ => []
      | .ok entries => entries

def names (ha : HomeAssistant) (mac : String) (rawDev : Json) : Bool :=
  match rawMac ha rawDev with
  | .ok (some own) => own = mac
  | _ => false

def Poll.entriesFor (ha : HomeAssistant) (mac : String) (poll : Poll) : List Json :=
  poll.entries.filter (names ha mac)

def Poll.lists (ha : HomeAssistant) (mac : String) (poll : Poll) : Bool :=
  !(poll.entriesFor ha mac).isEmpty

/-- The polls since a device was last absent from a response. -/
def stretch (ha : HomeAssistant) (mac : String) (polls : List Poll) : List Poll :=
  polls.rtakeWhile (Poll.lists ha mac)

/-- Each entry for a device since it was last absent, with the poll that it came in. -/
def history (ha : HomeAssistant) (mac : String) (polls : List Poll) : List (Poll × Json) :=
  (stretch ha mac polls).flatMap fun poll => (poll.entriesFor ha mac).map (poll, ·)

/-- The last value that counts as true, or the empty text. -/
def latestNonEmpty (values : List Json) : Json := (values.filter Json.truthy).getLast?.getD (.str "")

def reported (field : String) (history : List (Poll × Json)) : List Json :=
  history.map fun turn => rawField turn.2 field

/-- A device has the fields of an entry, with the defaults for what the entry leaves empty. -/
structure Copies (device : SprDevice) (rawDev : Json) : Prop where
  groups : device.groups = (rawField rawDev "groups").orElse (.arr [])
  tags : device.tags = (rawField rawDev "tags").orElse (.arr [])
  wired : device.wired = (rawField rawDev "wired").truthy
  iface : device.iface = (rawField rawDev "iface").orElse (.str "")
  signal : device.signal = (rawField rawDev "signal").orElse (.int 0)
  rxBytes : device.rxBytes = (rawField rawDev "rx_bytes").orElse (.int 0)
  txBytes : device.txBytes = (rawField rawDev "tx_bytes").orElse (.int 0)
  blocked : device.blocked = (rawField rawDev "blocked").truthy
  guest : device.guest = (rawField rawDev "guest").truthy
  rawConnected : device.rawConnected = (rawField rawDev "connected").truthy

/-- The MAC of an entry is not empty and not all zero, and this is its image. -/
def IsImage (ha : HomeAssistant) (mac : String) (rawDev : Json) : Prop :=
  ∃ text, rawDev.getD "mac" (.str "") = .ok (.str text) ∧ ha.formatMac text = mac ∧
    mac ≠ "" ∧ mac ≠ zeroMac

/-- What the dict holds once `newest` has succeeded after `earlier`. -/
structure FollowsHistory (ha : HomeAssistant) (earlier : List Poll) (newest : Poll)
    (devices : Map SprDevice) : Prop where
  keys : ∀ mac, mac ∈ devices ↔ ∃ rawDev ∈ newest.entries, IsImage ha mac rawDev
  sticky : ∀ mac device, devices.lookup mac = some device →
    device.name = latestNonEmpty (reported "name" (history ha mac (earlier ++ [newest]))) ∧
      device.ip = latestNonEmpty (reported "ip" (history ha mac (earlier ++ [newest])))
  copied : ∀ mac device, devices.lookup mac = some device →
    ∃ rawDev, (newest.entriesFor ha mac).getLast? = some rawDev ∧ Copies device rawDev
  forgets : ∀ mac before absent after, earlier ++ [newest] = before ++ absent :: after →
    absent.lists ha mac = false →
      devices.lookup mac = (run (SprCoordinator.poll ha) .initial after).devices.lookup mac

/-- Every poll of the run returns data. -/
def Succeed (ha : HomeAssistant) (polls : List Poll) : Prop :=
  ∀ t ∈ transitions (SprCoordinator.poll ha) .initial polls, pollSucceeds ha t.before t.action = true

/-! ## One device through one poll -/

def settleEntry (ha : HomeAssistant) (device : SprDevice) (turn : Poll × Json) : SprDevice :=
  let described := device.describe turn.2
  match sightedAt ha turn.1.now described turn.2 with
  | .ok lastSeen => described.settle turn.1.now turn.1.considerHome lastSeen
  | .error _ => described

/-- What a poll makes of the device that the dict held, if any. -/
def pollDevice (ha : HomeAssistant) (mac : String) (held : Option SprDevice) (poll : Poll) :
    Option SprDevice :=
  if poll.lists ha mac then
    some (((poll.entriesFor ha mac).map (poll, ·)).foldl (settleEntry ha) (held.getD (.make mac)))
  else none

theorem names_iff {ha : HomeAssistant} {mac : String} {rawDev : Json} :
    names ha mac rawDev = true ↔ rawMac ha rawDev = .ok (some mac) := by
  unfold names
  split
  next own named => simp [named]
  next other =>
    constructor
    · intro absurd
      cases absurd
    · exact fun named => absurd named (other mac)

theorem entries_of_replied {poll : Poll} {raw : Json} {entries : List Json} (replied : poll.reply = .ok raw)
    (read : rawDevices raw = .ok entries) : poll.entries = entries := by
  simp only [Poll.entries, replied, read]

/-- What one turn of the device loop leaves for one MAC. -/
theorem lookup_pollEntry {ha : HomeAssistant} (poll : Poll) (mac : String) {acc next : Polling} {rawDev : Json}
    (passed : pollEntry ha poll.now poll.considerHome acc rawDev = (next, none)) :
    next.devices.lookup mac =
      if names ha mac rawDev = true then some (settleEntry ha (acc.device mac) (poll, rawDev))
      else acc.devices.lookup mac := by
  obtain ⟨err, ended⟩ | ⟨skipped, same⟩ | ⟨own, lastSeen, named, sighted, settled⟩ | ⟨_, err, _, ended⟩ :=
    pollEntry_cases ha poll.now poll.considerHome acc rawDev
  · rw [ended] at passed
    cases passed
  · rw [same] at passed
    cases passed
    simp [names, skipped]
  · rw [settled] at passed
    cases passed
    by_cases mine : own = mac
    · subst mine
      rw [if_pos (names_iff.mpr named), put_lookup_self]
      simp only [settleEntry, sighted]
    · have other : ¬ names ha mac rawDev = true := by simp [names, named, mine]
      rw [if_neg other, put_lookup_other _ _ (Ne.symm mine)]
  · rw [ended] at passed
    cases passed

/-- What the device loop leaves for one MAC. -/
theorem lookup_pollEntries {ha : HomeAssistant} (poll : Poll) (mac : String) {entries : List Json} :
    ∀ {acc final : Polling},
      pollEntries ha poll.now poll.considerHome acc entries = (final, none) →
      final.devices.lookup mac =
        if entries.filter (names ha mac) = [] then acc.devices.lookup mac
        else some (((entries.filter (names ha mac)).map (poll, ·)).foldl (settleEntry ha) (acc.device mac)) := by
  induction entries with
  | nil =>
      intro acc final finished
      cases finished
      simp
  | cons rawDev rest ih =>
      intro acc final finished
      unfold pollEntries at finished
      split at finished
      next => cases finished
      next next passed =>
        have turn := lookup_pollEntry poll mac passed
        rw [ih finished, Polling.device, turn]
        cases named : names ha mac rawDev with
        | false =>
            rw [List.filter_cons_of_neg (by simp [named])]
            rfl
        | true =>
            rw [List.filter_cons_of_pos named]
            simp only [if_true, Option.getD_some, List.map_cons, List.foldl_cons, reduceCtorEq, if_false]
            split
            next none => simp [none]
            next => rfl

theorem lookup_poll {ha : HomeAssistant} {c : SprCoordinator} {poll : Poll}
    (succeeds : pollSucceeds ha c poll = true) (mac : String) :
    (c.poll ha poll).devices.lookup mac = pollDevice ha mac (c.devices.lookup mac) poll := by
  obtain ⟨raw, entries, final, replied, read, finished, devices⟩ := pollSucceeds_cases succeeds
  have seen := (pollEntries_polled finished).seen mac
  have own : poll.entriesFor ha mac = entries.filter (names ha mac) := by
    rw [Poll.entriesFor, entries_of_replied replied read]
  rw [devices, dropUnseen_lookup, lookup_pollEntries poll mac finished, pollDevice, Poll.lists, own]
  simp only [← names_iff] at seen
  by_cases none : entries.filter (names ha mac) = []
  · have unseen : mac ∉ final.seenMacs := by
      rw [seen]
      simpa using List.filter_eq_nil_iff.mp none
    simp [unseen, none]
  · have listed : mac ∈ final.seenMacs := by
      rw [seen]
      obtain ⟨rawDev, member⟩ := List.exists_mem_of_ne_nil _ none
      exact ⟨rawDev, List.mem_of_mem_filter member, (List.mem_filter.mp member).2⟩
    simp [listed, none, Polling.device]

/-! ## Success is a matter of the response -/

theorem sightedAt_ended (ha : HomeAssistant) (now : Instant) (device other : SprDevice) (rawDev : Json) :
    (∃ err, sightedAt ha now (device.describe rawDev) rawDev = .error err ∧
      sightedAt ha now (other.describe rawDev) rawDev = .error err) ∨
    ∃ seen also, sightedAt ha now (device.describe rawDev) rawDev = .ok seen ∧
      sightedAt ha now (other.describe rawDev) rawDev = .ok also := by
  unfold sightedAt
  simp only [describe_rawConnected, describe_lastSeen]
  by_cases connected : reportsConnected rawDev = true
  · exact Or.inr ⟨_, _, if_pos connected, if_pos connected⟩
  · simp only [connected, Bool.false_eq_true, if_false]
    by_cases given : (rawField rawDev "last_seen").truthy = true
    · simp only [given, if_true]
      cases ha.utcFromTimestamp (rawField rawDev "last_seen") with
      | error err => exact Or.inl ⟨err, rfl, rfl⟩
      | ok seen => exact Or.inr ⟨_, _, rfl, rfl⟩
    · exact Or.inr ⟨_, _, if_neg given, if_neg given⟩

theorem pollEntry_ended (ha : HomeAssistant) (now considerHome : Int) (acc other : Polling) (rawDev : Json) :
    (pollEntry ha now considerHome acc rawDev).2 = (pollEntry ha now considerHome other rawDev).2 := by
  unfold pollEntry
  rcases rawMac ha rawDev with err | _ | mac
  · rfl
  · rfl
  · obtain ⟨err, failed, also⟩ | ⟨_, _, sighted, also⟩ :=
      sightedAt_ended ha now (acc.device mac) (other.device mac) rawDev
    · simp only [failed, also]
    · simp only [sighted, also]

theorem pollEntries_ended (ha : HomeAssistant) (now considerHome : Int) (entries : List Json) :
    ∀ acc other : Polling, (pollEntries ha now considerHome acc entries).2 =
      (pollEntries ha now considerHome other entries).2 := by
  induction entries with
  | nil => exact fun _ _ => rfl
  | cons rawDev rest ih =>
      intro acc other
      have same := pollEntry_ended ha now considerHome acc other rawDev
      unfold pollEntries
      revert same
      rcases pollEntry ha now considerHome acc rawDev with ⟨next, ended⟩
      rcases pollEntry ha now considerHome other rawDev with ⟨next', ended'⟩
      rintro rfl
      cases ended with
      | none => exact ih next next'
      | some err => rfl

theorem pollSucceeds_any (ha : HomeAssistant) (c other : SprCoordinator) (poll : Poll) :
    pollSucceeds ha c poll = pollSucceeds ha other poll := by
  unfold pollSucceeds asyncUpdateData
  cases poll.reply with
  | error err => rfl
  | ok raw =>
      simp only
      cases rawDevices raw with
      | error err => rfl
      | ok entries =>
          have same := pollEntries_ended ha poll.now poll.considerHome entries ⟨c.devices, [], []⟩
            ⟨other.devices, [], []⟩
          simp only
          revert same
          rcases pollEntries ha poll.now poll.considerHome ⟨c.devices, [], []⟩ entries with ⟨acc, ended⟩
          rcases pollEntries ha poll.now poll.considerHome ⟨other.devices, [], []⟩ entries with ⟨acc', ended'⟩
          rintro rfl
          cases ended <;> rfl

/-! ## One device through a run -/

theorem lookup_run {ha : HomeAssistant} (mac : String) {polls : List Poll} :
    ∀ {c : SprCoordinator}, (∀ poll ∈ polls, pollSucceeds ha .initial poll = true) →
      (run (SprCoordinator.poll ha) c polls).devices.lookup mac =
        run (pollDevice ha mac) (c.devices.lookup mac) polls := by
  induction polls with
  | nil => exact fun _ => rfl
  | cons poll rest ih =>
      intro c succeed
      have first : pollSucceeds ha c poll = true := by
        rw [pollSucceeds_any ha c .initial]
        exact succeed poll List.mem_cons_self
      rw [run_cons, run_cons, ih fun later member => succeed later (List.mem_cons_of_mem _ member),
        lookup_poll first]

/-- Where every response lists a device, its entries are applied one after the other. -/
theorem run_listed {ha : HomeAssistant} {mac : String} {polls : List Poll} :
    ∀ {held : Option SprDevice}, (∀ poll ∈ polls, poll.lists ha mac = true) →
      run (pollDevice ha mac) held polls =
        if polls = [] then held
        else some ((polls.flatMap fun poll => (poll.entriesFor ha mac).map (poll, ·)).foldl (settleEntry ha)
          (held.getD (.make mac))) := by
  induction polls with
  | nil => exact fun _ => rfl
  | cons poll rest ih =>
      intro held listed
      have first := listed poll List.mem_cons_self
      rw [run_cons, ih fun later member => listed later (List.mem_cons_of_mem _ member), pollDevice, if_pos first,
        List.flatMap_cons, List.foldl_append]
      simp only [reduceCtorEq, if_false, Option.getD_some]
      split
      next none => simp [none]
      next => rfl

theorem run_stretch (ha : HomeAssistant) (mac : String) (polls : List Poll) :
    run (pollDevice ha mac) none polls =
      if stretch ha mac polls = [] then none
      else some ((history ha mac polls).foldl (settleEntry ha) (.make mac)) := by
  have resets : ∀ held poll, poll.lists ha mac = false → pollDevice ha mac held poll = none := by
    intro held poll absent
    rw [pollDevice, if_neg (by simp [absent])]
  rw [run_since_reset resets]
  exact run_listed fun poll member => List.mem_rtakeWhile_imp member

/-! ## The fields of a device -/

theorem settleEntry_copies (ha : HomeAssistant) (device : SprDevice) (turn : Poll × Json) :
    Copies (settleEntry ha device turn) turn.2 := by
  simp only [settleEntry]
  split <;> exact ⟨rfl, rfl, rfl, rfl, rfl, rfl, rfl, rfl, rfl, rfl⟩

theorem settleEntry_sticky (ha : HomeAssistant) (device : SprDevice) (turn : Poll × Json) :
    (settleEntry ha device turn).name = (rawField turn.2 "name").orElse device.name ∧
      (settleEntry ha device turn).ip = (rawField turn.2 "ip").orElse device.ip := by
  simp only [settleEntry]
  split <;> exact ⟨rfl, rfl⟩

/-- A field that an empty report leaves alone holds the latest report that is not empty. -/
theorem foldl_sticky {ha : HomeAssistant} (part : SprDevice → Json) {field : String}
    (kept : ∀ device turn, part (settleEntry ha device turn) = (rawField turn.2 field).orElse (part device))
    {device : SprDevice} (fresh : part device = .str "") (turns : List (Poll × Json)) :
    part (turns.foldl (settleEntry ha) device) = latestNonEmpty (reported field turns) := by
  induction turns using List.reverseRecOn with
  | nil => exact fresh
  | append_singleton turns turn ih =>
      rw [List.foldl_concat, kept, ih]
      unfold latestNonEmpty reported
      rw [List.map_append, List.filter_append, Json.orElse]
      by_cases full : (rawField turn.2 field).truthy = true
      · simp [full]
      · simp [full]

/-! ## The whole dict -/

theorem names_iff_image {ha : HomeAssistant} {mac : String} {rawDev : Json} :
    names ha mac rawDev = true ↔ IsImage ha mac rawDev := by
  rw [names_iff]
  constructor
  · intro named
    have kept := rawMac_cases named
    unfold rawMac at named
    cases given : rawDev.getD "mac" (.str "") with
    | error err => rw [given] at named; cases named
    | ok value =>
        rw [given] at named
        simp only [bind, Except.bind] at named
        split at named
        next text =>
          split at named
          next => cases named
          next =>
            cases named
            exact ⟨text, given, rfl, kept.2⟩
        all_goals cases named
  · rintro ⟨text, given, rfl, nonempty, nonzero⟩
    simp [rawMac, given, nonempty, nonzero, bind, Except.bind]

theorem lists_iff {ha : HomeAssistant} {mac : String} {poll : Poll} :
    poll.lists ha mac = true ↔ ∃ rawDev ∈ poll.entries, IsImage ha mac rawDev := by
  simp [Poll.lists, Poll.entriesFor, ← names_iff_image]

theorem stretch_concat (ha : HomeAssistant) (mac : String) (earlier : List Poll) (newest : Poll) :
    stretch ha mac (earlier ++ [newest]) =
      if newest.lists ha mac then stretch ha mac earlier ++ [newest] else [] :=
  List.rtakeWhile_concat _ _ _

theorem Succeed.each {ha : HomeAssistant} {polls : List Poll} (succeed : Succeed ha polls) :
    ∀ poll ∈ polls, pollSucceeds ha .initial poll = true := by
  intro poll member
  obtain ⟨before, after, rfl⟩ := List.append_of_mem member
  let reached := run (SprCoordinator.poll ha) .initial before
  rw [pollSucceeds_any ha .initial reached]
  exact succeed ⟨reached, poll, reached.poll ha poll⟩ (mem_transitions.mpr ⟨before, after, rfl, rfl, rfl⟩)

/-- After every poll of a run in which all succeed, the dict is what the responses since
each device's last absence make it. -/
theorem run_followsHistory (ha : HomeAssistant) (earlier : List Poll) (newest : Poll)
    (succeed : Succeed ha (earlier ++ [newest])) :
    FollowsHistory ha earlier newest
      (run (SprCoordinator.poll ha) .initial (earlier ++ [newest])).devices := by
  have each := succeed.each
  have held : ∀ mac, (run (SprCoordinator.poll ha) .initial (earlier ++ [newest])).devices.lookup mac =
      if newest.lists ha mac then
        some ((history ha mac (earlier ++ [newest])).foldl (settleEntry ha) (.make mac))
      else none := by
    intro mac
    rw [lookup_run mac each, SprCoordinator.initial, AList.lookup_empty, run_stretch, stretch_concat]
    cases newest.lists ha mac <;> simp
  refine ⟨fun mac => ?_, fun mac device found => ?_, fun mac device found => ?_, ?_⟩
  · rw [← AList.lookup_isSome, held, ← lists_iff]
    cases newest.lists ha mac <;> simp
  · rw [held, Option.ite_none_right_eq_some, Option.some.injEq] at found
    obtain ⟨-, rfl⟩ := found
    have sticky := settleEntry_sticky ha
    exact ⟨foldl_sticky SprDevice.name (fun device turn => (sticky device turn).1) rfl _,
      foldl_sticky SprDevice.ip (fun device turn => (sticky device turn).2) rfl _⟩
  · rw [held, Option.ite_none_right_eq_some, Option.some.injEq] at found
    obtain ⟨listed, rfl⟩ := found
    obtain none | ⟨others, last, shape⟩ := List.eq_nil_or_concat (newest.entriesFor ha mac)
    · simp [Poll.lists, none] at listed
    · refine ⟨last, by simp [shape], ?_⟩
      rw [history, stretch_concat, if_pos listed, List.flatMap_append, List.flatMap_singleton, shape,
        List.concat_eq_append, List.map_append, List.map_singleton, ← List.append_assoc, List.foldl_concat]
      exact settleEntry_copies ha _ (newest, last)
  · intro mac before absent after split away
    have later : ∀ poll ∈ after, pollSucceeds ha .initial poll = true :=
      fun poll member => each poll (by rw [split]; simp [member])
    rw [lookup_run mac each, lookup_run mac later, split, run_append, run_cons, pollDevice,
      if_neg (by simp [away])]
    rfl

/-- A phone whose name is reported once, in two spellings of its MAC, and a poll without it. -/
def namedPhone (mac name : String) : Json :=
  .obj [("mac", .str mac), ("name", .str name), ("connected", .bool true)]

def responses (entries : List Json) : Poll := ⟨0, 180000000, .ok (.obj [("devices", .arr entries)])⟩

def phoneHistory : List Poll :=
  [responses [namedPhone "AA-BB-CC-DD-EE-01" "old"], responses [],
    responses [namedPhone "AA-BB-CC-DD-EE-01" "phone", namedPhone "aa:bb:cc:dd:ee:01" ""]]

example : latestNonEmpty (reported "name" (history .documented "aa:bb:cc:dd:ee:01"
    (phoneHistory ++ [responses [namedPhone "aabbccddee01" "", namedPhone "" "none"]]))) = .str "phone" := by
  decide +kernel

theorem run_followsHistory_phone :
    FollowsHistory .documented phoneHistory (responses [namedPhone "aabbccddee01" "", namedPhone "" "none"])
      (run (SprCoordinator.poll .documented) .initial
        (phoneHistory ++ [responses [namedPhone "aabbccddee01" "", namedPhone "" "none"]])).devices := by
  refine run_followsHistory .documented _ _ ?_
  unfold Succeed
  decide +kernel

end SprHomeAssistant.Integration
