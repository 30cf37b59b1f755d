import SprHomeAssistant.Integration.Displays
import SprHomeAssistant.Integration.History
import SprHomeAssistant.System.BootTime
import SprHomeAssistant.System.Home

/-! What Home Assistant shows, as a function of the documents that the plugin has served.

The plugin serves nothing that the device loop cannot read, as long as its clock is one
that Home Assistant can represent. So every answered poll installs its document whole, and
what is shown in between is the last one, with the names and addresses of earlier ones.
-/

set_option autoImplicit false

namespace SprHomeAssistant.System
open Go Library.Runs Plugin Integration

/-! ## The documents of a run -/

/-- A document that a poll was answered with. -/
structure Served where
  snapshot : Snapshot
  now : Instant
  considerHome : Int

def Served.poll (served : Served) : Poll := ⟨served.now, served.considerHome, .ok served.snapshot.encode⟩

def servedIn (t : Transition Home Deed) : Option Served :=
  match t.action with
  | .poll now considerHome => some ⟨t.before.process.store.snapshot, now, considerHome⟩
  | _ => none

def documents (ha : HomeAssistant) (clock : Time) (deeds : List Deed) : List Served :=
  (transitions (Home.step ha) (.start clock) deeds).filterMap servedIn

theorem documents_concat (ha : HomeAssistant) (clock : Time) (deeds : List Deed) (deed : Deed) :
    documents ha clock (deeds ++ [deed]) = documents ha clock deeds ++
      (servedIn ⟨run (Home.step ha) (.start clock) deeds, deed,
        (run (Home.step ha) (.start clock) deeds).step ha deed⟩).toList := by
  rw [documents, transitions_append, List.filterMap_append, ← documents]
  congr 1

/-- The devices of a document under a MAC; no device is tracked under the zero one. -/
def Served.under (mac : String) (served : Served) : List TrackedDevice :=
  served.snapshot.devices.items.filter fun td => td.mac = mac && mac != zeroMac

/-- The devices under a MAC since a document last went without it. -/
def listedSince (mac : String) (docs : List Served) : List (Served × TrackedDevice) :=
  (docs.rtakeWhile fun served => !(served.under mac).isEmpty).flatMap fun served =>
    (served.under mac).map (served, ·)

/-! ## A document is read -/

/-- The sections of a document that was read. -/
theorem poll_data_served {ha : HomeAssistant} {c : SprCoordinator} {served : Served}
    (succeeds : pollSucceeds ha c served.poll = true) :
    (c.poll ha served.poll).data = some ⟨served.snapshot.router.encode, served.snapshot.traffic.encode⟩ := by
  obtain ⟨router, traffic⟩ := handleState_sections { StateStore.initial with snapshot := served.snapshot }
  simp only [pollSucceeds, asyncUpdateData, Served.poll, rawDevices_encode] at succeeds
  simp only [SprCoordinator.poll, asyncUpdateData, Served.poll, rawDevices_encode]
  split at succeeds
  · cases succeeds
  · exact congrArg some (congrArg₂ SprData.mk router traffic)

/-! ## The devices of a document -/

theorem entriesFor_served {ha : HomeAssistant} (keeps : KeepsCanonical ha) {served : Served}
    (readable : Readable ha served.snapshot) (mac : String) :
    served.poll.entriesFor ha mac = (served.under mac).map TrackedDevice.encode := by
  rw [Poll.entriesFor, entries_of_replied rfl (rawDevices_encode served.snapshot), List.filter_map, Served.under]
  congr 1
  apply List.filter_congr
  intro td listed
  simp only [Function.comp_apply, names, rawMac_served keeps (readable td listed).1]
  by_cases same : td.mac = mac
  · by_cases zero : td.mac = zeroMac <;> simp [← same, zero]
  · by_cases zero : td.mac = zeroMac <;> simp [same, zero]
    rintro rfl
    exact absurd zero same

theorem lists_served {ha : HomeAssistant} (keeps : KeepsCanonical ha) {served : Served}
    (readable : Readable ha served.snapshot) (mac : String) :
    served.poll.lists ha mac = !(served.under mac).isEmpty := by
  rw [Poll.lists, entriesFor_served keeps readable, List.isEmpty_map]

theorem stretch_served {ha : HomeAssistant} (keeps : KeepsCanonical ha) {docs : List Served}
    (readable : ∀ served ∈ docs, Readable ha served.snapshot) (mac : String) :
    stretch ha mac (docs.map Served.poll) =
      (docs.rtakeWhile fun served => !(served.under mac).isEmpty).map Served.poll := by
  induction docs using List.reverseRecOn with
  | nil => rfl
  | append_singleton docs served ih =>
      obtain ⟨earlier, newest⟩ := List.forall_mem_append.mp readable
      rw [List.map_append, List.map_singleton, stretch_concat, List.rtakeWhile_concat, ih earlier,
        lists_served keeps (newest served (List.mem_singleton_self _))]
      split <;> simp

theorem history_served {ha : HomeAssistant} (keeps : KeepsCanonical ha) {docs : List Served}
    (readable : ∀ served ∈ docs, Readable ha served.snapshot) (mac : String) :
    history ha mac (docs.map Served.poll) =
      (listedSince mac docs).map fun turn => (turn.1.poll, turn.2.encode) := by
  rw [history, stretch_served keeps readable, listedSince, List.flatMap_map, List.map_flatMap]
  apply List.flatMap_congr
  intro served member
  rw [entriesFor_served keeps (readable served ((List.rtakeWhile_suffix _ _).subset member)), List.map_map, List.map_map]
  rfl

theorem listedSince_eq_nil {mac : String} {docs : List Served} :
    listedSince mac docs = [] ↔ (docs.rtakeWhile fun served => !(served.under mac).isEmpty) = [] := by
  rw [listedSince, List.flatMap_eq_nil_iff]
  constructor
  · intro none
    rw [List.eq_nil_iff_forall_not_mem]
    intro served member
    have listed := List.mem_rtakeWhile_imp member
    simp [List.map_eq_nil_iff.mp (none served member)] at listed
  · intro none
    simp [none]

/-- What the coordinator holds for a MAC is made by the devices listed under it. -/
theorem lookup_served {ha : HomeAssistant} (keeps : KeepsCanonical ha) {docs : List Served}
    (readable : ∀ served ∈ docs, Readable ha served.snapshot) (mac : String) :
    (run (SprCoordinator.poll ha) .initial (docs.map Served.poll)).devices.lookup mac =
      if listedSince mac docs = [] then none
      else some (((listedSince mac docs).map fun turn => (turn.1.poll, turn.2.encode)).foldl (settleEntry ha)
        (.make mac)) := by
  have succeed : ∀ poll ∈ docs.map Served.poll, pollSucceeds ha .initial poll = true := by
    intro poll member
    obtain ⟨served, listed, rfl⟩ := List.mem_map.mp member
    exact poll_readable keeps (readable served listed) _ _ .initial
  rw [lookup_run mac succeed, SprCoordinator.initial, AList.lookup_empty, run_stretch, history_served keeps readable]
  simp only [stretch_served keeps readable, List.map_eq_nil_iff, listedSince_eq_nil]

/-! ## What a tracker shows -/

/-- The last text that is not empty. -/
def lastText (texts : List String) : Json := ((texts.filter (· ≠ "")).getLast?.map .str).getD .null

def trackerAttributes (td : TrackedDevice) (lastSeen : Option Instant) : List (String × Shown) :=
  [("wired", .json (.bool td.wired)), ("interface", .json (.str td.iface)),
    ("groups", .json (.arr (td.groups.items.map .str))), ("tags", .json (.arr (td.deviceTags.items.map .str))),
    ("guest", .json (.bool td.guestWifi))] ++
    (if td.signal = 0 then [] else [("signal_dbm", .json (.int td.signal))]) ++
    (lastSeen.toList.map fun seen => ("last_seen", .time seen))

/-- A connected device was sighted by the poll, another one when the router says, unless the
sighting known before is later. -/
def sightedBy (ha : HomeAssistant) (held : Option Instant) (turn : Served × TrackedDevice) : Option Instant :=
  if turn.2.connected then some turn.1.now
  else if turn.2.lastSeen = 0 then held
  else
    match ha.utcFromTimestamp (.int turn.2.lastSeen) with
    | .ok reported => some (held.elim reported (max · reported))
    | .error _ => held

def lastSighting (ha : HomeAssistant) (turns : List (Served × TrackedDevice)) : Option Instant :=
  turns.foldl (sightedBy ha) none

/-- A tracker shows the last of the devices listed for it; the address and the name are the
last ones that were given. -/
structure ShowsDevice (ha : HomeAssistant) (turns : List (Served × TrackedDevice)) (served : Served)
    (td : TrackedDevice) (c : SprCoordinator) (tracker : Entity) : Prop where
  available : ∀ lastUpdateSuccess, tracker.available lastUpdateSuccess c = lastUpdateSuccess
  ipAddress : tracker.ipAddress c = lastText (turns.map (·.2.ip))
  hostname : tracker.hostname c = lastText (turns.map (·.2.name))
  isConnected : tracker.isConnected c =
    (td.connected || (lastSighting ha turns).any fun seen => served.now - seen < served.considerHome)
  attributes : tracker.extraStateAttributes c = trackerAttributes td (lastSighting ha turns)

/-- What a tracker shows is made by the devices listed for it. -/
def Shows (ha : HomeAssistant) (docs : List Served) (c : SprCoordinator) (tracker : Entity) : Prop :=
  match (listedSince tracker.macAddress docs).getLast? with
  | none => ∀ lastUpdateSuccess, tracker.available lastUpdateSuccess c = false
  | some (served, td) => ShowsDevice ha (listedSince tracker.macAddress docs) served td c tracker

theorem latestNonEmpty_texts (texts : List String) :
    (latestNonEmpty (texts.map .str)).orElse .null = lastText texts := by
  have truthy : (Json.truthy ∘ Json.str) = fun text : String => decide (text ≠ "") := by
    funext text
    by_cases empty : text = "" <;> simp [Json.truthy, empty]
  rw [latestNonEmpty, List.filter_map, truthy, List.getLast?_map, lastText]
  -- an empty text that is left over reads as no value
  cases last : (texts.filter fun text => decide (text ≠ "")).getLast? with
  | none => rfl
  | some text =>
      have given := (List.mem_filter.mp (List.mem_of_getLast? last)).2
      simp only [decide_eq_true_eq] at given
      simp [orElse_str, given]

theorem reported_served (field : String) (part : TrackedDevice → String)
    (encoded : ∀ td, rawField td.encode field = .str (part td)) (turns : List (Served × TrackedDevice)) :
    reported field (turns.map fun turn => (turn.1.poll, turn.2.encode)) =
      (turns.map fun turn => part turn.2).map .str := by
  simp only [reported, List.map_map]
  apply List.map_congr_left
  exact fun turn _ => encoded turn.2

theorem mem_listedSince {mac : String} {docs : List Served} {turn : Served × TrackedDevice}
    (member : turn ∈ listedSince mac docs) :
    turn.1 ∈ docs ∧ turn.2 ∈ turn.1.snapshot.devices.items ∧ turn.2.mac = mac ∧ mac ≠ zeroMac := by
  obtain ⟨served, listed, given⟩ := List.mem_flatMap.mp member
  obtain ⟨td, under, rfl⟩ := List.mem_map.mp given
  obtain ⟨tracked, same⟩ := List.mem_filter.mp under
  exact ⟨(List.rtakeWhile_suffix _ _).subset listed, tracked, by simpa using same⟩

theorem laterSighting_eq (held : Option Instant) (reported : Instant) :
    laterSighting held reported = some (held.elim reported (max · reported)) := by
  cases held with
  | none => rfl
  | some held =>
      rw [laterSighting, Option.elim_some]
      split
      next later => rw [max_eq_right (le_of_lt later)]
      next same => rw [max_eq_left (not_lt.mp same)]

theorem inGrace_eq (now considerHome : Int) (lastSeen : Option Instant) :
    inGrace now considerHome lastSeen = lastSeen.any fun seen => now - seen < considerHome := by
  cases lastSeen <;> rfl

/-- The loop sights a device as the document has it. -/
theorem sightedAt_served {ha : HomeAssistant} {served : Served} (readable : Readable ha served.snapshot)
    {td : TrackedDevice} (listed : td ∈ served.snapshot.devices.items) (held : SprDevice) :
    sightedAt ha served.now (held.describe td.encode) td.encode = .ok (sightedBy ha held.lastSeen (served, td)) := by
  obtain ⟨-, seen, read⟩ := readable td listed
  have rawConnected := (describe_mirrors held (encode_encodes td)).rawConnected
  have kept : (held.describe td.encode).lastSeen = held.lastSeen := rfl
  rw [sightedAt, rawConnected, (encode_encodes td).lastSeen, sightedBy, kept, read]
  split
  next => rfl
  next =>
    by_cases unseen : td.lastSeen = 0
    · simp [Json.truthy, unseen]
    · simp [Json.truthy, unseen, laterSighting_eq, bind, Except.bind]

/-- The turn of a device that is listed settles it. -/
theorem settleEntry_served {ha : HomeAssistant} {served : Served} (readable : Readable ha served.snapshot)
    {td : TrackedDevice} (listed : td ∈ served.snapshot.devices.items) (held : SprDevice) :
    settleEntry ha held (served.poll, td.encode) =
      (held.describe td.encode).settle served.now served.considerHome (sightedBy ha held.lastSeen (served, td)) := by
  simp only [settleEntry, Served.poll, sightedAt_served readable listed]

theorem foldl_lastSeen {ha : HomeAssistant} {turns : List (Served × TrackedDevice)}
    (readable : ∀ turn ∈ turns, Readable ha turn.1.snapshot ∧ turn.2 ∈ turn.1.snapshot.devices.items) :
    ∀ held : SprDevice, ((turns.map fun turn => (turn.1.poll, turn.2.encode)).foldl (settleEntry ha) held).lastSeen =
      turns.foldl (sightedBy ha) held.lastSeen := by
  induction turns with
  | nil => exact fun held => rfl
  | cons turn rest ih =>
      intro held
      obtain ⟨⟨own, listed⟩, others⟩ := List.forall_mem_cons.mp readable
      rw [List.map_cons, List.foldl_cons, List.foldl_cons, ih others, settleEntry_served own listed]
      rfl

theorem Mirrors.attributes {held device : SprDevice} {td : TrackedDevice} (mirrors : Mirrors held td device)
    {c : SprCoordinator} {tracker : Entity} (found : tracker.device c = some device) :
    tracker.extraStateAttributes c = trackerAttributes td device.lastSeen := by
  have signal : (Json.int td.signal).truthy = !decide (td.signal = 0) := by
    by_cases zero : td.signal = 0 <;> simp [Json.truthy, zero]
  simp only [Entity.extraStateAttributes, found, trackerAttributes, mirrors.wired, mirrors.iface, mirrors.groups,
    mirrors.tags, mirrors.guest, mirrors.signal, signal]
  by_cases zero : td.signal = 0 <;> simp [zero]

/-- What the coordinator holds of the last device listed, with the texts and the sighting of
those before. -/
theorem device_served {ha : HomeAssistant} (keeps : KeepsCanonical ha) {docs : List Served}
    (readable : ∀ served ∈ docs, Readable ha served.snapshot) {mac : String} {served : Served} {td : TrackedDevice}
    (last : (listedSince mac docs).getLast? = some (served, td)) :
    ∃ held device,
      (run (SprCoordinator.poll ha) .initial (docs.map Served.poll)).devices.lookup mac = some device ∧
        device = (SprDevice.describe held td.encode).settle served.now served.considerHome
          (lastSighting ha (listedSince mac docs)) ∧
        device.name = latestNonEmpty (((listedSince mac docs).map (·.2.name)).map .str) ∧
        device.ip = latestNonEmpty (((listedSince mac docs).map (·.2.ip)).map .str) := by
  have turns : ∀ turn ∈ listedSince mac docs,
      Readable ha turn.1.snapshot ∧ turn.2 ∈ turn.1.snapshot.devices.items := by
    intro turn member
    obtain ⟨document, listed, -, -⟩ := mem_listedSince member
    exact ⟨readable turn.1 document, listed⟩
  obtain ⟨own, listed⟩ := turns _ (List.mem_of_getLast? last)
  obtain ⟨earlier, shape⟩ := List.getLast?_eq_some_iff.mp last
  have found := lookup_served keeps readable mac
  have given : listedSince mac docs ≠ [] := by simp [shape]
  rw [if_neg given] at found
  -- the turns of the device end with the one for the last that is listed
  obtain ⟨held, before⟩ : ∃ held, (earlier.map fun turn => (turn.1.poll, turn.2.encode)).foldl (settleEntry ha)
      (.make mac) = held := ⟨_, rfl⟩
  have sighted : sightedBy ha held.lastSeen (served, td) = lastSighting ha (listedSince mac docs) := by
    rw [shape] at turns ⊢
    rw [lastSighting, List.foldl_concat, ← before, foldl_lastSeen (List.forall_mem_append.mp turns).1]
    rfl
  refine ⟨held, _, found, ?_, ?_, ?_⟩
  · rw [← sighted, shape, List.map_append, List.map_singleton, List.foldl_concat, before,
      settleEntry_served own listed]
  · rw [foldl_sticky SprDevice.name (fun device turn => (settleEntry_sticky ha device turn).1) rfl,
      reported_served "name" TrackedDevice.name fun td => (encode_encodes td).name]
  · rw [foldl_sticky SprDevice.ip (fun device turn => (settleEntry_sticky ha device turn).2) rfl,
      reported_served "ip" TrackedDevice.ip fun td => (encode_encodes td).ip]

theorem shows_served {ha : HomeAssistant} (keeps : KeepsCanonical ha) {docs : List Served}
    (readable : ∀ served ∈ docs, Readable ha served.snapshot) (tracker : Entity) :
    Shows ha docs (run (SprCoordinator.poll ha) .initial (docs.map Served.poll)) tracker := by
  unfold Shows
  split
  next none =>
    have found := lookup_served keeps readable tracker.macAddress
    rw [if_pos (List.getLast?_eq_none_iff.mp none)] at found
    intro up
    rw [Entity.available, show tracker.device _ = Option.none from found]
    exact Bool.and_false up
  next served td last =>
    obtain ⟨held, device, found, settled, name, ip⟩ := device_served keeps readable last
    have mirrors := (describe_mirrors held (encode_encodes td)).settle served.now served.considerHome
      (lastSighting ha (listedSince tracker.macAddress docs))
    rw [← settled] at mirrors
    have own : tracker.device (run (SprCoordinator.poll ha) .initial (docs.map Served.poll)) = some device := found
    have sighting : device.lastSeen = lastSighting ha (listedSince tracker.macAddress docs) := by
      rw [settled]
      rfl
    refine ⟨fun up => ?_, ?_, ?_, ?_, sighting ▸ mirrors.attributes own⟩
    · simp [Entity.available, own]
    · simp only [Entity.ipAddress, own, ip, latestNonEmpty_texts]
    · simp only [Entity.hostname, own, name, latestNonEmpty_texts]
    · have connected : device.connected =
          (device.rawConnected || inGrace served.now served.considerHome device.lastSeen) := by
        rw [settled]
        rfl
      simp only [Entity.isConnected, own, connected, mirrors.rawConnected, sighting, inGrace_eq]

/-! ## What the entities of the router show -/

def shownText (text : String) : Json := if text = "" then .null else .str text

/-- The readings of the sensors, by the fields that the plugin published. -/
def routerReadings (ha : HomeAssistant) (utcnow : Rat) (snap : Snapshot) : List (String × Except PyError Shown) :=
  [("wan_download_rate", .ok (.json (encodeFloat snap.traffic.wanRxRate))),
    ("wan_upload_rate", .ok (.json (encodeFloat snap.traffic.wanTxRate))),
    ("wan_download_total", .ok (.json (.int snap.traffic.wanRxBytes.toNat))),
    ("wan_upload_total", .ok (.json (.int snap.traffic.wanTxBytes.toNat))),
    ("connected_clients", .ok (.json (.int snap.router.clientsConnected))),
    ("wan_ip", .ok (.json (shownText snap.router.wanIP))),
    ("boot_time", if snap.router.uptimeSeconds = 0 then .ok (.json .null)
      else Shown.time <$> ha.utcFromTimestamp (.float (Library.Rounding.roundDown 60
        (utcnow - snap.router.uptimeSeconds)))),
    ("load_1m", .ok (.json (encodeFloat snap.router.load1m))),
    ("load_5m", .ok (.json (encodeFloat snap.router.load5m))),
    ("load_15m", .ok (.json (encodeFloat snap.router.load15m)))]

structure ShowsRouter (ha : HomeAssistant) (snap : Snapshot) (data : SprData) : Prop where
  sensors : ∀ utcnow, Integration.sensors.map (fun sensor => (sensor.key, sensor.valueFn ha utcnow data)) =
    routerReadings ha utcnow snap
  wan : wanStatus data = .ok (snap.router.wanUp, .str snap.router.wanIface)
  update : updateVersions data = .ok (shownText snap.router.version,
    if snap.router.latestVersion = "" then shownText snap.router.version else .str snap.router.latestVersion)

/-- What the decoder finds under the keys of an encoded router. -/
structure RouterEncodes (raw : Json) (router : RouterInfo) : Prop where
  clients : raw.get "clients_connected" = .ok (.int router.clientsConnected)
  wanIP : raw.get "wan_ip" = .ok (shownText router.wanIP)
  wanIface : raw.get "wan_iface" = .ok (shownText router.wanIface)
  wanUp : raw.get "wan_up" = .ok (.bool router.wanUp)
  load1m : raw.get "load_1m" = .ok (encodeFloat router.load1m)
  load5m : raw.get "load_5m" = .ok (encodeFloat router.load5m)
  load15m : raw.get "load_15m" = .ok (encodeFloat router.load15m)
  version : raw.get "version" = .ok (.str router.version)
  latest : raw.get "latest_version" = .ok (shownText router.latestVersion)

theorem router_encodes (router : RouterInfo) : RouterEncodes router.encode router := by
  constructor
  all_goals simp only [Json.get, Json.getD, RouterInfo.encode, List.cons_append, List.nil_append, List.append_assoc,
    lookup_field, lookup_omitEmpty, Json.truthy, shownText]
  all_goals simp
  all_goals split <;> simp_all

theorem shownText_orElse (text : String) (held : Json) :
    (shownText text).orElse held = if text = "" then held else .str text := by
  by_cases empty : text = "" <;> simp [shownText, Json.orElse, Json.truthy, empty]

theorem bootTime_encode (ha : HomeAssistant) (utcnow : Rat) (router : RouterInfo) (traffic : Json) :
    (fun boot : Option Instant => boot.elim (Shown.json .null) .time) <$>
        uptimeToBootTime ha utcnow ⟨router.encode, traffic⟩ =
      if router.uptimeSeconds = 0 then .ok (.json .null)
      else Shown.time <$> ha.utcFromTimestamp (.float (Library.Rounding.roundDown 60
        (utcnow - router.uptimeSeconds))) := by
  split
  next down =>
    simp only [uptimeToBootTime, encode_uptime, down]
    rfl
  next up =>
    rw [uptimeToBootTime_of_seconds ha utcnow (encode_uptime router) up]
    cases ha.utcFromTimestamp (.float (Library.Rounding.roundDown 60 (utcnow - router.uptimeSeconds))) <;> rfl

theorem showsRouter_encode (ha : HomeAssistant) (snap : Snapshot) :
    ShowsRouter ha snap ⟨snap.router.encode, snap.traffic.encode⟩ := by
  have encodes := router_encodes snap.router
  refine ⟨fun utcnow => ?_, ?_, ?_⟩
  · have boot := bootTime_encode ha utcnow snap.router snap.traffic.encode
    have rates : snap.traffic.encode.get "wan_rx_rate_bps" = .ok (encodeFloat snap.traffic.wanRxRate) ∧
        snap.traffic.encode.get "wan_tx_rate_bps" = .ok (encodeFloat snap.traffic.wanTxRate) ∧
        snap.traffic.encode.get "wan_rx_bytes" = .ok (.int snap.traffic.wanRxBytes.toNat) ∧
        snap.traffic.encode.get "wan_tx_bytes" = .ok (.int snap.traffic.wanTxBytes.toNat) := ⟨rfl, rfl, rfl, rfl⟩
    simp only [Integration.sensors, trafficSensor, routerSensor, routerReadings, List.map_cons, List.map_nil,
      encodes.clients, encodes.wanIP, encodes.load1m, encodes.load5m, encodes.load15m, rates, ← boot]
    have address : (shownText snap.router.wanIP).orElse .null = shownText snap.router.wanIP := shownText_orElse _ _
    simp [address]
  · simp only [wanStatus, encodes.wanUp, encodes.wanIface, bind, Except.bind, pure, Except.pure, shownText_orElse]
    split <;> simp_all [Json.truthy]
  · simp only [updateVersions, encodes.version, encodes.latest, bind, Except.bind, pure, Except.pure, shownText_orElse,
      orElse_str]
    rfl

/-! ## Runs -/

theorem Home.step_ran {ha : HomeAssistant} {home : Home} (ran : Ran home.process)
    (representable : ClockRepresentable home.process) (deed : Deed) : Ran (home.step ha deed).process := by
  cases deed with
  | plugin action => exact ran.step representable action
  | restart clock => exact start_ran clock
  | poll _ _ | pollFails _ _ _ | setUpDeviceTracker | setUpButton => exact ran

/-- What every state of a run keeps. -/
structure Kept (ha : HomeAssistant) (home : Home) : Prop where
  ran : Ran home.process
  sourced : Sourced home.process
  spelled : Spelled home.loaded
  covered : Covered ha home.loaded

theorem start_kept (ha : HomeAssistant) (clock : Time) : Kept ha (.start clock) where
  ran := start_ran clock
  sourced := start_sourced clock
  spelled := start_spelled
  covered := start_covered ha

/-- What a step is to the entry is a poll that is read or fails at once, or no poll. -/
theorem Kept.clean {ha : HomeAssistant} (keeps : KeepsCanonical ha) (times : ReadsTimes ha) {home : Home}
    (kept : Kept ha home) (representable : ClockRepresentable home.process) {deed : Deed} {happening : Happening}
    (happened : home.happening deed = some happening) : CleanPoll ha home.loaded happening := by
  cases deed with
  | poll now considerHome =>
      cases happened
      exact Or.inl (poll_readable keeps (served_readable times kept.ran kept.sourced representable) _ _ _)
  | pollFails now considerHome err =>
      cases happened
      exact Or.inr ⟨err, rfl⟩
  | plugin _ | restart _ => cases happened
  | setUpDeviceTracker | setUpButton =>
      cases happened
      trivial

theorem Kept.step {ha : HomeAssistant} (keeps : KeepsCanonical ha) (times : ReadsTimes ha) {home : Home}
    (kept : Kept ha home) (representable : ClockRepresentable home.process) (deed : Deed) : Kept ha (home.step ha deed) := by
  obtain ⟨sourced, spelled⟩ := Home.step_spelled keeps deed ⟨kept.sourced, kept.spelled⟩
  refine ⟨Home.step_ran kept.ran representable deed, sourced, spelled, ?_⟩
  unfold Home.step
  cases happened : home.happening deed with
  | none => exact kept.covered
  | some happening =>
      refine step_covered kept.covered (kept.clean keeps times representable happened) fun poll same mac listed => ?_
      have canonical := happening_lists keeps kept.sourced (same ▸ happened) listed
      exact keeps mac canonical.valid canonical.normal

/-- A failed poll leaves the coordinator as it was, and so does a setup. -/
theorem step_coordinator (ha : HomeAssistant) (home : Home) (deed : Deed) :
    (home.step ha deed).loaded.coordinator =
      run (SprCoordinator.poll ha) home.loaded.coordinator
        ((servedIn ⟨home, deed, home.step ha deed⟩).toList.map Served.poll) := by
  cases deed with
  | plugin _ | restart _ | poll _ _ | pollFails _ _ _ => rfl
  | setUpDeviceTracker | setUpButton =>
      simp only [Home.step, Home.happening, Loaded.step]
      split <;> rfl

theorem documents_coordinator (ha : HomeAssistant) (clock : Time) (deeds : List Deed) :
    (run (Home.step ha) (.start clock) deeds).loaded.coordinator =
      run (SprCoordinator.poll ha) .initial ((documents ha clock deeds).map Served.poll) := by
  induction deeds using List.reverseRecOn with
  | nil => rfl
  | append_singleton earlier deed ih =>
      rw [run_concat, step_coordinator, ih, documents_concat, List.map_append, run_append]

/-- What an entry shows is the last document, with the texts of earlier ones. -/
structure Reflects (ha : HomeAssistant) (docs : List Served) (loaded : Loaded) : Prop where
  listed : ∀ mac, mac ∈ loaded.coordinator.devices ↔ ∃ served ∈ docs.getLast?, served.under mac ≠ []
  trackers : ∀ listener ∈ loaded.deviceTracker, OneEach Entity.macAddress loaded.coordinator.devices listener ∧
    ∀ tracker ∈ listener.handed, Shows ha docs loaded.coordinator tracker
  buttons : ∀ listener ∈ loaded.button, OneEach Entity.mac loaded.coordinator.devices listener
  router : ∀ served ∈ docs.getLast?, ∃ data ∈ loaded.coordinator.data, ShowsRouter ha served.snapshot data

theorem listedSince_ne_nil {mac : String} {docs : List Served} :
    listedSince mac docs ≠ [] ↔ ∃ served ∈ docs.getLast?, served.under mac ≠ [] := by
  rw [Ne, listedSince_eq_nil]
  -- the devices listed last are among them whenever there are any
  obtain rfl | ⟨earlier, served, rfl⟩ := List.eq_nil_or_concat docs
  · simp
  · rw [List.concat_eq_append, List.rtakeWhile_concat, List.getLast?_concat]
    cases given : served.under mac <;> simp [given]

theorem reflects_documents {ha : HomeAssistant} (keeps : KeepsCanonical ha) {docs : List Served}
    (readable : ∀ served ∈ docs, Readable ha served.snapshot) {loaded : Loaded} (covered : Covered ha loaded)
    (polled : loaded.coordinator = run (SprCoordinator.poll ha) .initial (docs.map Served.poll)) :
    Reflects ha docs loaded where
  listed := by
    intro mac
    rw [← AList.lookup_isSome, polled, lookup_served keeps readable, ← listedSince_ne_nil]
    by_cases none : listedSince mac docs = [] <;> simp [none]
  trackers := fun listener held =>
    ⟨(covered.deviceTracker listener held).oneEach, fun tracker _ => polled ▸ shows_served keeps readable tracker⟩
  buttons := fun listener held => (covered.button listener held).oneEach
  router := by
    intro served last
    obtain ⟨earlier, rfl⟩ := List.getLast?_eq_some_iff.mp last
    refine ⟨_, ?_, showsRouter_encode ha served.snapshot⟩
    rw [polled, List.map_append, List.map_singleton, run_concat]
    exact poll_data_served (poll_readable keeps (readable served (by simp)) _ _ _)

/-- In every run of the plugin, its restarts, the polls and the setups: no document that a
poll is answered with raises, and what is shown is a function of those documents. -/
theorem run_reflects (ha : HomeAssistant) (keeps : KeepsCanonical ha) (times : ReadsTimes ha) (clock : Time)
    (deeds : List Deed)
    (representable : ∀ t ∈ transitions (Home.step ha) (.start clock) deeds, ClockRepresentable t.before.process) :
    (∀ t ∈ transitions (Home.step ha) (.start clock) deeds, ∀ served, servedIn t = some served →
      pollSucceeds ha t.before.loaded.coordinator served.poll = true) ∧
      Reflects ha (documents ha clock deeds) (run (Home.step ha) (.start clock) deeds).loaded := by
  obtain ⟨final, along⟩ := invariant_of_allowed (Kept ha) (fun home _ => ClockRepresentable home.process)
    (fun _ deed kept representable => kept.step keeps times representable deed) (start_kept ha clock) representable
  -- a document is readable by the clock of the process that served it
  have readable : ∀ t ∈ transitions (Home.step ha) (.start clock) deeds, ∀ served, servedIn t = some served →
      Readable ha served.snapshot := by
    intro t member served same
    have kept := (along t member).1
    have shown := served_readable times kept.ran kept.sourced (representable t member)
    unfold servedIn at same
    split at same
    · obtain rfl := Option.some.inj same
      exact shown
    · cases same
  refine ⟨fun t member served same => poll_readable keeps (readable t member served same) _ _ _, ?_⟩
  refine reflects_documents keeps (fun served member => ?_) final.covered (documents_coordinator ha clock deeds)
  obtain ⟨t, passed, same⟩ := List.mem_filterMap.mp member
  exact readable t passed served same

/-- A phone is named in the first document and not in the second; one poll in between fails. -/
def namedOnce : List Deed :=
  (oneRefresh (AList.singleton wiredStation ⟨"phone", "", "", "", none, none, none⟩)).map .plugin ++
    [.poll 0 180000000, .setUpDeviceTracker, .setUpButton, .pollFails 10000000 180000000 (.sprApiError "timeout")] ++
    (oneRefresh (AList.singleton wiredStation (plainEntry ""))).map .plugin ++ [.poll 20000000 180000000]

theorem namedOnce_reflects :
    (documents .documented 0 namedOnce).length = 2 ∧
      ((run (Home.step .documented) (.start 0) namedOnce).loaded.deviceTracker.map fun listener =>
        listener.handed.map (Entity.hostname (run (Home.step .documented) (.start 0) namedOnce).loaded.coordinator)) =
          some [.str "phone"] ∧
      Reflects .documented (documents .documented 0 namedOnce)
        (run (Home.step .documented) (.start 0) namedOnce).loaded := by
  have clocks : ((transitions (Home.step .documented) (.start 0) namedOnce).all fun t =>
      decide (ClockRepresentable t.before.process)) = true := by decide +kernel
  exact ⟨by decide +kernel, by decide +kernel,
    (run_reflects .documented documented_keepsCanonical documented_readsTimes 0 namedOnce fun t member =>
      of_decide_eq_true (List.all_eq_true.mp clocks t member)).2⟩

end SprHomeAssistant.System
