import SprHomeAssistant.Plugin.Pushes
import SprHomeAssistant.System.Removal

/-! The state document from the plugin's structs to the coordinator's devices.

A field that the encoder leaves out reads as the default that the decoder puts in its
place; a null list and a zero read as the empty list and the zero they stand for.
-/

set_option autoImplicit false

namespace SprHomeAssistant.System
open Go Plugin Integration

/-- A device as the coordinator holds it after a response with this one. A name or an
address that is empty leaves the one held before. -/
structure Mirrors (held : SprDevice) (td : TrackedDevice) (device : SprDevice) : Prop where
  name : device.name = if td.name = "" then held.name else .str td.name
  ip : device.ip = if td.ip = "" then held.ip else .str td.ip
  groups : device.groups = .arr (td.groups.items.map .str)
  tags : device.tags = .arr (td.deviceTags.items.map .str)
  wired : device.wired = td.wired
  iface : device.iface = .str td.iface
  signal : device.signal = .int td.signal
  rxBytes : device.rxBytes = .int td.rxBytes.toNat
  txBytes : device.txBytes = .int td.txBytes.toNat
  blocked : device.blocked = td.blocked
  guest : device.guest = td.guestWifi
  rawConnected : device.rawConnected = td.connected

theorem lookup_field (name key : String) (value : Json) (rest : List (String × Json)) :
    ((name, value) :: rest).lookup key = if key = name then some value else rest.lookup key := by
  by_cases same : key = name
  · simp [same]
  · simp [List.lookup_cons, same, beq_false_of_ne same]

theorem lookup_omitEmpty (name key : String) (value : Json) (rest : List (String × Json)) :
    (omitEmpty name value ++ rest).lookup key =
      if key = name ∧ value.truthy = true then some value else rest.lookup key := by
  unfold omitEmpty
  by_cases given : value.truthy = true
  · simp [given, lookup_field]
  · simp [given]

/-- What the decoder finds under the keys of an encoded device. -/
structure Encodes (raw : Json) (td : TrackedDevice) : Prop where
  name : rawField raw "name" = .str td.name
  ip : rawField raw "ip" = .str td.ip
  groups : rawField raw "groups" = encodeStrings td.groups
  tags : rawField raw "tags" = encodeStrings td.deviceTags
  wired : rawField raw "wired" = .bool td.wired
  iface : rawField raw "iface" = if td.iface = "" then .null else .str td.iface
  signal : rawField raw "signal" = if td.signal = 0 then .null else .int td.signal
  lastSeen : rawField raw "last_seen" = .int td.lastSeen
  rxBytes : rawField raw "rx_bytes" = .int td.rxBytes.toNat
  txBytes : rawField raw "tx_bytes" = .int td.txBytes.toNat
  blocked : rawField raw "blocked" = .bool td.blocked
  guest : rawField raw "guest" = .bool td.guestWifi
  connected : rawField raw "connected" = .bool td.connected

theorem encode_encodes (td : TrackedDevice) : Encodes td.encode td := by
  constructor
  all_goals simp only [rawField, TrackedDevice.encode, List.cons_append, List.nil_append,
    List.append_assoc, lookup_field, lookup_omitEmpty, Json.truthy]
  all_goals simp
  case iface => split <;> simp_all
  case signal => split <;> simp_all

/-! ## The defaults of the decoder -/

theorem orElse_str (text : String) (held : Json) :
    (Json.str text).orElse held = if text = "" then held else .str text := by
  by_cases empty : text = "" <;> simp [Json.orElse, Json.truthy, empty]

theorem orElse_int (n : Int) : (Json.int n).orElse (.int 0) = .int n := by
  by_cases zero : n = 0 <;> simp [Json.orElse, Json.truthy, zero]

theorem orElse_strings (slice : Slice String) :
    (encodeStrings slice).orElse (.arr []) = .arr (slice.items.map .str) := by
  cases slice with
  | none => rfl
  | some items => cases items <;> rfl

theorem describe_mirrors (held : SprDevice) {raw : Json} {td : TrackedDevice} (encodes : Encodes raw td) :
    Mirrors held td (held.describe raw) where
  name := by simp only [SprDevice.describe, encodes.name, orElse_str]
  ip := by simp only [SprDevice.describe, encodes.ip, orElse_str]
  groups := by simp only [SprDevice.describe, encodes.groups, orElse_strings]
  tags := by simp only [SprDevice.describe, encodes.tags, orElse_strings]
  wired := by simp only [SprDevice.describe, encodes.wired, Json.truthy]
  iface := by
    by_cases omitted : td.iface = "" <;>
      simp [SprDevice.describe, encodes.iface, omitted, Json.orElse, Json.truthy]
  signal := by
    by_cases omitted : td.signal = 0 <;>
      simp [SprDevice.describe, encodes.signal, omitted, Json.orElse, Json.truthy]
  rxBytes := by simp only [SprDevice.describe, encodes.rxBytes, orElse_int]
  txBytes := by simp only [SprDevice.describe, encodes.txBytes, orElse_int]
  blocked := by simp only [SprDevice.describe, encodes.blocked, Json.truthy]
  guest := by simp only [SprDevice.describe, encodes.guest, Json.truthy]
  rawConnected := by simp only [SprDevice.describe, encodes.connected, Json.truthy]

theorem Mirrors.settle {held device : SprDevice} {td : TrackedDevice} (mirrors : Mirrors held td device)
    (now considerHome : Int) (lastSeen : Option Instant) :
    Mirrors held td (device.settle now considerHome lastSeen) :=
  ⟨mirrors.name, mirrors.ip, mirrors.groups, mirrors.tags, mirrors.wired, mirrors.iface, mirrors.signal,
    mirrors.rxBytes, mirrors.txBytes, mirrors.blocked, mirrors.guest, mirrors.rawConnected⟩

/-! ## One entry -/

/-- A device of the document that a poll can track: its MAC is spelled as the plugin spells
it, and its last sighting is a time. -/
structure Decodable (ha : HomeAssistant) (td : TrackedDevice) : Prop where
  canonical : isMAC td.mac = true ∧ normalizeMAC td.mac = td.mac
  real : td.mac ≠ zeroMac
  representable : ∃ seen, ha.utcFromTimestamp (.int td.lastSeen) = .ok seen

theorem sightedAt_encode {ha : HomeAssistant} {td : TrackedDevice} (decodable : Decodable ha td)
    (now : Instant) (device : SprDevice) : ∃ lastSeen, sightedAt ha now device td.encode = .ok lastSeen := by
  obtain ⟨seen, read⟩ := decodable.representable
  unfold sightedAt
  rw [(encode_encodes td).lastSeen, read]
  split
  · exact ⟨_, rfl⟩
  · split <;> exact ⟨_, rfl⟩

theorem pollEntry_encode {ha : HomeAssistant} (keeps : KeepsCanonical ha) {td : TrackedDevice}
    (decodable : Decodable ha td) (now considerHome : Int) (acc : Polling) :
    ∃ device, Mirrors (acc.device td.mac) td device ∧
      pollEntry ha now considerHome acc td.encode = (acc.put td.mac device, none) := by
  obtain ⟨valid, canonical⟩ := decodable.canonical
  have named : td.mac ≠ "" := by
    intro empty
    rw [empty] at valid
    revert valid
    decide
  obtain ⟨lastSeen, sighted⟩ :=
    sightedAt_encode decodable now ((acc.device td.mac).describe td.encode)
  refine ⟨_, (describe_mirrors _ (encode_encodes td)).settle now considerHome lastSeen, ?_⟩
  simp only [pollEntry, rawMac_encode (keeps _ valid canonical) named decodable.real, sighted]

/-! ## The whole document -/

/-- The device loop over devices with distinct MACs: each of them is met once. -/
theorem pollEntries_encode {ha : HomeAssistant} (keeps : KeepsCanonical ha) (now considerHome : Int)
    (tds : List TrackedDevice) :
    ∀ acc : Polling, (∀ td ∈ tds, Decodable ha td) → (tds.map (·.mac)).Nodup →
      ∃ final, pollEntries ha now considerHome acc (tds.map TrackedDevice.encode) = (final, none) ∧
        final.seenMacs = acc.seenMacs ++ tds.map (·.mac) ∧
        (∀ mac ∉ tds.map (·.mac), final.devices.lookup mac = acc.devices.lookup mac) ∧
        ∀ td ∈ tds, ∃ device, final.devices.lookup td.mac = some device ∧
          Mirrors (acc.device td.mac) td device := by
  induction tds with
  | nil => exact fun acc _ _ => ⟨acc, rfl, by simp, by simp, by simp⟩
  | cons td rest ih =>
      intro acc decodable distinct
      obtain ⟨own, others⟩ := List.forall_mem_cons.mp decodable
      rw [List.map_cons, List.nodup_cons] at distinct
      obtain ⟨device, mirrors, turn⟩ := pollEntry_encode keeps own now considerHome acc
      obtain ⟨final, looped, seen, same, found⟩ := ih (acc.put td.mac device) others distinct.2
      refine ⟨final, ?_, ?_, ?_, ?_⟩
      · simp only [List.map_cons, pollEntries, turn, looped]
      · simp [seen, Polling.put]
      · intro mac absent
        rw [List.map_cons, List.mem_cons, not_or] at absent
        rw [same mac absent.2, put_lookup_other _ _ absent.1]
      · intro other member
        rcases List.mem_cons.mp member with rfl | member
        · exact ⟨device, by rw [same _ distinct.1, put_lookup_self], mirrors⟩
        · have apart : other.mac ≠ td.mac := fun equal =>
            distinct.1 (equal ▸ List.mem_map_of_mem member)
          obtain ⟨kept, stored, mirrors⟩ := found other member
          have held : (acc.put td.mac device).device other.mac = acc.device other.mac := by
            rw [Polling.device, put_lookup_other _ _ apart]
            rfl
          exact ⟨kept, stored, held ▸ mirrors⟩

theorem handleState_sections (s : StateStore) :
    (rawField (handleState s) "router").orElse (.obj []) = s.snapshot.router.encode ∧
      (rawField (handleState s) "traffic").orElse (.obj []) = s.snapshot.traffic.encode := by
  have router : rawField (handleState s) "router" = s.snapshot.router.encode := rfl
  have traffic : rawField (handleState s) "traffic" = s.snapshot.traffic.encode := rfl
  rw [router, traffic]
  exact ⟨rfl, rfl⟩

/-- Whatever the coordinator held, a poll answered with the state document gives it exactly
the document's devices, each as the plugin tracks it, and its router and traffic. -/
theorem state_document_decodes (ha : HomeAssistant) (keeps : KeepsCanonical ha) (s : StateStore)
    (decodable : ∀ td ∈ s.snapshot.devices.items, Decodable ha td) (distinct : s.snapshot.macs.Nodup)
    (c : SprCoordinator) (now considerHome : Int) :
    let updated := asyncUpdateData ha c ⟨now, considerHome, .ok (handleState s)⟩
    updated.result = .ok ⟨s.snapshot.router.encode, s.snapshot.traffic.encode⟩ ∧
      (∀ mac, mac ∈ updated.devices ↔ mac ∈ s.snapshot.macs) ∧
      ∀ td ∈ s.snapshot.devices.items, ∃ device, updated.devices.lookup td.mac = some device ∧
        Mirrors ((c.devices.lookup td.mac).getD (.make td.mac)) td device := by
  obtain ⟨final, looped, seen, -, found⟩ :=
    pollEntries_encode keeps now considerHome s.snapshot.devices.items ⟨c.devices, [], []⟩ decodable distinct
  obtain ⟨router, traffic⟩ := handleState_sections s
  simp only [asyncUpdateData, rawDevices_handleState, looped, router, traffic, true_and]
  rw [List.nil_append] at seen
  constructor
  · intro mac
    rw [mem_dropUnseen, seen]
    refine ⟨And.left, fun listed => ⟨listed, ?_⟩⟩
    obtain ⟨td, member, rfl⟩ := List.mem_map.mp listed
    obtain ⟨device, stored, -⟩ := found td member
    exact AList.lookup_isSome.mp (by simp [stored])
  · intro td member
    obtain ⟨device, stored, mirrors⟩ := found td member
    have listed : td.mac ∈ final.seenMacs := seen ▸ List.mem_map_of_mem member
    exact ⟨device, by rw [dropUnseen_lookup, if_pos listed, stored], mirrors⟩

/-- Two stations at both ends of what the fields may hold. -/
def extremeStore : StateStore :=
  { StateStore.initial with
    snapshot := { Snapshot.zero with
      devices := some [
        ⟨"aa:bb:cc:dd:ee:01", "", "", "", none, none, false, false, "", 0, 0, 0, 0, false, false⟩,
        ⟨"aa:bb:cc:dd:ee:02", "tv", "192.168.2.100", "7", some ["wan"], some [], true, true, "eth1", -55,
          1700000000, 18446744073709551615, 18446744073709551615, true, true⟩] } }

theorem state_document_decodes_extremes :
    let updated := asyncUpdateData .documented .initial ⟨0, 180000000, .ok (handleState extremeStore)⟩
    updated.result = .ok ⟨extremeStore.snapshot.router.encode, extremeStore.snapshot.traffic.encode⟩ ∧
      (∀ mac, mac ∈ updated.devices ↔ mac ∈ extremeStore.snapshot.macs) ∧
      ∀ td ∈ extremeStore.snapshot.devices.items, ∃ device,
        updated.devices.lookup td.mac = some device ∧
          Mirrors ((SprCoordinator.initial.devices.lookup td.mac).getD (.make td.mac)) td device := by
  refine state_document_decodes .documented documented_keepsCanonical extremeStore ?_ (by decide) .initial
    0 180000000
  intro td member
  rcases List.mem_pair.mp member with rfl | rfl
  · exact ⟨by decide, by decide, 0, rfl⟩
  · exact ⟨by decide, by decide, 1700000000000000, rfl⟩

end SprHomeAssistant.System
