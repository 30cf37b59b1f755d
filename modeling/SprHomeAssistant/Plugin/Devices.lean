import Mathlib.Data.List.Dedup
import SprHomeAssistant.Plugin.Refresh

/-! Which devices a snapshot lists.

The device table is keyed by an identity, the snapshot by a MAC. Each entry has at most
one canonical MAC; the snapshot lists the canonical MACs of the table in order, as often
as the table has them.
-/

set_option autoImplicit false

namespace SprHomeAssistant.Plugin
open Go

/-- The MAC under which an entry is tracked; VPN-only and pending entries have none. -/
def canonicalMAC (entry : (_ : String) × DeviceEntry) : Option String :=
  if isMAC (entryMAC entry.1 entry.2) then some (entryMAC entry.1 entry.2) else none

def canonicalMACs (table : Map DeviceEntry) : List String := table.entries.filterMap canonicalMAC

theorem canonicalMAC_canonical {entry : (_ : String) × DeviceEntry} {mac : String}
    (canonical : canonicalMAC entry = some mac) : isMAC mac = true ∧ normalizeMAC mac = mac := by
  simp only [canonicalMAC, Option.ite_none_right_eq_some, Option.some.injEq] at canonical
  obtain ⟨valid, rfl⟩ := canonical
  refine ⟨valid, ?_⟩
  -- both spellings the entry offers are results of normalisation
  unfold entryMAC at valid ⊢
  by_cases missing : normalizeMAC entry.2.mac = "" <;> simp only [missing, if_true, if_false] at valid ⊢
  all_goals exact normalizeMAC_canonical valid

@[simp] theorem applyPresence_mac (presence : Presence) (td : TrackedDevice) :
    (applyPresence presence td).mac = td.mac := by
  unfold applyPresence
  repeat' split
  all_goals rfl

@[simp] theorem applyTraffic_mac (rxByIP txByIP : Map UInt64) (td : TrackedDevice) :
    (applyTraffic rxByIP txByIP td).mac = td.mac := by
  unfold applyTraffic
  split <;> rfl

@[simp] theorem mergeDevice_mac (g : Gathered) (mac : String) (dev : DeviceEntry) :
    (mergeDevice g mac dev).mac = mac := by
  simp [mergeDevice, newDevice]

@[simp] theorem add_macs (now : Time) (acc : Tracking) (td : TrackedDevice) :
    (acc.add now td).tracked.map (·.mac) = acc.tracked.map (·.mac) ++ [td.mac] := by
  simp [Tracking.add]

theorem add_counted (now : Time) {acc : Tracking} (td : TrackedDevice)
    (counted : acc.connectedCount = acc.tracked.countP (·.connected)) :
    (acc.add now td).connectedCount = (acc.add now td).tracked.countP (·.connected) := by
  simp only [Tracking.add, List.countP_append, counted]
  cases td.connected <;> rfl

/-- What the device loop keeps: one device for each canonical MAC it met, and the
number of those it marked connected. -/
structure Tracks (entries : List ((_ : String) × DeviceEntry)) (acc : Tracking) : Prop where
  macs : acc.tracked.map (·.mac) = entries.filterMap canonicalMAC
  counted : acc.connectedCount = acc.tracked.countP (·.connected)

theorem trackEntry_cases (g : Gathered) (acc : Tracking) (entry : (_ : String) × DeviceEntry) :
    (canonicalMAC entry = none ∧ trackEntry g acc entry = acc) ∨
      ∃ mac, canonicalMAC entry = some mac ∧
        trackEntry g acc entry = acc.add g.now (mergeDevice g mac entry.2) := by
  unfold canonicalMAC trackEntry
  generalize entryMAC entry.1 entry.2 = mac
  cases valid : isMAC mac with
  | false => exact Or.inl ⟨by simp, by simp [valid]⟩
  | true => exact Or.inr ⟨mac, by simp, by simp [valid]⟩

theorem Tracks.trackEntry (g : Gathered) {entries : List ((_ : String) × DeviceEntry)}
    {acc : Tracking} (tracks : Tracks entries acc) (entry : (_ : String) × DeviceEntry) :
    Tracks (entries ++ [entry]) (trackEntry g acc entry) := by
  obtain ⟨skipped, same⟩ | ⟨mac, kept, added⟩ := trackEntry_cases g acc entry
  · rw [same]
    exact ⟨by simp [tracks.macs, skipped], tracks.counted⟩
  · rw [added]
    exact ⟨by simp [tracks.macs, kept], add_counted g.now _ tracks.counted⟩

theorem Tracks.foldl (g : Gathered) {seen : List ((_ : String) × DeviceEntry)} {acc : Tracking}
    (tracks : Tracks seen acc) (rest : List ((_ : String) × DeviceEntry)) :
    Tracks (seen ++ rest) (rest.foldl (Plugin.trackEntry g) acc) := by
  induction rest generalizing seen acc with
  | nil => simpa using tracks
  | cons entry rest ih => simpa using ih (tracks.trackEntry g entry)

theorem trackDevices_tracks (g : Gathered) (lastSeen : Map Int) :
    Tracks g.devices.entries (trackDevices g lastSeen) :=
  have none : Tracks [] ⟨[], 0, lastSeen⟩ := ⟨rfl, rfl⟩
  none.foldl g g.devices.entries

theorem sortByMAC_macs (tracked : List TrackedDevice) :
    (sortByMAC tracked).map (·.mac) = (tracked.map (·.mac)).insertionSort (· ≤ ·) :=
  List.map_insertionSort _ _ _ _ fun _ _ _ _ => Iff.rfl

/-- A snapshot that lists a device table as Home Assistant expects it. -/
structure Lists (table : Map DeviceEntry) (snap : Snapshot) : Prop where
  increasing : (snap.devices.items.map (·.mac)).Pairwise (· < ·)
  canonical : ∀ d ∈ snap.devices.items, isMAC d.mac = true ∧ normalizeMAC d.mac = d.mac
  complete : ∀ mac, mac ∈ snap.devices.items.map (·.mac) ↔ mac ∈ canonicalMACs table
  counted : snap.router.clientsConnected =
    ((snap.devices.items.filter (·.connected)).map (·.mac)).dedup.length

theorem snapshot_macs (g : Gathered) (lastSeen : Map Int) :
    (buildSnapshot g (trackDevices g lastSeen)).devices.items.map (·.mac) =
      (canonicalMACs g.devices).insertionSort (· ≤ ·) := by
  simp [buildSnapshot, Slice.items, sortByMAC_macs, (trackDevices_tracks g lastSeen).macs, canonicalMACs]

theorem snapshot_canonical (g : Gathered) (lastSeen : Map Int) {d : TrackedDevice}
    (listed : d ∈ (buildSnapshot g (trackDevices g lastSeen)).devices.items) :
    isMAC d.mac = true ∧ normalizeMAC d.mac = d.mac := by
  have member := List.mem_map_of_mem (f := fun d : TrackedDevice => d.mac) listed
  rw [snapshot_macs, List.mem_insertionSort, canonicalMACs, List.mem_filterMap] at member
  obtain ⟨_, _, canonical⟩ := member
  exact canonicalMAC_canonical canonical

theorem sorted_strictly_iff (macs : List String) :
    (macs.insertionSort (· ≤ ·)).Pairwise (· < ·) ↔ macs.Nodup := by
  constructor
  · intro increasing
    exact (List.perm_insertionSort _ macs).nodup_iff.mp (increasing.imp fun below => ne_of_lt below)
  · intro distinct
    have ordered := List.pairwise_insertionSort (· ≤ ·) macs
    have apart : (macs.insertionSort (· ≤ ·)).Nodup :=
      (List.perm_insertionSort _ macs).nodup_iff.mpr distinct
    exact (ordered.and apart).imp fun ⟨below, distinct⟩ => lt_of_le_of_ne below distinct

/-- A snapshot lists its table properly exactly when no two entries share a canonical MAC. -/
theorem buildSnapshot_lists_iff (g : Gathered) (lastSeen : Map Int) :
    Lists g.devices (buildSnapshot g (trackDevices g lastSeen)) ↔ (canonicalMACs g.devices).Nodup := by
  rw [← sorted_strictly_iff, ← snapshot_macs g lastSeen]
  refine ⟨Lists.increasing, fun increasing => ⟨increasing, fun _ => snapshot_canonical g lastSeen, ?_, ?_⟩⟩
  · intro mac
    rw [snapshot_macs, List.mem_insertionSort]
  · have distinct : ((buildSnapshot g (trackDevices g lastSeen)).devices.items.map (·.mac)).Nodup :=
      increasing.imp fun below => ne_of_lt below
    have connected := distinct.sublist
      ((List.filter_sublist (p := TrackedDevice.connected)).map TrackedDevice.mac)
    -- without repetitions the distinct connected MACs are the connected devices
    rw [connected.dedup, List.length_map, ← List.countP_eq_length_filter]
    have order : ((buildSnapshot g (trackDevices g lastSeen)).devices.items).Perm
        (trackDevices g lastSeen).tracked := List.perm_insertionSort _ _
    rw [order.countP_eq]
    exact (trackDevices_tracks g lastSeen).counted

end SprHomeAssistant.Plugin
