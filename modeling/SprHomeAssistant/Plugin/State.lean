import SprHomeAssistant.Go.Values
import SprHomeAssistant.Json
import SprHomeAssistant.Plugin.Mac

/-! The state the plugin holds and the document it serves from it. -/

set_option autoImplicit false

namespace SprHomeAssistant.Plugin
open Go

structure TrackedDevice where
  mac : String
  name : String
  ip : String
  vlanTag : String
  groups : Slice String
  deviceTags : Slice String
  connected : Bool
  wired : Bool
  iface : String
  signal : Int
  lastSeen : Int
  rxBytes : UInt64
  txBytes : UInt64
  blocked : Bool
  guestWifi : Bool
  deriving DecidableEq

structure RouterInfo where
  hostname : String
  model : String
  version : String
  latestVersion : String
  updateAvailable : Bool
  uptimeSeconds : Int
  load1m : Rat
  load5m : Rat
  load15m : Rat
  wanIP : String
  wanIface : String
  wanUp : Bool
  guestWifiEnabled : Bool
  clientsConnected : Nat
  deriving DecidableEq

structure TrafficInfo where
  wanRxBytes : UInt64
  wanTxBytes : UInt64
  wanRxRate : Rat
  wanTxRate : Rat
  deriving DecidableEq

structure Snapshot where
  router : RouterInfo
  traffic : TrafficInfo
  devices : Slice TrackedDevice
  timestamp : Int
  deriving DecidableEq

/-- `Snapshot{}`, which a process serves until its first refresh. -/
def Snapshot.zero : Snapshot where
  router := ⟨"", "", "", "", false, 0, 0, 0, 0, "", "", false, false, 0⟩
  traffic := ⟨0, 0, 0, 0⟩
  devices := none
  timestamp := 0

/-- `stateStore`. The traffic time is `none` while it is Go's zero time. -/
structure StateStore where
  snapshot : Snapshot
  lastSeen : Map Int
  prevWANRx : UInt64
  prevWANTx : UInt64
  prevTrafficAt : Option Time

def StateStore.initial : StateStore := ⟨.zero, ∅, 0, 0, none⟩

def StateStore.get (s : StateStore) : Snapshot := s.snapshot

def StateStore.markSeen (s : StateStore) (mac : String) (when : Time) : StateStore :=
  { s with lastSeen := s.lastSeen.insert (normalizeMAC mac) (unix when) }

/-! ## The encoded document -/

/-- A field tagged `omitempty`. -/
def omitEmpty (name : String) (value : Json) : List (String × Json) :=
  if value.truthy then [(name, value)] else []

-- A whole number below 10^21 is written without a point and read back as an integer.
def encodeFloat (x : Rat) : Json :=
  if x.den = 1 ∧ x.num.natAbs < 10 ^ 21 then .int x.num else .float x

def encodeStrings (slice : Slice String) : Json :=
  match slice with
  | none => .null
  | some items => .arr (items.map .str)

def TrackedDevice.encode (d : TrackedDevice) : Json :=
  .obj ([("mac", .str d.mac), ("name", .str d.name), ("ip", .str d.ip)] ++
    omitEmpty "vlan_tag" (.str d.vlanTag) ++
    [("groups", encodeStrings d.groups), ("tags", encodeStrings d.deviceTags),
      ("connected", .bool d.connected), ("wired", .bool d.wired)] ++
    omitEmpty "iface" (.str d.iface) ++
    omitEmpty "signal" (.int d.signal) ++
    [("last_seen", .int d.lastSeen), ("rx_bytes", .int d.rxBytes.toNat),
      ("tx_bytes", .int d.txBytes.toNat), ("blocked", .bool d.blocked), ("guest", .bool d.guestWifi)])

def RouterInfo.encode (r : RouterInfo) : Json :=
  .obj ([("hostname", .str r.hostname)] ++
    omitEmpty "model" (.str r.model) ++
    [("version", .str r.version)] ++
    omitEmpty "latest_version" (.str r.latestVersion) ++
    [("update_available", .bool r.updateAvailable), ("uptime_seconds", .int r.uptimeSeconds),
      ("load_1m", encodeFloat r.load1m), ("load_5m", encodeFloat r.load5m), ("load_15m", encodeFloat r.load15m)] ++
    omitEmpty "wan_ip" (.str r.wanIP) ++
    omitEmpty "wan_iface" (.str r.wanIface) ++
    [("wan_up", .bool r.wanUp), ("guest_wifi_enabled", .bool r.guestWifiEnabled),
      ("clients_connected", .int r.clientsConnected)])

def TrafficInfo.encode (t : TrafficInfo) : Json :=
  .obj [("wan_rx_bytes", .int t.wanRxBytes.toNat), ("wan_tx_bytes", .int t.wanTxBytes.toNat),
    ("wan_rx_rate_bps", encodeFloat t.wanRxRate), ("wan_tx_rate_bps", encodeFloat t.wanTxRate)]

def encodeDevices (devices : Slice TrackedDevice) : Json :=
  match devices with
  | none => .null
  | some items => .arr (items.map TrackedDevice.encode)

def Snapshot.encode (s : Snapshot) : Json :=
  .obj [("router", s.router.encode), ("traffic", s.traffic.encode),
    ("devices", encodeDevices s.devices), ("timestamp", .int s.timestamp)]

/-- `GET /ha/v1/state`. -/
def handleState (s : StateStore) : Json := s.get.encode

end SprHomeAssistant.Plugin
