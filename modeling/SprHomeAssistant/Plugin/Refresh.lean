import Mathlib.Data.List.Sort
import Mathlib.Data.String.Basic
import SprHomeAssistant.Plugin.State
import SprHomeAssistant.Plugin.Topology
import SprHomeAssistant.Plugin.Version

/-! `refreshState`: from the readings of one refresh to the next snapshot.

The refresh touches the shared state twice under its lock: it copies the sightings and
the last connectivity, and later it merges the sightings back and swaps the snapshot in.
Everything else is computed from its own readings. The four parts are definitions of
their own, so that other writers can be placed between them.
-/

set_option autoImplicit false

namespace SprHomeAssistant.Plugin
open Go

/-! ## Readings -/

structure StationInfo where
  iface : String
  signal : Int
  rxBytes : UInt64
  txBytes : UInt64
  deriving DecidableEq

/-- Presence by topology, or by station lists and learned ARP entries. -/
inductive Presence where
  | topology (topo : Map TopoPresence)
  | merged (stations : Map StationInfo) (arpSeen : Map String)

def scanInterface (found : Bool × String) (iface : InterfaceConfig) : Bool × String :=
  -- a later uplink takes the place of an earlier one only when it is enabled
  if iface.type = "Uplink" then
    (found.1, if found.2 = "" || iface.enabled then iface.name else found.2)
  else if iface.type = "AP" then (found.1 || !iface.extraBSS.items.isEmpty, found.2)
  else found

def scanInterfaces (ifaces : Slice InterfaceConfig) : Bool × String :=
  ifaces.items.foldl scanInterface (false, "")

def stationNames (ifaces : Slice InterfaceConfig) : List String :=
  (ifaces.items.filter fun iface => iface.type = "AP" && iface.enabled).flatMap fun iface =>
    -- the guest BSS of an AP is an interface of its own
    if iface.extraBSS.items.isEmpty then [iface.name] else [iface.name, iface.name ++ ".ap0"]

def enabledAP (iface : InterfaceConfig) : Bool := iface.type = "AP" && iface.enabled

/-- The lists that are asked for on behalf of one interface. -/
def ownStationNames (iface : InterfaceConfig) : List String :=
  if enabledAP iface then
    if iface.extraBSS.items.isEmpty then [iface.name] else [iface.name, iface.name ++ ".ap0"]
  else []

theorem stationNames_eq (ifaces : Slice InterfaceConfig) :
    stationNames ifaces = ifaces.items.flatMap ownStationNames := by
  change ((ifaces.items.filter enabledAP).flatMap fun iface =>
    if iface.extraBSS.items.isEmpty then [iface.name] else [iface.name, iface.name ++ ".ap0"]) = _
  induction ifaces.items with
  | nil => rfl
  | cons iface rest ih =>
      rw [List.flatMap_cons, ← ih, List.filter_cons]
      cases ap : enabledAP iface <;> simp [ownStationNames, ap]

def stationInfo (name : String) (sta : Map String) : StationInfo where
  iface := name
  signal := (atoi (sta.get "signal" "")).1
  rxBytes := .ofNat (parseUint (sta.get "rx_bytes" "").toList 10 64).1
  txBytes := .ofNat (parseUint (sta.get "tx_bytes" "").toList 10 64).1

def addStation (name : String) (stations : Map StationInfo) (entry : (_ : String) × Map String) :
    Map StationInfo :=
  let mac := normalizeMAC entry.1
  if !isMAC mac then stations else stations.insert mac (stationInfo name entry.2)

def collectStations (reads : Reads) (ifaces : Slice InterfaceConfig) : Map StationInfo :=
  (stationNames ifaces).zipIdx.foldl
    (fun stations (name, n) => (reads.fetchStations n name).entries.foldl (addStation name) stations) ∅

def learnedFlags (flags : String) : Bool :=
  -- 0x2 is a complete entry, 0x4 a permanent one that SPR has seeded itself
  match parseInt (trimPrefix flags "0x") 16 32 with
  | (flags, none) => Int64.ofInt flags &&& 0x2 != 0 && Int64.ofInt flags &&& 0x4 == 0
  | (_, some _) => false

def addArpEntry (wanIface : String) (arpSeen : Map String) (entry : ArpEntry) : Map String :=
  if entry.device = wanIface then arpSeen
  else if !learnedFlags entry.flags then arpSeen
  else
    let mac := normalizeMAC entry.mac
    if isMAC mac then arpSeen.insert mac entry.device else arpSeen

def collectArp (reads : Reads) (wanIface : String) : Map String :=
  reads.fetchArp.items.foldl (addArpEntry wanIface) ∅

def collectPresence (reads : Reads) (ifaces : Slice InterfaceConfig) (wanIface : String) : Presence :=
  match fetchTopologyPresence reads.topology with
  | some topo => .topology topo
  | none => .merged (collectStations reads ifaces) (collectArp reads wanIface)

-- Both sums wrap at 64 bits.
def addTraffic (sums : Map UInt64 × UInt64) (el : TrafficElement) : Map UInt64 × UInt64 :=
  (sums.1.insert el.ip (sums.1.get el.ip 0 + el.bytes), sums.2 + el.bytes)

def sumTraffic (elements : Slice TrafficElement) : Map UInt64 × UInt64 :=
  elements.items.foldl addTraffic (∅, 0)

def wanAddress (addrs : Slice IPAddr) (wanIface : String) : String × Bool :=
  -- both loops of the source leave at their first match
  match addrs.items.find? fun addr => addr.ifname = wanIface with
  | none => ("", false)
  | some addr =>
      let up := equalFold addr.operstate "UP"
      match addr.addrInfo.items.find? fun info => info.family = "inet" && info.scope = "global" with
      | some info => (info.localAddr, up)
      | none => ("", up)

/-- `int64` of a float in its range. -/
def truncate (x : Rat) : Int := if x < 0 then x.ceil else x.floor

/-- What a refresh holds once its requests are answered. -/
structure Gathered where
  now : Time
  devices : Map DeviceEntry
  guestEnabled : Bool
  wanIface : String
  presence : Presence
  rxByIP : Map UInt64
  txByIP : Map UInt64
  wanRxTotal : UInt64
  wanTxTotal : UInt64
  wanIP : String
  wanUp : Bool
  uptime : UptimeInfo
  version : String
  latest : String
  hostname : String

def resolveVersion (reads : Reads) : String :=
  if reads.fetchVersion = "" then reads.release.current else reads.fetchVersion

def checkRelease (reads : Reads) (check : VersionCheck) : String × VersionCheck :=
  latestAvailableVersion (resolveVersion reads) check reads.releaseAsked reads.releaseAnswered
    reads.releasesAvailable

def gatherFrom (now : Time) (devices : Map DeviceEntry) (reads : Reads) (latest : String) : Gathered :=
  let ifaces := reads.interfaces.getD none
  let found := scanInterfaces ifaces
  let rx := sumTraffic (fetchTrafficSet reads.incomingTraffic)
  let tx := sumTraffic (fetchTrafficSet reads.outgoingTraffic)
  let wan := wanAddress reads.fetchIPAddrs found.2
  { now := now
    devices := devices
    guestEnabled := found.1
    wanIface := found.2
    presence := collectPresence reads ifaces found.2
    rxByIP := rx.1
    txByIP := tx.1
    wanRxTotal := rx.2
    wanTxTotal := tx.2
    wanIP := wan.1
    wanUp := wan.2
    uptime := reads.uptime
    version := resolveVersion reads
    latest := latest
    hostname := reads.hostname }

def gather (now : Time) (reads : Reads) (check : VersionCheck) : Option Gathered × VersionCheck :=
  match reads.devices with
  -- without a device table the refresh asks for nothing else
  | none => (none, check)
  | some devices =>
      let release := checkRelease reads check
      (some (gatherFrom now devices reads release.1), release.2)

/-! ## The copy of the shared state -/

structure Copied where
  lastSeen : Map Int
  prevConnected : Map Bool

def copyState (s : StateStore) : Copied where
  lastSeen := s.lastSeen
  prevConnected := s.snapshot.devices.items.foldl (fun seen d => seen.insert d.mac d.connected) ∅

/-! ## The devices -/

def entryMAC (identity : String) (dev : DeviceEntry) : String :=
  let mac := normalizeMAC dev.mac
  if mac = "" then normalizeMAC identity else mac

def newDevice (mac : String) (dev : DeviceEntry) : TrackedDevice where
  mac := mac
  name := dev.name
  ip := dev.recentIP
  vlanTag := dev.vlanTag
  groups := dev.groups
  deviceTags := dev.deviceTags
  connected := false
  wired := false
  iface := ""
  signal := 0
  lastSeen := 0
  rxBytes := 0
  txBytes := 0
  blocked := !hasWAN dev
  guestWifi := dev.deviceTags.items.contains "guest" || dev.policies.items.contains "guestonly"

def applyPresence (presence : Presence) (td : TrackedDevice) : TrackedDevice :=
  match presence with
  | .topology topo =>
      match topo.lookup td.mac with
      | some p =>
          if p.online then
            { td with connected := true, wired := p.connType = "wired", iface := p.iface, signal := p.signal }
          else td
      | none => td
  | .merged stations arpSeen =>
      match stations.lookup td.mac with
      | some sta =>
          { td with
            connected := true, iface := sta.iface, signal := sta.signal
            rxBytes := sta.rxBytes, txBytes := sta.txBytes }
      | none =>
          match arpSeen.lookup td.mac with
          | some iface => { td with connected := true, wired := true, iface := iface }
          | none => td

def applyTraffic (rxByIP txByIP : Map UInt64) (td : TrackedDevice) : TrackedDevice :=
  if td.ip = "" then td
  else
    let rx := rxByIP.get td.ip 0
    let tx := txByIP.get td.ip 0
    -- the counters by address survive a reassociation, the station's own do not
    { td with
      rxBytes := if 0 < rx then rx else td.rxBytes
      txBytes := if 0 < tx then tx else td.txBytes }

/-- The locals of the device loop. -/
structure Tracking where
  tracked : List TrackedDevice
  connectedCount : Nat
  lastSeen : Map Int

def mergeDevice (g : Gathered) (mac : String) (dev : DeviceEntry) : TrackedDevice :=
  applyTraffic g.rxByIP g.txByIP (applyPresence g.presence (newDevice mac dev))

def Tracking.add (now : Time) (acc : Tracking) (td : TrackedDevice) : Tracking :=
  -- a connected device is sighted at the time when the refresh began
  let lastSeen := if td.connected then acc.lastSeen.insert td.mac (unix now) else acc.lastSeen
  { tracked := acc.tracked ++ [{ td with lastSeen := Map.get lastSeen td.mac 0 }]
    connectedCount := if td.connected then acc.connectedCount + 1 else acc.connectedCount
    lastSeen := lastSeen }

def trackEntry (g : Gathered) (acc : Tracking) (entry : (_ : String) × DeviceEntry) : Tracking :=
  let mac := entryMAC entry.1 entry.2
  if !isMAC mac then acc else acc.add g.now (mergeDevice g mac entry.2)

def trackDevices (g : Gathered) (lastSeen : Map Int) : Tracking :=
  g.devices.entries.foldl (trackEntry g) ⟨[], 0, lastSeen⟩

/-- `sort.Slice` by MAC. It may leave equal MACs in any order; so may the loop before it. -/
def sortByMAC (tracked : List TrackedDevice) : List TrackedDevice :=
  tracked.insertionSort fun a b => a.mac ≤ b.mac

def buildSnapshot (g : Gathered) (tracking : Tracking) : Snapshot where
  router := {
    hostname := g.hostname
    model := ""
    version := g.version
    latestVersion := g.latest
    updateAvailable := g.latest ≠ "" && g.version ≠ "" && semverLess g.version g.latest
    uptimeSeconds := truncate g.uptime.uptimeTotalSeconds
    load1m := g.uptime.load1m
    load5m := g.uptime.load5m
    load15m := g.uptime.load15m
    wanIP := g.wanIP
    wanIface := g.wanIface
    wanUp := g.wanUp
    guestWifiEnabled := g.guestEnabled
    clientsConnected := tracking.connectedCount }
  traffic := ⟨g.wanRxTotal, g.wanTxTotal, 0, 0⟩
  devices := some (sortByMAC tracking.tracked)
  timestamp := unix g.now

/-! ## The swap -/

def mergeSighting (seen : Map Int) (entry : (_ : String) × Int) : Map Int :=
  if entry.2 > seen.get entry.1 0 then seen.insert entry.1 entry.2 else seen

def applyRates (g : Gathered) (s : StateStore) (traffic : TrafficInfo) : TrafficInfo :=
  match s.prevTrafficAt with
  | none => traffic
  | some before =>
      let dt := secondsBetween g.now before
      -- a counter that went back was reset, and gives no rate
      if 0 < dt && s.prevWANRx ≤ g.wanRxTotal && s.prevWANTx ≤ g.wanTxTotal then
        { traffic with
          wanRxRate := (g.wanRxTotal - s.prevWANRx).toNat * 8 / dt
          wanTxRate := (g.wanTxTotal - s.prevWANTx).toNat * 8 / dt }
      else traffic

def publish (g : Gathered) (tracking : Tracking) (s : StateStore) : StateStore :=
  let snap := buildSnapshot g tracking
  { snapshot := { snap with traffic := applyRates g s snap.traffic }
    lastSeen := tracking.lastSeen.entries.foldl mergeSighting s.lastSeen
    prevWANRx := g.wanRxTotal
    prevWANTx := g.wanTxTotal
    prevTrafficAt := some g.now }

/-! ## The pushed transitions -/

structure Event where
  event : String
  mac : String
  name : String
  ip : String
  deriving DecidableEq

def transitionEvent (prevConnected : Map Bool) (d : TrackedDevice) : Option Event :=
  match prevConnected.lookup d.mac with
  -- a device that the last snapshot did not list makes no transition
  | none => none
  | some was =>
      if was = d.connected then none
      else some ⟨if d.connected then "device_connected" else "device_disconnected", d.mac, d.name, d.ip⟩

def transitionEvents (prevConnected : Map Bool) (tracking : Tracking) : List Event :=
  (sortByMAC tracking.tracked).filterMap (transitionEvent prevConnected)

/-! ## The whole refresh -/

structure Refreshed where
  store : StateStore
  check : VersionCheck
  events : List Event

/-- A refresh that began at `now` and ran with no other writer in between. -/
def refreshState (now : Time) (reads : Reads) (s : StateStore) (check : VersionCheck) : Refreshed :=
  match gather now reads check with
  | (none, check) => ⟨s, check, []⟩
  | (some g, check) =>
      let copied := copyState s
      let tracking := trackDevices g copied.lastSeen
      ⟨publish g tracking s, check, transitionEvents copied.prevConnected tracking⟩

/-- Without a device table a refresh leaves the store alone. -/
theorem refreshState_unread {now : Time} {reads : Reads} (unread : reads.devices = none) (s : StateStore)
    (check : VersionCheck) : (refreshState now reads s check).store = s := by
  simp only [refreshState, gather, unread]

theorem refreshState_published {now : Time} {reads : Reads} {table : Map DeviceEntry}
    (readable : reads.devices = some table) (s : StateStore) (check : VersionCheck) :
    (refreshState now reads s check).store =
      publish (gatherFrom now table reads (checkRelease reads check).1)
        (trackDevices (gatherFrom now table reads (checkRelease reads check).1) s.lastSeen) s := by
  simp only [refreshState, gather, readable]
  rfl

end SprHomeAssistant.Plugin
