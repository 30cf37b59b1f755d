import SprHomeAssistant.Go.Values

/-! What the plugin reads from the SPR API.

A request yields the decoded value, or `none` for the error that its caller sees. The
callers that ignore the error keep whatever the decoder left in their variable, so for
them the reading is the variable itself.
-/

set_option autoImplicit false

namespace SprHomeAssistant.Plugin
open Go

structure DeviceEntry where
  name : String
  mac : String
  vlanTag : String
  recentIP : String
  policies : Slice String
  groups : Slice String
  deviceTags : Slice String
  deriving DecidableEq

structure ExtraBSS where
  ssid : String
  deriving DecidableEq

structure InterfaceConfig where
  name : String
  type : String
  enabled : Bool
  extraBSS : Slice ExtraBSS
  deriving DecidableEq

structure ArpEntry where
  flags : String
  mac : String
  device : String
  deriving DecidableEq

structure TrafficElement where
  ip : String
  bytes : UInt64
  deriving DecidableEq

structure ReleaseInfo where
  current : String
  deriving DecidableEq

structure UptimeInfo where
  uptimeTotalSeconds : Rat
  load1m : Rat
  load5m : Rat
  load15m : Rat
  deriving DecidableEq

structure IPAddrInfo where
  family : String
  localAddr : String
  scope : String
  deriving DecidableEq

structure IPAddr where
  ifname : String
  operstate : String
  addrInfo : Slice IPAddrInfo
  deriving DecidableEq

structure TopoSignal where
  rssi : Int
  deriving DecidableEq

structure TopoNode where
  kind : String
  mac : String
  connType : String
  iface : String
  signal : Option TopoSignal
  online : Bool
  deriving DecidableEq

structure TopoResponse where
  nodes : Slice TopoNode

abbrev StationTable := Map (Map String)

/-- The outcome of every request of one refresh. `stations n name` answers the `n`-th
request for a station list, made for the interface `name`; the release check reads the
clock before its query and after the answer. -/
structure Reads where
  devices : Option (Map DeviceEntry)
  interfaces : Option (Slice InterfaceConfig)
  topology : Option TopoResponse
  stations : Nat → String → Option StationTable
  arp : Option (Slice ArpEntry)
  incomingTraffic : Option (Slice TrafficElement)
  outgoingTraffic : Option (Slice TrafficElement)
  ipAddrs : Option (Slice IPAddr)
  uptime : UptimeInfo
  release : ReleaseInfo
  versions : Option (Map String)
  releasesAvailable : Option (Slice String)
  releaseAsked : Time
  releaseAnswered : Time
  hostname : String

/-- A router that answers for its device table and for nothing else. -/
def tableOnly (table : Map DeviceEntry) : Reads where
  devices := some table
  interfaces := none
  topology := none
  stations := fun _ _ => none
  arp := none
  incomingTraffic := none
  outgoingTraffic := none
  ipAddrs := none
  uptime := ⟨0, 0, 0, 0⟩
  release := ⟨""⟩
  versions := none
  releasesAvailable := none
  releaseAsked := 0
  releaseAnswered := 0
  hostname := ""

def Reads.fetchStations (reads : Reads) (n : Nat) (iface : String) : StationTable :=
  (reads.stations n iface).getD ∅

def Reads.fetchArp (reads : Reads) : Slice ArpEntry := reads.arp.getD none

/-- `fetchTrafficSet`: an error is an empty listing. -/
def fetchTrafficSet (reply : Option (Slice TrafficElement)) : Slice TrafficElement :=
  reply.getD none

def Reads.fetchIPAddrs (reads : Reads) : Slice IPAddr := reads.ipAddrs.getD none

/-- `fetchVersion`: the version of `superd`, or of whichever container Go ranges over first. -/
def Reads.fetchVersion (reads : Reads) : String :=
  match reads.versions with
  | none => ""
  | some versions =>
      match versions.lookup "superd" with
      | some v => v
      | none =>
          match versions.entries with
          | [] => ""
          | ⟨_, v⟩ :: _ => v

def hasWAN (dev : DeviceEntry) : Bool :=
  dev.policies.items.contains "wan" ||
    (dev.policies.items.isEmpty && dev.groups.items.contains "wan")

end SprHomeAssistant.Plugin
