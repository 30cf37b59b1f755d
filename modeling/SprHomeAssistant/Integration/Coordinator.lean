import SprHomeAssistant.Go.Values
import SprHomeAssistant.Integration.Client

/-! One poll of the coordinator.

The device dict is changed in place, entry by entry: an exception in the middle leaves
the entries before it applied. What Home Assistant's helpers compute comes from outside.
-/

set_option autoImplicit false

namespace SprHomeAssistant.Integration
open Go

/-- Microseconds since the epoch. -/
abbrev Instant := Int

/-- The helpers taken from Home Assistant. -/
structure HomeAssistant where
  formatMac : String → String
  utcFromTimestamp : Json → Except PyError Instant

/-- `format_mac` as Home Assistant documents it: the colon, dash, dot and plain forms of a MAC
become the lower-case colon form, anything else stays. -/
def documentedFormatMac (mac : String) : String :=
  let cs := mac.toList
  let lower := cs.map Char.toLower
  if cs.length = 17 ∧ cs.count ':' = 5 then String.ofList lower
  else
    let plain :=
      if cs.length = 17 ∧ cs.count '-' = 5 then lower.filter (· ≠ '-')
      else if cs.length = 14 ∧ cs.count '.' = 2 then lower.filter (· ≠ '.')
      else lower
    match plain with
    | [a, b, c, d, e, f, g, h, i, j, k, l] =>
        String.ofList [a, b, ':', c, d, ':', e, f, ':', g, h, ':', i, j, ':', k, l]
    | _ => mac

/-- The helpers on MACs in ASCII and on whole seconds between the years 1 and 9999. -/
def HomeAssistant.documented : HomeAssistant where
  formatMac := documentedFormatMac
  utcFromTimestamp
    | .int seconds =>
        if -62135596800 ≤ seconds ∧ seconds < 253402300800 then .ok (seconds * 1000000)
        else .error (.valueError "year is out of range")
    | _ => .error .typeError

structure SprDevice where
  mac : String
  name : Json
  ip : Json
  groups : Json
  tags : Json
  connected : Bool
  wired : Bool
  iface : Json
  signal : Json
  lastSeen : Option Instant
  rxBytes : Json
  txBytes : Json
  blocked : Bool
  guest : Bool
  rawConnected : Bool
  deriving DecidableEq

def SprDevice.make (mac : String) : SprDevice where
  mac := mac
  name := .str ""
  ip := .str ""
  groups := .arr []
  tags := .arr []
  connected := false
  wired := false
  iface := .str ""
  signal := .int 0
  lastSeen := none
  rxBytes := .int 0
  txBytes := .int 0
  blocked := false
  guest := false
  rawConnected := false

def zeroMac : String := "00:00:00:00:00:00"

/-- `raw_dev.get(key)` for an entry already known to be a dict. -/
def rawField (rawDev : Json) (key : String) : Json :=
  match rawDev with
  | .obj fields => (fields.lookup key).getD .null
  | _ => .null

/-- The MAC an entry is kept under; none for an entry that is passed over. -/
def rawMac (ha : HomeAssistant) (rawDev : Json) : Except PyError (Option String) := do
  match ← rawDev.getD "mac" (.str "") with
  | .str text =>
      let mac := ha.formatMac text
      if mac = "" || mac = zeroMac then .ok none else .ok (some mac)
  -- the helper caches its results, so a value without a hash is refused like one without a length
  | _ => .error .typeError

def SprDevice.describe (device : SprDevice) (rawDev : Json) : SprDevice :=
  { device with
    name := (rawField rawDev "name").orElse device.name
    ip := (rawField rawDev "ip").orElse device.ip
    groups := (rawField rawDev "groups").orElse (.arr [])
    tags := (rawField rawDev "tags").orElse (.arr [])
    wired := (rawField rawDev "wired").truthy
    iface := (rawField rawDev "iface").orElse (.str "")
    signal := (rawField rawDev "signal").orElse (.int 0)
    rxBytes := (rawField rawDev "rx_bytes").orElse (.int 0)
    txBytes := (rawField rawDev "tx_bytes").orElse (.int 0)
    blocked := (rawField rawDev "blocked").truthy
    guest := (rawField rawDev "guest").truthy
    rawConnected := (rawField rawDev "connected").truthy }

def laterSighting (held : Option Instant) (reported : Instant) : Option Instant :=
  match held with
  | none => some reported
  | some held => if held < reported then some reported else some held

def sightedAt (ha : HomeAssistant) (now : Instant) (device : SprDevice) (rawDev : Json) :
    Except PyError (Option Instant) :=
  if device.rawConnected then .ok (some now)
  else if (rawField rawDev "last_seen").truthy then do
    -- the router's clock, compared with whichever clock gave the stored sighting
    let reported ← ha.utcFromTimestamp (rawField rawDev "last_seen")
    .ok (laterSighting device.lastSeen reported)
  else .ok device.lastSeen

def inGrace (now considerHome : Int) (lastSeen : Option Instant) : Bool :=
  match lastSeen with
  | none => false
  | some seen => now - seen < considerHome

def SprDevice.settle (device : SprDevice) (now considerHome : Int) (lastSeen : Option Instant) :
    SprDevice :=
  { device with
    lastSeen := lastSeen
    connected := device.rawConnected || inGrace now considerHome lastSeen }

/-- `_devices` and the locals of the device loop. -/
structure Polling where
  devices : Map SprDevice
  newMacs : List String
  seenMacs : List String

def Polling.device (acc : Polling) (mac : String) : SprDevice :=
  (acc.devices.lookup mac).getD (.make mac)

def Polling.put (acc : Polling) (mac : String) (device : SprDevice) : Polling where
  devices := acc.devices.insert mac device
  newMacs := if (acc.devices.lookup mac).isNone then acc.newMacs ++ [mac] else acc.newMacs
  seenMacs := acc.seenMacs ++ [mac]

/-- One turn of the device loop, and the exception that ends it. -/
def pollEntry (ha : HomeAssistant) (now considerHome : Int) (acc : Polling) (rawDev : Json) :
    Polling × Option PyError :=
  match rawMac ha rawDev with
  | .error err => (acc, some err)
  | .ok none => (acc, none)
  | .ok (some mac) =>
      let device := (acc.device mac).describe rawDev
      match sightedAt ha now device rawDev with
      -- the device was changed in place before the exception
      | .error err => (acc.put mac device, some err)
      | .ok lastSeen => (acc.put mac (device.settle now considerHome lastSeen), none)

def pollEntries (ha : HomeAssistant) (now considerHome : Int) (acc : Polling) :
    List Json → Polling × Option PyError
  | [] => (acc, none)
  | rawDev :: rest =>
      match pollEntry ha now considerHome acc rawDev with
      | (acc, some err) => (acc, some err)
      | (acc, none) => pollEntries ha now considerHome acc rest

def dropUnseen (devices : Map SprDevice) (seenMacs : List String) : Map SprDevice :=
  devices.keys.foldl (fun kept mac => if mac ∈ seenMacs then kept else kept.erase mac) devices

/-- `raw.get("devices") or []`, as the loop iterates it. -/
def rawDevices (raw : Json) : Except PyError (List Json) := do
  let devices ← raw.get "devices"
  (devices.orElse (.arr [])).iterate

/-- `SprData` without its devices, which are the coordinator's own dict. -/
structure SprData where
  router : Json
  traffic : Json
  deriving DecidableEq

structure SprCoordinator where
  devices : Map SprDevice
  data : Option SprData

def SprCoordinator.initial : SprCoordinator := ⟨∅, none⟩

/-- One poll: the time read after the reply, the option, and the outcome of `get_state`. -/
structure Poll where
  now : Instant
  considerHome : Int
  reply : Except PyError Json

/-- How the client's exceptions leave the coordinator. -/
def updateError : PyError → PyError
  | .sprAuthError _ => .configEntryAuthFailed
  | .sprApiError message => .updateFailed message
  | err => err

/-- What a poll leaves: the device dict, the data or the exception, and the MACs dispatched
to the platforms. -/
structure Updated where
  devices : Map SprDevice
  result : Except PyError SprData
  dispatched : Option (List String)

def asyncUpdateData (ha : HomeAssistant) (c : SprCoordinator) (poll : Poll) : Updated :=
  match poll.reply with
  | .error err => ⟨c.devices, .error (updateError err), none⟩
  | .ok raw =>
      match rawDevices raw with
      | .error err => ⟨c.devices, .error err, none⟩
      | .ok entries =>
          match pollEntries ha poll.now poll.considerHome ⟨c.devices, [], []⟩ entries with
          -- an exception in the loop skips the removals as well
          | (acc, some err) => ⟨acc.devices, .error err, none⟩
          | (acc, none) =>
              { devices := dropUnseen acc.devices acc.seenMacs
                result := .ok
                  ⟨(rawField raw "router").orElse (.obj []), (rawField raw "traffic").orElse (.obj [])⟩
                -- the platforms add the first poll's devices themselves
                dispatched := if acc.newMacs ≠ [] ∧ c.data.isSome then some acc.newMacs else none }

/-- A refresh of the coordinator: the data of a failed update is kept. -/
def SprCoordinator.poll (ha : HomeAssistant) (c : SprCoordinator) (poll : Poll) : SprCoordinator :=
  let updated := asyncUpdateData ha c poll
  { devices := updated.devices
    data := match updated.result with
      | .ok data => some data
      | .error _ => c.data }

def pollSucceeds (ha : HomeAssistant) (c : SprCoordinator) (poll : Poll) : Bool :=
  (asyncUpdateData ha c poll).result.isOk

end SprHomeAssistant.Integration
