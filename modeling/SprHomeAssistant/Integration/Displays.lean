import SprHomeAssistant.Integration.Entities
import SprHomeAssistant.Integration.Sensors

/-! What the entities of an entry show.

Every property reads the coordinator's data anew. The entities of a device go through the
dict by their own spelling of its MAC; those of the router read one field of a section.
-/

set_option autoImplicit false

namespace SprHomeAssistant.Integration

/-- A value that Home Assistant is given; `None` is the null document. -/
inductive Shown where
  | json (value : Json)
  | time (instant : Instant)
  deriving DecidableEq

/-! ## The entities of a device -/

/-- `SprDeviceEntity.device`. -/
def Entity.device (c : SprCoordinator) (entity : Entity) : Option SprDevice := c.devices.lookup entity.macAddress

/-- `SprDeviceEntity.available`, from the one that it overrides. -/
def Entity.available (lastUpdateSuccess : Bool) (c : SprCoordinator) (entity : Entity) : Bool :=
  lastUpdateSuccess && (entity.device c).isSome

/-- `SprScannerEntity.is_connected`. -/
def Entity.isConnected (c : SprCoordinator) (entity : Entity) : Bool :=
  match entity.device c with
  | some device => device.connected
  | none => false

/-- `SprScannerEntity.ip_address`. -/
def Entity.ipAddress (c : SprCoordinator) (entity : Entity) : Json :=
  match entity.device c with
  | some device => device.ip.orElse .null
  | none => .null

/-- `SprScannerEntity.hostname`. -/
def Entity.hostname (c : SprCoordinator) (entity : Entity) : Json :=
  match entity.device c with
  | some device => device.name.orElse .null
  | none => .null

/-- `SprScannerEntity.extra_state_attributes`. -/
def Entity.extraStateAttributes (c : SprCoordinator) (entity : Entity) : List (String × Shown) :=
  match entity.device c with
  | none => []
  | some device =>
      [("wired", .json (.bool device.wired)), ("interface", .json device.iface), ("groups", .json device.groups),
        ("tags", .json device.tags), ("guest", .json (.bool device.guest))] ++
        (if device.signal.truthy then [("signal_dbm", .json device.signal)] else []) ++
        (device.lastSeen.toList.map fun seen => ("last_seen", .time seen))

/-! ## The entities of the router -/

/-- What a sensor gives at a time in seconds since the epoch. -/
structure SprSensorDescription where
  key : String
  valueFn : HomeAssistant → Rat → SprData → Except PyError Shown

def trafficSensor (key field : String) : SprSensorDescription :=
  ⟨key, fun _ _ data => Shown.json <$> data.traffic.get field⟩

def routerSensor (key field : String) : SprSensorDescription :=
  ⟨key, fun _ _ data => Shown.json <$> data.router.get field⟩

/-- `SENSORS`. -/
def sensors : List SprSensorDescription :=
  [trafficSensor "wan_download_rate" "wan_rx_rate_bps",
    trafficSensor "wan_upload_rate" "wan_tx_rate_bps",
    trafficSensor "wan_download_total" "wan_rx_bytes",
    trafficSensor "wan_upload_total" "wan_tx_bytes",
    routerSensor "connected_clients" "clients_connected",
    ⟨"wan_ip", fun _ _ data => do return .json ((← data.router.get "wan_ip").orElse .null)⟩,
    ⟨"boot_time", fun ha utcnow data => do return ((← uptimeToBootTime ha utcnow data).elim (.json .null) .time)⟩,
    routerSensor "load_1m" "load_1m",
    routerSensor "load_5m" "load_5m",
    routerSensor "load_15m" "load_15m"]

/-- `SprWanStatusSensor`: `is_on` and its attribute. -/
def wanStatus (data : SprData) : Except PyError (Bool × Json) := do
  return ((← data.router.get "wan_up").truthy, (← data.router.get "wan_iface").orElse (.str ""))

/-- `SprUpdateEntity`: the installed version, and the latest or else the installed one. -/
def updateVersions (data : SprData) : Except PyError (Json × Json) := do
  let installed := (← data.router.get "version").orElse .null
  return (installed, (← data.router.get "latest_version").orElse installed)

end SprHomeAssistant.Integration
