import SprHomeAssistant.Go.Ranges
import SprHomeAssistant.Plugin.Merge

/-! A refresh under the orders in which Go goes through its maps.

Three loops of a refresh write to a map that they also read. Their turns commute, because
no two of them write under one MAC; what else they collect is sorted or counted.
-/

set_option autoImplicit false

namespace SprHomeAssistant.Plugin
open Go

/-! ## The refresh in given orders -/

structure Orders where
  devices : RangeOrder DeviceEntry
  /-- The loop over the answer to the `n`-th request for a station list. -/
  stations : Nat → RangeOrder (Map String)
  lastSeen : RangeOrder Int
  sightings : RangeOrder Int
  /-- `sort.Slice`, which is not stable. -/
  sort : List TrackedDevice → List TrackedDevice
  sort_perm : ∀ tracked, (sort tracked).Perm tracked
  sorted : ∀ tracked, (sort tracked).Pairwise fun a b => a.mac ≤ b.mac

def collectStationsIn (o : Orders) (reads : Reads) : Map StationInfo :=
  (stationNames reads.interfaceList).zipIdx.foldl
    (fun stations (name, n) =>
      ((o.stations n).range (reads.fetchStations n name)).foldl (addStation name) stations) ∅

def collectPresenceIn (o : Orders) (reads : Reads) (wanIface : String) : Presence :=
  match fetchTopologyPresence reads.topology with
  | some topo => .topology topo
  | none => .merged (collectStationsIn o reads) (collectArp reads wanIface)

def gatherIn (o : Orders) (now : Time) (devices : Map DeviceEntry) (reads : Reads)
    (version latest : String) : Gathered :=
  let g := gatherFrom now devices reads latest
  { g with presence := collectPresenceIn o reads g.wanIface, version := version }

def trackDevicesIn (o : Orders) (g : Gathered) (lastSeen : Map Int) : Tracking :=
  (o.devices.range g.devices).foldl (trackEntry g) ⟨[], 0, lastSeen⟩

def publishIn (o : Orders) (g : Gathered) (tracking : Tracking) (s : StateStore) : StateStore :=
  let snap := { buildSnapshot g tracking with devices := some (o.sort tracking.tracked) }
  { publish g tracking s with
    snapshot := { snap with traffic := applyRates g s snap.traffic }
    lastSeen := (o.sightings.range tracking.lastSeen).foldl mergeSighting s.lastSeen }

/-- What a refresh leaves once it holds its answers and its copy of the sightings. -/
def finishIn (o : Orders) (g : Gathered) (lastSeen : Map Int) (s : StateStore) (check : VersionCheck) :
    Refreshed :=
  let tracking := trackDevicesIn o g lastSeen
  ⟨publishIn o g tracking s, check,
    (o.sort tracking.tracked).filterMap (transitionEvent (copyState s).prevConnected)⟩

/-- `refreshState` with the version that it resolves. -/
def refreshIn (o : Orders) (version : String) (now : Time) (reads : Reads) (s : StateStore)
    (check : VersionCheck) : Refreshed :=
  match reads.devices with
  | none => ⟨s, check, []⟩
  | some devices =>
      let release := latestAvailableVersion version check reads.releaseAsked reads.releaseAnswered
        reads.releasesAvailable
      finishIn o (gatherIn o now devices reads version release.1) (o.lastSeen.copy s.lastSeen) s release.2

/-- Nothing that is read of two refreshes tells them apart. -/
structure SameRefresh (a b : Refreshed) : Prop where
  snapshot : a.store.snapshot = b.store.snapshot
  lastSeen : SameMap a.store.lastSeen b.store.lastSeen
  prevWANRx : a.store.prevWANRx = b.store.prevWANRx
  prevWANTx : a.store.prevWANTx = b.store.prevWANTx
  prevTrafficAt : a.store.prevTrafficAt = b.store.prevTrafficAt
  check : a.check = b.check
  events : a.events = b.events

/-! ## The station lists -/

/-- No two keys of one list are the same station. -/
def StationsApart (reads : Reads) : Prop :=
  ∀ n name, ((reads.fetchStations n name).keys.map normalizeMAC).Nodup

def seeStation (name : String) (v : String → Option StationInfo) (entry : (_ : String) × Map String) :
    String → Option StationInfo :=
  if isMAC (normalizeMAC entry.1) then
    Function.update v (normalizeMAC entry.1) (some (stationInfo name entry.2))
  else v

theorem view_addStation (name : String) (m : Map StationInfo) (entry : (_ : String) × Map String) :
    Map.view (addStation name m entry) = seeStation name (Map.view m) entry := by
  cases valid : isMAC (normalizeMAC entry.1) <;> simp [addStation, seeStation, valid, view_insert]

theorem seeStation_commute {name : String} {x y : (_ : String) × Map String}
    (apart : normalizeMAC x.1 ≠ normalizeMAC y.1) (v : String → Option StationInfo) :
    seeStation name (seeStation name v x) y = seeStation name (seeStation name v y) x := by
  by_cases first : isMAC (normalizeMAC x.1) = true
  · by_cases second : isMAC (normalizeMAC y.1) = true
    · simp only [seeStation, first, second, if_true]
      exact Function.update_comm apart _ _ v
    · simp only [seeStation, first, second, if_true, if_false, Bool.false_eq_true]
  · simp only [seeStation, first, if_false, Bool.false_eq_true]

theorem sameMap_stationList {reads : Reads} (apart : StationsApart reads) (o o' : Orders) (name : String)
    (n : Nat) {m m' : Map StationInfo} (same : Map.view m = Map.view m') :
    Map.view (((o.stations n).range (reads.fetchStations n name)).foldl (addStation name) m) =
      Map.view (((o'.stations n).range (reads.fetchStations n name)).foldl (addStation name) m') := by
  refine view_foldl_perm (view_addStation name) ((o.stations n).perm_range (o'.stations n) (.refl _))
    (fun x first y second differ v => seeStation_commute (fun equal => differ ?_) v) same
  -- entries with one image have one key, and the list has each key once
  have distinct : ((reads.fetchStations n name).entries.map (normalizeMAC ∘ Sigma.fst)).Nodup := by
    simpa [AList.keys, List.keys] using apart n name
  exact List.inj_on_of_nodup_map distinct (RangeOrder.mem_range.mp first) (RangeOrder.mem_range.mp second)
    equal

theorem collectStationsIn_same {reads : Reads} (apart : StationsApart reads) (o o' : Orders) :
    SameMap (collectStationsIn o reads) (collectStationsIn o' reads) := by
  have lists : ∀ (asked : List (String × Nat)) (m m' : Map StationInfo), Map.view m = Map.view m' →
      Map.view (asked.foldl (fun stations (name, n) =>
        ((o.stations n).range (reads.fetchStations n name)).foldl (addStation name) stations) m) =
      Map.view (asked.foldl (fun stations (name, n) =>
        ((o'.stations n).range (reads.fetchStations n name)).foldl (addStation name) stations) m') := by
    intro asked
    induction asked with
    | nil => exact fun _ _ same => same
    | cons first rest ih => exact fun _ _ same => ih _ _ (sameMap_stationList apart o o' first.1 first.2 same)
  exact sameMap_iff.mpr (lists _ ∅ ∅ rfl)

theorem applyPresence_same {reads : Reads} (apart : StationsApart reads) (o o' : Orders) (wanIface : String)
    (td : TrackedDevice) :
    applyPresence (collectPresenceIn o reads wanIface) td =
      applyPresence (collectPresenceIn o' reads wanIface) td := by
  unfold collectPresenceIn
  cases fetchTopologyPresence reads.topology with
  | some topo => rfl
  | none => simp only [applyPresence, collectStationsIn_same apart o o' td.mac]

/-! ## The devices -/

/-- What can be told of the device loop's locals but for the order of the devices. -/
structure TrackingView where
  tracked : Multiset TrackedDevice
  connectedCount : Nat
  lastSeen : String → Option Int

def Tracking.view (acc : Tracking) : TrackingView := ⟨acc.tracked, acc.connectedCount, Map.view acc.lastSeen⟩

def sight (now : Time) (td : TrackedDevice) (v : String → Option Int) : String → Option Int :=
  if td.connected then Function.update v td.mac (some (unix now)) else v

def seeDevice (now : Time) (v : TrackingView) (td : TrackedDevice) : TrackingView where
  tracked := { td with lastSeen := (sight now td v.lastSeen td.mac).getD 0 } ::ₘ v.tracked
  connectedCount := if td.connected then v.connectedCount + 1 else v.connectedCount
  lastSeen := sight now td v.lastSeen

def seeNamed (g : Gathered) (v : TrackingView) (dev : DeviceEntry) : Option String → TrackingView
  | none => v
  | some mac => seeDevice g.now v (mergeDevice g mac dev)

def seeEntry (g : Gathered) (v : TrackingView) (entry : (_ : String) × DeviceEntry) : TrackingView :=
  seeNamed g v entry.2 (canonicalMAC entry)

theorem view_add (now : Time) (acc : Tracking) (td : TrackedDevice) :
    (acc.add now td).view = seeDevice now acc.view td := by
  have seen : Map.view (if td.connected then acc.lastSeen.insert td.mac (unix now) else acc.lastSeen) =
      sight now td (Map.view acc.lastSeen) := by
    unfold sight
    cases td.connected with
    | false => rfl
    | true => exact view_insert _ _ _
  simp only [Tracking.view, Tracking.add, seeDevice, ← seen, Map.get, Map.view]
  congr 1
  rw [← Multiset.coe_add, add_comm]
  rfl

theorem view_trackEntry (g : Gathered) (acc : Tracking) (entry : (_ : String) × DeviceEntry) :
    (trackEntry g acc entry).view = seeEntry g acc.view entry := by
  unfold seeEntry
  obtain ⟨skipped, same⟩ | ⟨mac, kept, added⟩ := trackEntry_cases g acc entry
  · rw [skipped, same]
    rfl
  · rw [kept, added]
    exact view_add g.now acc _

theorem sight_other {now : Time} {td : TrackedDevice} {v : String → Option Int} {mac : String}
    (apart : mac ≠ td.mac) : sight now td v mac = v mac := by
  unfold sight
  split
  · exact Function.update_of_ne apart _ _
  · rfl

theorem sight_commute {now : Time} {a b : TrackedDevice} (apart : a.mac ≠ b.mac) (v : String → Option Int) :
    sight now b (sight now a v) = sight now a (sight now b v) := by
  unfold sight
  cases a.connected <;> cases b.connected
  · rfl
  · rfl
  · rfl
  · exact Function.update_comm apart _ _ v

theorem sight_self {now : Time} {a b : TrackedDevice} (apart : a.mac ≠ b.mac) (v : String → Option Int) :
    sight now b (sight now a v) b.mac = sight now b v b.mac := by
  rw [sight_commute apart, sight_other (Ne.symm apart)]

theorem seeDevice_commute {now : Time} {a b : TrackedDevice} (apart : a.mac ≠ b.mac) (v : TrackingView) :
    seeDevice now (seeDevice now v a) b = seeDevice now (seeDevice now v b) a := by
  simp only [seeDevice, sight_self apart, sight_self (Ne.symm apart), sight_commute apart, TrackingView.mk.injEq,
    and_true]
  refine ⟨Multiset.cons_swap _ _ _, ?_⟩
  cases a.connected <;> cases b.connected <;> rfl

/-- Different entries of the table are different stations. -/
theorem canonicalMAC_apart {table : Map DeviceEntry} (distinct : (canonicalMACs table).Nodup)
    {x y : (_ : String) × DeviceEntry} (first : x ∈ table.entries) (second : y ∈ table.entries) (differ : x ≠ y)
    {mac mac' : String} (one : canonicalMAC x = some mac) (other : canonicalMAC y = some mac') : mac ≠ mac' := by
  have symmetric : Std.Symm fun x y : (_ : String) × DeviceEntry =>
      ∀ a, canonicalMAC x = some a → ∀ b, canonicalMAC y = some b → a ≠ b :=
    ⟨fun _ _ apart b other a one same => apart a one b other same.symm⟩
  exact (List.pairwise_filterMap.mp distinct).forall first second differ mac one mac' other

theorem seeNamed_commute {g : Gathered} {one other : Option String}
    (apart : ∀ mac ∈ one, ∀ mac' ∈ other, mac ≠ mac') (dev dev' : DeviceEntry) (v : TrackingView) :
    seeNamed g (seeNamed g v dev one) dev' other = seeNamed g (seeNamed g v dev' other) dev one := by
  cases one with
  | none => rfl
  | some mac =>
      cases other with
      | none => rfl
      | some mac' =>
          have named : mac ≠ mac' := apart mac rfl mac' rfl
          exact seeDevice_commute (by simpa only [mergeDevice_mac] using named) v

theorem seeEntry_commute {g : Gathered} (distinct : (canonicalMACs g.devices).Nodup)
    {x y : (_ : String) × DeviceEntry} (first : x ∈ g.devices.entries) (second : y ∈ g.devices.entries)
    (differ : x ≠ y) (v : TrackingView) : seeEntry g (seeEntry g v x) y = seeEntry g (seeEntry g v y) x :=
  seeNamed_commute
    (fun _ one _ other => canonicalMAC_apart distinct first second differ one other) x.2 y.2 v

/-- The device loop in two orders: the devices are the same, and so are the sightings. -/
theorem trackDevicesIn_same {g g' : Gathered} (o o' : Orders) (devices : g.devices = g'.devices)
    (turns : trackEntry g = trackEntry g') (distinct : (canonicalMACs g.devices).Nodup)
    {lastSeen lastSeen' : Map Int} (same : SameMap lastSeen lastSeen') :
    (trackDevicesIn o g lastSeen).view = (trackDevicesIn o' g' lastSeen').view := by
  unfold trackDevicesIn
  rw [← turns, ← devices]
  refine view_foldl_perm (view_trackEntry g) (o.devices.perm_range o'.devices (.refl _))
    (fun x first y second differ v => ?_) ?_
  · exact seeEntry_commute distinct (RangeOrder.mem_range.mp first) (RangeOrder.mem_range.mp second) differ v
  · rw [Tracking.view, Tracking.view, sameMap_iff.mp same]

theorem trackDevicesIn_macs (o : Orders) (g : Gathered) (lastSeen : Map Int) :
    ((trackDevicesIn o g lastSeen).tracked.map (·.mac)).Perm (canonicalMACs g.devices) := by
  have none : Tracks [] ⟨[], 0, lastSeen⟩ := ⟨rfl, rfl⟩
  have tracks := none.foldl g (o.devices.range g.devices)
  rw [trackDevicesIn, tracks.macs, List.nil_append]
  exact (o.devices.perm g.devices).filterMap canonicalMAC

/-! ## The swap -/

def seeSighting (v : String → Option Int) (entry : (_ : String) × Int) : String → Option Int :=
  if entry.2 > (v entry.1).getD 0 then Function.update v entry.1 (some entry.2) else v

theorem view_mergeSighting (seen : Map Int) (entry : (_ : String) × Int) :
    Map.view (mergeSighting seen entry) = seeSighting (Map.view seen) entry := by
  have read : (Map.view seen entry.1).getD 0 = seen.get entry.1 0 := rfl
  unfold mergeSighting seeSighting
  rw [read]
  split
  · exact view_insert seen _ _
  · rfl

theorem seeSighting_other {v : String → Option Int} {entry : (_ : String) × Int} {mac : String}
    (apart : mac ≠ entry.1) : seeSighting v entry mac = v mac := by
  unfold seeSighting
  split
  · exact Function.update_of_ne apart _ _
  · rfl

theorem seeSighting_commute {x y : (_ : String) × Int} (apart : x.1 ≠ y.1) (v : String → Option Int) :
    seeSighting (seeSighting v x) y = seeSighting (seeSighting v y) x := by
  have first : seeSighting v x y.1 = v y.1 := seeSighting_other (Ne.symm apart)
  have second : seeSighting v y x.1 = v x.1 := seeSighting_other apart
  rw [seeSighting, first, seeSighting.eq_def (seeSighting v y), second]
  unfold seeSighting
  split <;> split
  · exact Function.update_comm apart _ _ v
  · rfl
  · rfl
  · rfl

theorem mergedSightings_same (o o' : Orders) {seen seen' lastSeen : Map Int} (same : SameMap seen seen') :
    SameMap ((o.sightings.range seen).foldl mergeSighting lastSeen)
      ((o'.sightings.range seen').foldl mergeSighting lastSeen) := by
  rw [sameMap_iff]
  refine view_foldl_perm view_mergeSighting (o.sightings.perm_range o'.sightings same) ?_ rfl
  exact fun x first y second differ v => seeSighting_commute (RangeOrder.key_ne first second differ) v

/-- Sorting leaves one list of stations that are all different. -/
theorem sort_same (o o' : Orders) {tracked tracked' : List TrackedDevice}
    (distinct : (tracked.map (·.mac)).Nodup) (order : tracked.Perm tracked') :
    o.sort tracked = o'.sort tracked' := by
  have between : (o.sort tracked).Perm (o'.sort tracked') :=
    ((o.sort_perm tracked).trans order).trans (o'.sort_perm tracked').symm
  have apart : ((o.sort tracked).map (·.mac)).Nodup :=
    (((o.sort_perm tracked).map _).nodup_iff).mpr distinct
  exact eq_of_sorted_perm apart between (o.sorted tracked) (o'.sorted tracked')

/-! ## The whole refresh -/

theorem gatherIn_mergeDevice {reads : Reads} (apart : StationsApart reads) (o o' : Orders) (now : Time)
    (devices : Map DeviceEntry) (version latest mac : String) (dev : DeviceEntry) :
    mergeDevice (gatherIn o now devices reads version latest) mac dev =
      mergeDevice (gatherIn o' now devices reads version latest) mac dev := by
  simp only [mergeDevice, gatherIn, applyPresence_same apart o o']

theorem gatherIn_turns {reads : Reads} (apart : StationsApart reads) (o o' : Orders) (now : Time)
    (devices : Map DeviceEntry) (version latest : String) :
    trackEntry (gatherIn o now devices reads version latest) =
      trackEntry (gatherIn o' now devices reads version latest) := by
  funext acc entry
  simp only [trackEntry, gatherIn_mergeDevice apart o o']
  rfl

/-- What the swap and the events read of the locals. -/
theorem publishIn_same {g g' : Gathered} (o o' : Orders) {tracking tracking' : Tracking} (s : StateStore)
    (rest : g' = { g with presence := g'.presence }) (sorted : o.sort tracking.tracked = o'.sort tracking'.tracked)
    (counted : tracking.connectedCount = tracking'.connectedCount) :
    (publishIn o g tracking s).snapshot = (publishIn o' g' tracking' s).snapshot := by
  rw [rest]
  simp only [publishIn, buildSnapshot, sorted, counted]
  rfl

theorem finishIn_same (o o' : Orders) {g g' : Gathered} (rest : g' = { g with presence := g'.presence })
    (turns : trackEntry g = trackEntry g') (listed : (canonicalMACs g.devices).Nodup)
    {lastSeen lastSeen' : Map Int} (same : SameMap lastSeen lastSeen') (s : StateStore) (check : VersionCheck) :
    SameRefresh (finishIn o g lastSeen s check) (finishIn o' g' lastSeen' s check) := by
  have devices : g.devices = g'.devices := by rw [rest]
  have looped := trackDevicesIn_same o o' devices turns listed same
  have macs := (trackDevicesIn_macs o g lastSeen).nodup_iff.mpr listed
  unfold finishIn
  generalize trackDevicesIn o g lastSeen = tracking at looped macs ⊢
  generalize trackDevicesIn o' g' lastSeen' = tracking' at looped ⊢
  obtain ⟨order, counted, seen⟩ := TrackingView.mk.inj looped
  have sorted := sort_same o o' macs (Multiset.coe_eq_coe.mp order)
  have totals : g.wanRxTotal = g'.wanRxTotal ∧ g.wanTxTotal = g'.wanTxTotal ∧ g.now = g'.now := by
    rw [rest]
    exact ⟨rfl, rfl, rfl⟩
  exact {
    snapshot := publishIn_same o o' s rest sorted counted
    lastSeen := mergedSightings_same o o' (sameMap_iff.mpr seen)
    prevWANRx := totals.1
    prevWANTx := totals.2.1
    prevTrafficAt := congrArg some totals.2.2
    check := rfl
    events := congrArg (List.filterMap _) sorted }

/-- Whatever the orders in which Go goes through its maps, a refresh publishes, stores and
broadcasts the same. -/
theorem refreshIn_same (o o' : Orders) (version : String) (now : Time) (reads : Reads) (s : StateStore)
    (check : VersionCheck)
    (distinct : ∀ table, reads.devices = some table → (canonicalMACs table).Nodup)
    (apart : StationsApart reads) :
    SameRefresh (refreshIn o version now reads s check) (refreshIn o' version now reads s check) := by
  unfold refreshIn
  cases readable : reads.devices with
  | none => exact ⟨rfl, .refl _, rfl, rfl, rfl, rfl, rfl⟩
  | some table =>
      have copies : SameMap (o.lastSeen.copy s.lastSeen) (o'.lastSeen.copy s.lastSeen) :=
        fun mac => (o.lastSeen.copy_same _ mac).trans (o'.lastSeen.copy_same _ mac).symm
      simp only
      generalize latestAvailableVersion version check reads.releaseAsked reads.releaseAnswered
        reads.releasesAvailable = release
      exact finishIn_same o o' rfl (gatherIn_turns apart o o' now table version _) (distinct table readable)
        copies s _

/-- The orders of insertion, which the other theorems on a refresh are about. -/
def Orders.plain : Orders where
  devices := .plain _
  stations := fun _ => .plain _
  lastSeen := .plain _
  sightings := .plain _
  sort := sortByMAC
  sort_perm := fun tracked => List.perm_insertionSort _ tracked
  sorted := fun tracked => List.pairwise_insertionSort _ tracked

def Orders.reversed : Orders where
  devices := .reversed _
  stations := fun _ => .reversed _
  lastSeen := .reversed _
  sightings := .reversed _
  sort := fun tracked => sortByMAC tracked.reverse
  sort_perm := fun tracked => (List.perm_insertionSort _ _).trans (List.reverse_perm tracked)
  sorted := fun tracked => List.pairwise_insertionSort _ tracked.reverse

theorem guestAndPrinter_apart : StationsApart guestAndPrinter := by
  intro n name
  simp only [Reads.fetchStations, guestAndPrinter]
  split <;> decide +kernel

theorem refreshIn_same_guestAndPrinter :
    SameRefresh (refreshIn .plain "1.0.0" 0 guestAndPrinter .initial .initial)
      (refreshIn .reversed "1.0.0" 0 guestAndPrinter .initial .initial) := by
  refine refreshIn_same .plain .reversed "1.0.0" 0 guestAndPrinter .initial .initial (fun table read => ?_)
    guestAndPrinter_apart
  obtain rfl := Option.some.inj read
  decide +kernel

/-! ## The order of the model -/

theorem collectPresenceIn_plain (reads : Reads) (wanIface : String) :
    collectPresenceIn .plain reads wanIface = collectPresence reads reads.interfaceList wanIface := rfl

theorem gatherIn_plain (now : Time) (devices : Map DeviceEntry) (reads : Reads) (latest : String) :
    gatherIn .plain now devices reads (resolveVersion reads) latest = gatherFrom now devices reads latest := by
  simp only [gatherIn, gatherFrom, collectPresenceIn_plain, Reads.interfaceList]

theorem finishIn_plain (g : Gathered) (lastSeen : Map Int) (s : StateStore) (check : VersionCheck) :
    finishIn .plain g lastSeen s check =
      ⟨publish g (trackDevices g lastSeen) s, check,
        transitionEvents (copyState s).prevConnected (trackDevices g lastSeen)⟩ := rfl

theorem refreshState_eq_finishIn (now : Time) {reads : Reads} {table : Map DeviceEntry}
    (readable : reads.devices = some table) (s : StateStore) (check : VersionCheck) :
    refreshState now reads s check =
      finishIn .plain (gatherIn .plain now table reads (resolveVersion reads) (checkRelease reads check).1)
        s.lastSeen s (checkRelease reads check).2 := by
  simp only [refreshState, gather, readable, gatherIn_plain, finishIn_plain]
  rfl

theorem refreshState_same (o : Orders) (now : Time) (reads : Reads) (s : StateStore) (check : VersionCheck)
    (distinct : ∀ table, reads.devices = some table → (canonicalMACs table).Nodup)
    (apart : StationsApart reads) :
    SameRefresh (refreshIn o (resolveVersion reads) now reads s check) (refreshState now reads s check) := by
  cases readable : reads.devices with
  | none =>
      simp only [refreshIn, refreshState, gather, readable]
      exact ⟨rfl, .refl _, rfl, rfl, rfl, rfl, rfl⟩
  | some table =>
      rw [refreshState_eq_finishIn now readable]
      simp only [refreshIn, readable, checkRelease]
      generalize latestAvailableVersion (resolveVersion reads) check reads.releaseAsked reads.releaseAnswered
        reads.releasesAvailable = release
      exact finishIn_same o .plain rfl (gatherIn_turns apart o .plain now table _ _) (distinct table readable)
        (o.lastSeen.copy_same s.lastSeen) s _

end SprHomeAssistant.Plugin
