import SprHomeAssistant.Plugin.Draws
import SprHomeAssistant.Plugin.Subscribers

/-! What every served document is like, and in which order the documents come. -/

set_option autoImplicit false

namespace SprHomeAssistant.Plugin
open Go Library.Runs

/-! ## One document -/

/-- A device is described as present only where it is counted and sighted as present. -/
structure TrackedDevice.Coherent (timestamp : Int) (d : TrackedDevice) : Prop where
  canonical : isMAC d.mac = true ∧ normalizeMAC d.mac = d.mac
  sighted : d.connected = true → d.lastSeen = timestamp
  absent : d.connected = false → d.wired = false ∧ d.iface = "" ∧ d.signal = 0

structure Snapshot.Consistent (snap : Snapshot) : Prop where
  devices : ∀ d ∈ snap.devices.items, TrackedDevice.Coherent snap.timestamp d
  sorted : (snap.devices.items.map (·.mac)).Pairwise (· ≤ ·)
  counted : snap.router.clientsConnected = snap.devices.items.countP (·.connected)
  update : snap.router.updateAvailable = true →
    semverLess snap.router.version snap.router.latestVersion = true
  rates : 0 ≤ snap.traffic.wanRxRate ∧ 0 ≤ snap.traffic.wanTxRate

theorem zero_consistent : Snapshot.Consistent .zero where
  devices := by simp [Snapshot.zero, Slice.items]
  sorted := List.Pairwise.nil
  counted := rfl
  update := by simp [Snapshot.zero]
  rates := ⟨le_rfl, le_rfl⟩

theorem applyPresence_absent {presence : Presence} {td : TrackedDevice}
    (absent : (applyPresence presence td).connected = false) : applyPresence presence td = td := by
  cases presence with
  | topology topo =>
      simp only [applyPresence] at absent ⊢
      split
      next found =>
        simp only [found] at absent
        split
        next online => simp [online] at absent
        · rfl
      · rfl
  | merged stations arpSeen =>
      simp only [applyPresence] at absent ⊢
      split
      next found => simp [found] at absent
      next unlisted =>
        simp only [unlisted] at absent
        split
        next found => simp [found] at absent
        · rfl

theorem mergeDevice_absent {g : Gathered} {mac : String} {dev : DeviceEntry}
    (absent : (mergeDevice g mac dev).connected = false) :
    (mergeDevice g mac dev).wired = false ∧ (mergeDevice g mac dev).iface = "" ∧
      (mergeDevice g mac dev).signal = 0 := by
  obtain ⟨connected, wired, iface, signal⟩ := applyTraffic_keeps g.rxByIP g.txByIP
    (applyPresence g.presence (newDevice mac dev))
  rw [mergeDevice, connected] at absent
  rw [mergeDevice, wired, iface, signal, applyPresence_absent absent]
  exact ⟨rfl, rfl, rfl⟩

theorem add_coherent {now : Time} {acc : Tracking} {td : TrackedDevice}
    (canonical : isMAC td.mac = true ∧ normalizeMAC td.mac = td.mac)
    (absent : td.connected = false → td.wired = false ∧ td.iface = "" ∧ td.signal = 0)
    (before : ∀ d ∈ acc.tracked, TrackedDevice.Coherent (unix now) d) :
    ∀ d ∈ (acc.add now td).tracked, TrackedDevice.Coherent (unix now) d := by
  refine List.forall_mem_append.mpr ⟨before, List.forall_mem_cons.mpr ⟨?_, List.forall_mem_nil _⟩⟩
  refine ⟨canonical, fun connected => ?_, absent⟩
  simp only at connected
  simp [connected, Map.get]

theorem trackDevices_coherent (g : Gathered) (lastSeen : Map Int) :
    ∀ d ∈ (trackDevices g lastSeen).tracked, TrackedDevice.Coherent (unix g.now) d := by
  refine List.foldlRecOn (motive := fun acc : Tracking => ∀ d ∈ acc.tracked, TrackedDevice.Coherent (unix g.now) d) _ _
    (List.forall_mem_nil _) ?_
  intro acc before entry _
  obtain ⟨_, skipped⟩ | ⟨mac, canonical, added⟩ := trackEntry_cases g acc entry
  · rwa [skipped]
  · rw [added]
    have valid := canonicalMAC_canonical canonical
    exact add_coherent (by simpa using valid) mergeDevice_absent before

theorem applyRates_nonneg (g : Gathered) (s : StateStore) {traffic : TrafficInfo}
    (before : 0 ≤ traffic.wanRxRate ∧ 0 ≤ traffic.wanTxRate) :
    0 ≤ (applyRates g s traffic).wanRxRate ∧ 0 ≤ (applyRates g s traffic).wanTxRate := by
  unfold applyRates
  split
  · exact before
  next earlier _ =>
    by_cases later : 0 < secondsBetween g.now earlier
    · dsimp only
      split
      · constructor <;> positivity
      · exact before
    · simpa [later] using before

theorem publish_consistent (g : Gathered) (lastSeen : Map Int) (s : StateStore) :
    Snapshot.Consistent (publish g (trackDevices g lastSeen) s).snapshot where
  devices := fun d member => trackDevices_coherent g lastSeen d ((List.mem_insertionSort _).mp member)
  sorted := by
    have macs := snapshot_macs g lastSeen
    exact macs ▸ List.pairwise_insertionSort (· ≤ ·) (canonicalMACs g.devices)
  counted := by
    have order : (sortByMAC (trackDevices g lastSeen).tracked).Perm (trackDevices g lastSeen).tracked :=
      List.perm_insertionSort _ _
    exact (trackDevices_tracks g lastSeen).counted.trans (order.countP_eq _).symm
  update := by
    intro available
    simp only [publish, buildSnapshot, Bool.and_eq_true] at available
    exact available.2
  rates := applyRates_nonneg g s ⟨le_rfl, le_rfl⟩

/-! ## All documents -/

/-- The documents after the empty one that a process starts with. -/
def Service.documents (s : Service) : List Snapshot := s.snapshots.tail

structure Service.Chronicles (s : Service) : Prop where
  started : s.snapshots ≠ []
  past : s.process.began ≤ s.process.clock
  consistent : ∀ snap ∈ s.snapshots, Snapshot.Consistent snap
  ordered : s.documents.Pairwise fun earlier later => earlier.timestamp ≤ later.timestamp
  earlier : ∀ snap ∈ s.documents, snap.timestamp ≤ unix s.process.began

theorem start_chronicles (clock : Time) : (Service.start clock).Chronicles where
  started := by simp [Service.start]
  past := le_rfl
  consistent := by simpa [Service.start] using zero_consistent
  ordered := List.Pairwise.nil
  earlier := List.forall_mem_nil _

/-- A step of the process that publishes nothing. -/
theorem Service.Chronicles.aside {s : Service} (chronicles : s.Chronicles) (action : Plugin.Action)
    {next : Service} (process : next.process = Plugin.step s.process action)
    (snapshots : next.snapshots = s.snapshots) : next.Chronicles := by
  obtain ⟨later, past⟩ := step_began chronicles.past action
  refine ⟨snapshots ▸ chronicles.started, process ▸ past, snapshots ▸ chronicles.consistent, ?_, ?_⟩
  · rw [Service.documents, snapshots]
    exact chronicles.ordered
  · rw [Service.documents, snapshots, process]
    exact fun snap member => (chronicles.earlier snap member).trans (unix_mono later)

/-- A step that leaves the process alone. -/
theorem Service.Chronicles.beside {s : Service} (chronicles : s.Chronicles) {next : Service}
    (process : next.process = s.process) (snapshots : next.snapshots = s.snapshots) : next.Chronicles := by
  refine ⟨snapshots ▸ chronicles.started, process ▸ chronicles.past, snapshots ▸ chronicles.consistent, ?_, ?_⟩
  · rw [Service.documents, snapshots]
    exact chronicles.ordered
  · rw [Service.documents, snapshots, process]
    exact chronicles.earlier

theorem Service.Chronicles.publish {s : Service} (chronicles : s.Chronicles) {g : Gathered} {copy : Copied}
    (copied : s.process.phase = .copied g copy) {next : Service}
    (process : next.process = Plugin.step s.process .publish)
    (snapshots : next.snapshots = s.snapshots ++ [(Plugin.step s.process .publish).store.snapshot]) :
    next.Chronicles := by
  obtain ⟨later, past⟩ := step_began chronicles.past .publish
  have made : (Plugin.step s.process .publish).store.snapshot =
      (Plugin.publish g (trackDevices g copy.lastSeen) s.process.store).snapshot := by
    simp [Plugin.step, copied, Process.publish]
  have began : s.process.began = g.now := by rw [Process.began, copied]; rfl
  have documents : next.documents = s.documents ++ [(Plugin.step s.process .publish).store.snapshot] := by
    rw [Service.documents, snapshots, List.tail_append_of_ne_nil chronicles.started]
    rfl
  -- a document is stamped with the time when its refresh began, and refreshes begin in order
  have stamped : (Plugin.step s.process .publish).store.snapshot.timestamp = unix s.process.began := by
    rw [made, began]
    rfl
  refine ⟨by simp [snapshots], process ▸ past, ?_, ?_, ?_⟩
  · rw [snapshots, List.forall_mem_append, List.forall_mem_singleton, made]
    exact ⟨chronicles.consistent, publish_consistent g copy.lastSeen s.process.store⟩
  · rw [documents]
    refine List.pairwise_append.mpr ⟨chronicles.ordered, List.pairwise_singleton _ _, fun earlier member new last => ?_⟩
    obtain rfl := List.mem_singleton.mp last
    rw [stamped]
    exact chronicles.earlier earlier member
  · rw [documents, List.forall_mem_append, List.forall_mem_singleton, process, stamped]
    exact ⟨fun snap member => (chronicles.earlier snap member).trans (unix_mono later), unix_mono later⟩

theorem Service.step_chronicles (config : Config) {s : Service} (chronicles : s.Chronicles)
    (action : Service.Action) : (Service.step config s action).Chronicles := by
  have did := Service.moved config s action
  generalize Service.step config s action = next at did ⊢
  cases did with
  | still => exact chronicles
  | passed elapsed => exact chronicles.aside (.tick elapsed) rfl rfl
  | sampled topic mac => exact chronicles.aside (.handleBusEvent topic mac) rfl rfl
  | marked handler => exact chronicles.aside (.markSeen handler) rfl rfl
  | began eventDriven due => exact chronicles.aside .beginRefresh rfl rfl
  | fetched reads => exact chronicles.aside (.fetch reads) rfl rfl
  | copied => exact chronicles.aside .copyState rfl rfl
  | published copied => exact chronicles.publish copied rfl rfl
  | _ => exact chronicles.beside rfl rfl

/-- Every document that the plugin serves in any run is consistent in itself, and no document
is older than one before it, as the clock does not go back. -/
theorem run_chronicles (config : Config) (clock : Time) (actions : List Service.Action) :
    (run (Service.step config) (.start clock) actions).Chronicles :=
  (invariant Service.Chronicles (fun _ action chronicles => Service.step_chronicles config chronicles action)
    (start_chronicles clock) actions).1

end SprHomeAssistant.Plugin
