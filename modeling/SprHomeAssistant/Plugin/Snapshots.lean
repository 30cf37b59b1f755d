import SprHomeAssistant.Plugin.Devices
import SprHomeAssistant.Plugin.Process

/-! The snapshots a process publishes, and the device tables they come from. -/

set_option autoImplicit false

namespace SprHomeAssistant.Plugin
open Go Library.Runs

/-- What the served snapshot owes to the device tables the process has read. -/
structure Sourced (p : Process) : Prop where
  unpublished : p.history.publishedFrom = none → p.store.snapshot = .zero
  built : ∀ table, p.history.publishedFrom = some table →
    ∃ g lastSeen traffic, g.devices = table ∧
      p.store.snapshot = { buildSnapshot g (trackDevices g lastSeen) with traffic := traffic }
  read : ∀ table, p.history.publishedFrom = some table → table ∈ p.history.tablesRead
  pending : ∀ g, p.phase = .gathered g ∨ (∃ copy, p.phase = .copied g copy) →
    g.devices ∈ p.history.tablesRead

theorem start_sourced (clock : Time) : Sourced (.start clock) where
  unpublished := fun _ => rfl
  built := by simp [Process.start]
  read := by simp [Process.start]
  pending := by simp [Process.start]

/-- A step that leaves the snapshot alone keeps its sources, if what it has gathered
so far was read. -/
theorem Sourced.of_same {p q : Process} (sourced : Sourced p)
    (snapshot : q.store.snapshot = p.store.snapshot)
    (from_ : q.history.publishedFrom = p.history.publishedFrom)
    (more : p.history.tablesRead ⊆ q.history.tablesRead)
    (pending : ∀ g, q.phase = .gathered g ∨ (∃ copy, q.phase = .copied g copy) →
      g.devices ∈ q.history.tablesRead) : Sourced q where
  unpublished := fun none => snapshot ▸ sourced.unpublished (from_ ▸ none)
  built := fun table published => snapshot ▸ sourced.built table (from_ ▸ published)
  read := fun table published => more (sourced.read table (from_ ▸ published))
  pending := pending

theorem publish_sourced {p : Process} (g : Gathered) (copy : Copied)
    (read : g.devices ∈ p.history.tablesRead) : Sourced (p.publish g copy) where
  unpublished := by simp [Process.publish]
  built := by
    intro table published
    rw [Process.publish, Option.some.injEq] at published
    exact ⟨g, copy.lastSeen, _, published, rfl⟩
  read := by
    intro table published
    rw [Process.publish, Option.some.injEq] at published
    exact published ▸ read
  pending := by simp [Process.publish]

theorem step_sourced {p : Process} (sourced : Sourced p) (action : Action) :
    Sourced (step p action) := by
  have did := stepped p action
  generalize step p action = q at did ⊢
  cases did with
  | aside handlers clock =>
      exact sourced.of_same rfl rfl (List.Subset.refl _) sourced.pending
  | marked waiting => exact sourced.of_same rfl rfl (List.Subset.refl _) sourced.pending
  | began now => exact sourced.of_same rfl rfl (List.Subset.refl _) (by simp)
  | unread reads check => exact sourced.of_same rfl rfl (List.Subset.refl _) (by simp)
  | gathered reads g check => exact sourced.of_same rfl rfl (List.subset_append_left _ _) (by simp)
  | copied gathered =>
      have read := sourced.pending _ (Or.inl gathered)
      exact sourced.of_same rfl rfl (List.Subset.refl _) (by simpa using read)
  | published copied => exact publish_sourced _ _ (sourced.pending _ (Or.inr ⟨_, copied⟩))

theorem run_sourced (clock : Time) (actions : List Action) :
    Sourced (run step (.start clock) actions) :=
  (invariant Sourced (fun _ action sourced => step_sourced sourced action) (start_sourced clock)
    actions).1

theorem lists_traffic_iff (table : Map DeviceEntry) (snap : Snapshot) (traffic : TrafficInfo) :
    Lists table { snap with traffic := traffic } ↔ Lists table snap :=
  ⟨fun lists => ⟨lists.increasing, lists.canonical, lists.complete, lists.counted⟩,
    fun lists => ⟨lists.increasing, lists.canonical, lists.complete, lists.counted⟩⟩

theorem Sourced.lists_iff {p : Process} (sourced : Sourced p) {table : Map DeviceEntry}
    (published : p.history.publishedFrom = some table) :
    Lists table p.store.snapshot ↔ (canonicalMACs table).Nodup := by
  obtain ⟨g, lastSeen, traffic, rfl, snapshot⟩ := sourced.built table published
  rw [snapshot, lists_traffic_iff, buildSnapshot_lists_iff]

/-- Whatever was interleaved, a published snapshot lists its table in strictly increasing
order, each station once and the connected ones counted, exactly when no two entries of
that table have one canonical MAC. -/
theorem published_lists_iff_distinct (clock : Time) (actions : List Action) (table : Map DeviceEntry)
    (published : (run step (.start clock) actions).history.publishedFrom = some table) :
    Lists table (run step (.start clock) actions).store.snapshot ↔ (canonicalMACs table).Nodup :=
  (run_sourced clock actions).lists_iff published

def oneRefresh (table : Map DeviceEntry) : List Action :=
  [.beginRefresh, .fetch (tableOnly table), .copyState, .publish]

def plainEntry (mac : String) : DeviceEntry := ⟨"", mac, "", "", none, none, none⟩

/-- Two stations, one named by its key and one by its MAC field. -/
def distinctTable : Map DeviceEntry :=
  (AList.singleton "aa:bb:cc:dd:ee:01" (plainEntry "")).insert "vpn" (plainEntry "AA-BB-CC-DD-EE-02")

theorem published_lists_distinctTable :
    Lists distinctTable (run step (.start 0) (oneRefresh distinctTable)).store.snapshot :=
  have published : (run step (.start 0) (oneRefresh distinctTable)).history.publishedFrom =
      some distinctTable := rfl
  (published_lists_iff_distinct 0 _ distinctTable published).mpr (by decide)

/-- One station twice: as an entry's key and as another entry's MAC field. -/
def sharedTable : Map DeviceEntry :=
  (AList.singleton "aa:bb:cc:dd:ee:01" (plainEntry "")).insert "vpn" (plainEntry "AA-BB-CC-DD-EE-01")

theorem published_lists_sharedTable_twice :
    ¬ ∀ (clock : Time) (actions : List Action) (table : Map DeviceEntry),
      (run step (.start clock) actions).history.publishedFrom = some table →
        Lists table (run step (.start clock) actions).store.snapshot := by
  intro all
  have published : (run step (.start 0) (oneRefresh sharedTable)).history.publishedFrom =
      some sharedTable := rfl
  have twice : ¬ (canonicalMACs sharedTable).Nodup := by decide +kernel
  exact twice (((run_sourced 0 _).lists_iff published).mp (all 0 _ sharedTable published))

end SprHomeAssistant.Plugin
