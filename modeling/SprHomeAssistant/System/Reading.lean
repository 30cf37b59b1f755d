import SprHomeAssistant.Plugin.Draws
import SprHomeAssistant.System.StateDocument

/-! The plugin serves nothing that the device loop cannot read.

Its MACs are in its own spelling, and its sightings lie between the start of its process and
now. So they can be represented as long as its clock is one that Home Assistant can.
-/

set_option autoImplicit false

namespace SprHomeAssistant.System
open Go Library.Runs Plugin Integration

/-- The plugin's own spelling of a MAC. -/
structure Canonical (mac : String) : Prop where
  valid : isMAC mac = true
  normal : normalizeMAC mac = mac

theorem Canonical.named {mac : String} (canonical : Canonical mac) : mac ≠ "" := by
  rintro rfl
  exact absurd canonical.valid (by decide)

/-- Home Assistant represents the times between the years 1970 and 9999. -/
def ReadsTimes (ha : HomeAssistant) : Prop :=
  ∀ s, 0 ≤ s → s < 253402300800 → ∃ instant, ha.utcFromTimestamp (.int s) = .ok instant

/-- The devices have MACs in the plugin's spelling and sightings at representable times. -/
def Readable (ha : HomeAssistant) (snap : Snapshot) : Prop :=
  ∀ td ∈ snap.devices.items, Canonical td.mac ∧ ∃ seen, ha.utcFromTimestamp (.int td.lastSeen) = .ok seen

/-! ## The turns of the loop -/

theorem rawDevices_encode (snap : Snapshot) :
    rawDevices snap.encode = .ok (snap.devices.items.map TrackedDevice.encode) :=
  rawDevices_handleState { StateStore.initial with snapshot := snap }

theorem rawMac_served {ha : HomeAssistant} (keeps : KeepsCanonical ha) {td : TrackedDevice}
    (canonical : Canonical td.mac) :
    rawMac ha td.encode = .ok (if td.mac = zeroMac then none else some td.mac) := by
  have same := keeps td.mac canonical.valid canonical.normal
  split
  next zero =>
    rw [zero] at same
    simp [rawMac, encode_mac, bind, Except.bind, same, zero]
  next real => exact rawMac_encode same canonical.named real

theorem pollEntry_served {ha : HomeAssistant} (keeps : KeepsCanonical ha) {td : TrackedDevice}
    (canonical : Canonical td.mac) (representable : ∃ seen, ha.utcFromTimestamp (.int td.lastSeen) = .ok seen)
    (now considerHome : Int) (acc : Polling) : (pollEntry ha now considerHome acc td.encode).2 = none := by
  -- the zero MAC is passed over before its sighting is read
  by_cases zero : td.mac = zeroMac
  · have skipped := rawMac_served keeps canonical
    rw [if_pos zero] at skipped
    simp only [pollEntry, skipped]
  · obtain ⟨device, -, turn⟩ :=
      pollEntry_encode keeps ⟨⟨canonical.valid, canonical.normal⟩, zero, representable⟩ now considerHome acc
    rw [turn]

theorem pollEntries_finish {ha : HomeAssistant} {now considerHome : Int} {entries : List Json}
    (passes : ∀ rawDev ∈ entries, ∀ acc, (pollEntry ha now considerHome acc rawDev).2 = none) (acc : Polling) :
    (pollEntries ha now considerHome acc entries).2 = none := by
  induction entries generalizing acc with
  | nil => rfl
  | cons rawDev rest ih =>
      obtain ⟨own, others⟩ := List.forall_mem_cons.mp passes
      have passed := own acc
      unfold pollEntries
      split
      next stopped => simp [stopped] at passed
      next next same => exact ih others next

/-- No document that is readable raises in the device loop. -/
theorem poll_readable {ha : HomeAssistant} (keeps : KeepsCanonical ha) {snap : Snapshot} (readable : Readable ha snap)
    (now considerHome : Int) (c : SprCoordinator) : pollSucceeds ha c ⟨now, considerHome, .ok snap.encode⟩ = true := by
  have finished := @pollEntries_finish ha now considerHome (snap.devices.items.map TrackedDevice.encode)
    (by
      intro rawDev member acc
      obtain ⟨td, listed, rfl⟩ := List.mem_map.mp member
      exact pollEntry_served keeps (readable td listed).1 (readable td listed).2 _ _ acc)
    ⟨c.devices, [], []⟩
  simp only [pollSucceeds, asyncUpdateData, rawDevices_encode]
  split
  next stopped => simp [stopped] at finished
  next => rfl

/-! ## The process that serves it -/

theorem served_canonical {p : Process} (sourced : Sourced p) {td : TrackedDevice}
    (member : td ∈ p.store.snapshot.devices.items) : isMAC td.mac = true ∧ normalizeMAC td.mac = td.mac := by
  cases published : p.history.publishedFrom with
  | none =>
      rw [sourced.unpublished published] at member
      simp [Snapshot.zero, Slice.items] at member
  | some table =>
      obtain ⟨g, lastSeen, traffic, -, snapshot⟩ := sourced.built table published
      rw [snapshot] at member
      exact snapshot_canonical g lastSeen member

/-- The router's clock stands between the years 1970 and 9999. -/
def ClockRepresentable (p : Process) : Prop := 0 ≤ p.clock ∧ unix p.clock < 253402300800

instance (p : Process) : Decidable (ClockRepresentable p) := inferInstanceAs (Decidable (_ ∧ _))

/-- The process has run since a start, which was not before 1970 if the clock is not. -/
def Ran (p : Process) : Prop :=
  ∃ started actions, p = run Plugin.step (.start started) actions ∧ (0 ≤ p.clock → 0 ≤ started)

theorem start_ran (clock : Time) : Ran (.start clock) := ⟨clock, [], rfl, id⟩

theorem Ran.step {p : Process} (ran : Ran p) (representable : ClockRepresentable p) (action : Action) :
    Ran (Plugin.step p action) := by
  obtain ⟨started, actions, same, early⟩ := ran
  exact ⟨started, actions ++ [action], by rw [run_concat, ← same], fun _ => early representable.1⟩

/-- No sighting that is served is before 1970, or ahead of the clock. -/
theorem served_times {p : Process} (ran : Ran p) (representable : ClockRepresentable p) {td : TrackedDevice}
    (listed : td ∈ p.store.snapshot.devices.items) : 0 ≤ td.lastSeen ∧ td.lastSeen < 253402300800 := by
  obtain ⟨started, actions, same, early⟩ := ran
  -- zero stands for never; any other sighting was sampled between the start and now
  by_cases unseen : td.lastSeen = 0
  · simp [unseen]
  · have punctual := run_punctual started actions
    have kept := (invariant (fun p => Since started p ∧ Draws (fun _ s => unix started ≤ s) p)
      (fun p action ⟨since, draws⟩ => ⟨step_since since action, step_drawsSince since draws action⟩)
      ⟨start_since started, start_draws _ started⟩ actions).1.2
    rw [← same] at punctual kept
    have nonneg : (0 : Int) ≤ unix started := unix_mono (early representable.1)
    exact ⟨nonneg.trans (kept.shown td listed unseen), (punctual.shown td listed unseen).trans_lt representable.2⟩

theorem served_readable {ha : HomeAssistant} (times : ReadsTimes ha) {p : Process} (ran : Ran p)
    (sourced : Sourced p) (representable : ClockRepresentable p) : Readable ha p.store.snapshot := by
  intro td listed
  obtain ⟨valid, normal⟩ := served_canonical sourced listed
  obtain ⟨low, high⟩ := served_times ran representable listed
  exact ⟨⟨valid, normal⟩, times td.lastSeen low high⟩

theorem documented_readsTimes : ReadsTimes .documented := by
  intro s low high
  have first : (-62135596800 : Int) ≤ s := le_trans (by decide) low
  exact ⟨s * 1000000, if_pos ⟨first, high⟩⟩

end SprHomeAssistant.System
