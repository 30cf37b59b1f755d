import SprHomeAssistant.Integration.Polls
import SprHomeAssistant.Plugin.Snapshots

/-! The plugin and the coordinator together: which polls drop a device.

The coordinator drops what a response does not list, and reads every response as the
outcome of a completed refresh. A process that has not completed one serves a document
without devices.
-/

set_option autoImplicit false

namespace SprHomeAssistant.System
open Go Library.Runs Plugin Integration

structure World where
  process : Process
  coordinator : SprCoordinator

inductive Act where
  | plugin (action : Action)
  | restart (clock : Time)
  | poll (now considerHome : Int)
  | pollFails (now considerHome : Int) (err : PyError)

/-- The answer to `GET /ha/v1/state`. Between the answer and its use nothing else changes
the coordinator, so a poll is one step. -/
def statePoll (process : Process) (now considerHome : Int) : Poll :=
  ⟨now, considerHome, .ok (handleState process.store)⟩

def World.step (ha : HomeAssistant) (w : World) : Act → World
  | .plugin action => { w with process := Plugin.step w.process action }
  | .restart clock => { w with process := .start clock }
  | .poll now considerHome =>
      { w with coordinator := w.coordinator.poll ha (statePoll w.process now considerHome) }
  | .pollFails now considerHome err =>
      { w with coordinator := w.coordinator.poll ha ⟨now, considerHome, .error err⟩ }

def World.start (clock : Time) : World := ⟨.start clock, .initial⟩

/-- A dropped MAC is missing from a device table that the answering process has read. -/
def RemovalsJustified (t : Transition World Act) : Prop :=
  ∀ mac, mac ∈ t.before.coordinator.devices → mac ∉ t.after.coordinator.devices →
    ∃ table ∈ t.before.process.history.tablesRead, mac ∉ canonicalMACs table

/-! ## The served document -/

theorem rawDevices_handleState (s : StateStore) :
    rawDevices (handleState s) = .ok (s.snapshot.devices.items.map TrackedDevice.encode) := by
  have field : (handleState s).get "devices" = .ok (encodeDevices s.snapshot.devices) := rfl
  unfold rawDevices
  rw [field]
  cases listed : s.snapshot.devices with
  | none => rfl
  | some items => cases items <;> rfl

theorem encode_mac (td : TrackedDevice) (default : Json) :
    td.encode.getD "mac" default = .ok (.str td.mac) := rfl

theorem rawMac_encode {ha : HomeAssistant} {td : TrackedDevice} (same : ha.formatMac td.mac = td.mac)
    (named : td.mac ≠ "") (real : td.mac ≠ zeroMac) : rawMac ha td.encode = .ok (some td.mac) := by
  simp [rawMac, encode_mac, bind, Except.bind, same, named, real]

theorem statePoll_lists {ha : HomeAssistant} {process : Process} {td : TrackedDevice}
    (member : td ∈ process.store.snapshot.devices.items) (same : ha.formatMac td.mac = td.mac)
    (named : td.mac ≠ "") (real : td.mac ≠ zeroMac) (now considerHome : Int) :
    (statePoll process now considerHome).Lists ha td.mac :=
  ⟨td.encode, _, _, rfl, rawDevices_handleState process.store, List.mem_map_of_mem member,
    rawMac_encode same named real⟩

/-! ## What is in the dict and what is in the table -/

/-- `format_mac` leaves a MAC in the plugin's spelling alone. -/
def KeepsCanonical (ha : HomeAssistant) : Prop :=
  ∀ mac, isMAC mac = true → normalizeMAC mac = mac → ha.formatMac mac = mac

/-- A device that a poll drops is missing from the table behind the snapshot it was answered. -/
theorem dropped_not_canonical {ha : HomeAssistant} (keeps : KeepsCanonical ha) {process : Process}
    (sourced : Sourced process) {table : Map DeviceEntry}
    (published : process.history.publishedFrom = some table) {c : SprCoordinator}
    (tracked : TrackedOnly c.devices) {now considerHome : Int} {mac : String} (held : mac ∈ c.devices)
    (dropped : mac ∉ (c.poll ha (statePoll process now considerHome)).devices) :
    mac ∉ canonicalMACs table := by
  intro canonical
  obtain ⟨g, lastSeen, traffic, rfl, snapshot⟩ := sourced.built table published
  -- the snapshot lists the canonical MACs of its table, so the poll has met this one
  have listed : mac ∈ process.store.snapshot.devices.items.map (·.mac) := by
    rw [snapshot, snapshot_macs, List.mem_insertionSort]
    exact canonical
  obtain ⟨td, member, rfl⟩ := List.mem_map.mp listed
  have spelled : isMAC td.mac = true ∧ normalizeMAC td.mac = td.mac := by
    rw [snapshot] at member
    exact snapshot_canonical g lastSeen member
  obtain ⟨named, real⟩ := tracked _ held
  exact (poll_drops held dropped).2
    (statePoll_lists member (keeps _ spelled.1 spelled.2) named real now considerHome)

/-! ## Runs of the whole -/

structure Consistent (w : World) : Prop where
  sourced : Sourced w.process
  tracked : TrackedOnly w.coordinator.devices

theorem start_consistent (clock : Time) : Consistent (.start clock) where
  sourced := start_sourced clock
  tracked := fun mac member => absurd member (AList.notMem_empty mac)

theorem step_consistent {ha : HomeAssistant} {w : World} (consistent : Consistent w) (act : Act) :
    Consistent (w.step ha act) := by
  cases act with
  | plugin action => exact ⟨step_sourced consistent.sourced action, consistent.tracked⟩
  | restart clock => exact ⟨start_sourced clock, consistent.tracked⟩
  | poll now considerHome => exact ⟨consistent.sourced, consistent.tracked.poll _⟩
  | pollFails now considerHome err => exact ⟨consistent.sourced, consistent.tracked.poll _⟩

/-- A poll is answered by a process that has published a snapshot, or there is nothing to drop. -/
def AnsweredAfterRefresh (w : World) (act : Act) : Prop :=
  match act with
  | .poll _ _ => w.process.history.publishedFrom ≠ none ∨ w.coordinator.devices = ∅
  | _ => True

theorem step_removalsJustified {ha : HomeAssistant} (keeps : KeepsCanonical ha) {w : World}
    (consistent : Consistent w) {act : Act} (answered : AnsweredAfterRefresh w act) :
    RemovalsJustified ⟨w, act, w.step ha act⟩ := by
  intro mac held dropped
  cases act with
  | plugin action => exact absurd held dropped
  | restart clock => exact absurd held dropped
  | pollFails now considerHome err =>
      -- without a reply the dict stays as it was
      exact absurd held dropped
  | poll now considerHome =>
      rcases answered with published | empty
      · obtain ⟨table, published⟩ := Option.ne_none_iff_exists'.mp published
        refine ⟨table, consistent.sourced.read table published, ?_⟩
        exact dropped_not_canonical keeps consistent.sourced published consistent.tracked held dropped
      · change mac ∈ w.coordinator.devices at held
        rw [empty] at held
        exact absurd held (AList.notMem_empty mac)

/-- Removals are justified in every run whose polls are answered only once the answering
process has completed a refresh, or come while the coordinator knows no device. -/
theorem removals_justified (ha : HomeAssistant) (keeps : KeepsCanonical ha) (clock : Time)
    (acts : List Act)
    (answered : ∀ t ∈ transitions (World.step ha) (.start clock) acts,
      AnsweredAfterRefresh t.before t.action) :
    ∀ t ∈ transitions (World.step ha) (.start clock) acts, RemovalsJustified t := by
  intro t member
  have along : ∀ t ∈ transitions (World.step ha) (.start clock) acts,
      Consistent t.before ∧ Consistent t.after :=
    (invariant Consistent (fun _ act consistent => step_consistent consistent act)
      (start_consistent clock) acts).2
  have after := transition_after member
  have justified := step_removalsJustified keeps (along t member).1 (answered t member)
  rw [← after] at justified
  exact justified

/-! ## A restart between two polls -/

theorem hexDigit_shape {c : Char} (hex : isHexDigit c = true) : c ≠ ':' ∧ c.toLower = c := by
  have ascii : c.toNat < 128 := (isMacLetter_ascii (by simp [isMacLetter, hex])).1
  have checked := ascii_of_checked (p := fun c => !isHexDigit c || (c != ':' && c.toLower == c))
    (by decide) ascii
  simpa [hex] using checked

theorem matchPairs_shape {n : Nat} {cs : List Char} (matched : matchPairs n cs = true) :
    cs.length = 3 * n + 2 ∧ cs.count ':' = n ∧ cs.map Char.toLower = cs := by
  fun_induction matchPairs n cs with
  | case1 high low =>
      simp only [Bool.and_eq_true] at matched
      obtain ⟨colon, lower⟩ := hexDigit_shape matched.1
      obtain ⟨colon', lower'⟩ := hexDigit_shape matched.2
      simp [colon, colon', lower, lower']
  | case2 n high low rest ih =>
      simp only [Bool.and_eq_true] at matched
      obtain ⟨colon, lower⟩ := hexDigit_shape matched.1.1
      obtain ⟨colon', lower'⟩ := hexDigit_shape matched.1.2
      obtain ⟨length, count, same⟩ := ih matched.2
      have dots : (':' : Char).toLower = ':' := by decide
      simp [colon, colon', lower, lower', length, count, same, dots]
      omega
  | case3 => cases matched

theorem documented_keepsCanonical : KeepsCanonical .documented := by
  intro mac valid canonical
  rw [isMAC, canonical] at valid
  obtain ⟨length, count, lower⟩ := matchPairs_shape valid
  simp [HomeAssistant.documented, documentedFormatMac, length, count, lower]

/-- One refresh of a router with two stations, then a poll. -/
def refreshThenPoll : List Act := (oneRefresh distinctTable).map .plugin ++ [.poll 0 180000000]

/-- The router then deletes one of the stations, and both are refreshed and polled again. -/
def stationDeleted : List Act :=
  refreshThenPoll ++ (oneRefresh (AList.singleton "aa:bb:cc:dd:ee:01" (plainEntry ""))).map .plugin ++
    [.poll 10000000 180000000]

theorem removals_justified_twoPolls :
    (transitions (World.step .documented) (.start 0) stationDeleted).Forall RemovalsJustified ∧
      "aa:bb:cc:dd:ee:02" ∈ (run (World.step .documented) (.start 0) refreshThenPoll).coordinator.devices ∧
      "aa:bb:cc:dd:ee:02" ∉ (run (World.step .documented) (.start 0) stationDeleted).coordinator.devices := by
  refine ⟨?_, by decide +kernel, by decide +kernel⟩
  rw [List.forall_iff_forall_mem]
  apply removals_justified .documented documented_keepsCanonical 0
  intro t member
  simp only [stationDeleted, refreshThenPoll, oneRefresh, List.map_cons, List.map_nil, List.cons_append,
    List.nil_append, transitions, List.mem_cons, List.not_mem_nil, or_false] at member
  -- both polls come after a publication
  rcases member with rfl | rfl | rfl | rfl | rfl | rfl | rfl | rfl | rfl | rfl
  · trivial
  · trivial
  · trivial
  · trivial
  · exact Or.inl (Option.ne_none_iff_exists'.mpr ⟨_, rfl⟩)
  · trivial
  · trivial
  · trivial
  · trivial
  · exact Or.inl (Option.ne_none_iff_exists'.mpr ⟨_, rfl⟩)

/-- The plugin restarts between two polls: the second one comes before its first refresh and
drops both stations. -/
theorem restart_drops_devices : ¬ ∀ (ha : HomeAssistant), KeepsCanonical ha →
    ∀ (clock : Time) (acts : List Act), ∀ t ∈ transitions (World.step ha) (.start clock) acts,
      RemovalsJustified t := by
  intro all
  have justified := all .documented documented_keepsCanonical 0
    ((refreshThenPoll ++ [.restart 5]) ++ [.poll 10000000 180000000]) _ (last_mem_transitions _ _ _)
  obtain ⟨table, read, _⟩ := justified "aa:bb:cc:dd:ee:02"
    (AList.lookup_isSome.mp (by rfl)) (fun held => absurd (AList.lookup_isSome.mpr held) (by decide))
  cases read

end SprHomeAssistant.System
