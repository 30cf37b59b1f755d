import SprHomeAssistant.Integration.Entities
import SprHomeAssistant.System.Evidence

/-! The plugin's process and a config entry with its platforms.

Everything that a platform hands out comes from a document of the plugin, so it has a MAC
in the plugin's spelling.
-/

set_option autoImplicit false

namespace SprHomeAssistant.System
open Go Library.Runs Plugin Integration

structure Home where
  process : Process
  loaded : Loaded

def Home.start (clock : Time) : Home := ⟨.start clock, .start⟩

inductive Deed where
  | plugin (action : Action)
  | restart (clock : Time)
  | poll (now considerHome : Int)
  | pollFails (now considerHome : Int) (err : PyError)
  | setUpDeviceTracker
  | setUpButton

/-- What a deed is to the entry, with the plugin as it is then. -/
def Home.happening (home : Home) : Deed → Option Happening
  | .plugin _ | .restart _ => none
  | .poll now considerHome => some (.poll (statePoll home.process now considerHome))
  | .pollFails now considerHome err => some (.poll ⟨now, considerHome, .error err⟩)
  | .setUpDeviceTracker => some .setUpDeviceTracker
  | .setUpButton => some .setUpButton

def Home.step (ha : HomeAssistant) (home : Home) (deed : Deed) : Home where
  process :=
    match deed with
    | .plugin action => Plugin.step home.process action
    | .restart clock => .start clock
    | _ => home.process
  loaded :=
    match home.happening deed with
    | some happening => home.loaded.step ha happening
    | none => home.loaded

/-! ## The spelling of what is handed out -/

/-- The devices and the buttons have MACs in the plugin's spelling. -/
structure Spelled (loaded : Loaded) : Prop where
  devices : ∀ mac ∈ loaded.coordinator.devices, Canonical mac
  buttons : ∀ listener ∈ loaded.button, ∀ button ∈ listener.handed, Canonical button.mac

theorem start_spelled : Spelled .start where
  devices := fun mac member => absurd member (AList.notMem_empty mac)
  buttons := by simp [Loaded.start]

theorem poll_canonical {ha : HomeAssistant} {c : SprCoordinator} {poll : Poll}
    (canonical : ∀ mac ∈ c.devices, Canonical mac) (listed : ∀ mac, poll.Lists ha mac → Canonical mac) :
    ∀ mac ∈ (c.poll ha poll).devices, Canonical mac := by
  refine @poll_preserves ha c poll (fun devices => ∀ mac ∈ devices, Canonical mac)
    (fun raw entries replied read rawDev member acc canonical => ?_)
    (fun devices seenMacs canonical mac member => canonical mac (mem_dropUnseen.mp member).2) canonical
  obtain same | ⟨mac, device, named, put⟩ := pollEntry_put ha poll.now poll.considerHome acc rawDev
  · rwa [same]
  · rw [put]
    intro other held
    rcases (AList.mem_insert _).mp held with rfl | held
    · exact listed other ⟨rawDev, raw, entries, replied, read, member, named⟩
    · exact canonical other held

/-- A call of the platform makes buttons for the MACs that it is called with. -/
theorem addWakeButtons_canonical (ha : HomeAssistant) {listener : Listener} {macs : List String}
    (earlier : ∀ button ∈ listener.handed, Canonical button.mac) (called : ∀ mac ∈ macs, Canonical mac) :
    ∀ button ∈ (addWakeButtons ha listener macs).handed, Canonical button.mac := by
  intro button handed
  rcases List.mem_append.mp handed with old | new
  · exact earlier button old
  · obtain ⟨mac, unknown, rfl⟩ := List.mem_map.mp new
    exact called mac (List.mem_filter.mp unknown).1

theorem loadedPoll_spelled {ha : HomeAssistant} {loaded : Loaded} (spelled : Spelled loaded) {poll : Poll}
    (listed : ∀ mac, poll.Lists ha mac → Canonical mac) : Spelled (loaded.poll ha poll) := by
  have canonical := poll_canonical spelled.devices listed
  refine ⟨canonical, fun listener held => ?_⟩
  simp only [Loaded.poll] at held
  split at held
  · obtain ⟨earlier, button, rfl⟩ := Option.map_eq_some_iff.mp held
    exact addWakeButtons_canonical ha (spelled.buttons earlier button) fun mac member =>
      canonical mac (AList.mem_keys.mp member)
  · exact spelled.buttons listener held

theorem loadedStep_spelled {ha : HomeAssistant} {loaded : Loaded} (spelled : Spelled loaded) {happening : Happening}
    (listed : ∀ poll, happening = .poll poll → ∀ mac, poll.Lists ha mac → Canonical mac) :
    Spelled (loaded.step ha happening) := by
  cases happening with
  | poll poll => exact loadedPoll_spelled spelled (listed poll rfl)
  | setUpDeviceTracker =>
      simp only [Loaded.step]
      split
      · exact ⟨spelled.devices, spelled.buttons⟩
      · exact spelled
  -- the platform hands out the devices that the coordinator has at its setup
  | setUpButton =>
      simp only [Loaded.step]
      split
      · refine ⟨spelled.devices, fun listener held => ?_⟩
        obtain rfl := Option.some.inj held
        exact addWakeButtons_canonical ha (by simp) fun mac member => spelled.devices mac (AList.mem_keys.mp member)
      · exact spelled

/-- What the plugin lists it has spelled. -/
theorem happening_lists {ha : HomeAssistant} (keeps : KeepsCanonical ha) {home : Home} (sourced : Sourced home.process)
    {deed : Deed} {poll : Poll} (polls : home.happening deed = some (.poll poll)) {mac : String}
    (listed : poll.Lists ha mac) : Canonical mac := by
  cases deed with
  | plugin action => cases polls
  | restart clock => cases polls
  | setUpDeviceTracker => cases polls
  | setUpButton => cases polls
  | pollFails now considerHome err =>
      cases polls
      obtain ⟨rawDev, raw, entries, replied, -⟩ := listed
      cases replied
  | poll now considerHome =>
      cases polls
      obtain ⟨rawDev, raw, entries, replied, read, member, named⟩ := listed
      obtain ⟨td, served, -, rfl⟩ := statePoll_entry keeps sourced ⟨raw, entries, replied, read, member, named⟩
      obtain ⟨valid, normal⟩ := served_canonical sourced served
      exact ⟨valid, normal⟩

theorem Home.step_spelled {ha : HomeAssistant} (keeps : KeepsCanonical ha) {home : Home} (deed : Deed)
    (kept : Sourced home.process ∧ Spelled home.loaded) :
    Sourced (home.step ha deed).process ∧ Spelled (home.step ha deed).loaded := by
  obtain ⟨sourced, spelled⟩ := kept
  constructor
  · cases deed with
    | plugin action => exact step_sourced sourced action
    | restart clock => exact start_sourced clock
    | poll _ _ | pollFails _ _ _ | setUpDeviceTracker | setUpButton => exact sourced
  · unfold Home.step
    cases happened : home.happening deed with
    | none => exact spelled
    | some happening =>
        refine loadedStep_spelled spelled fun poll same mac listed => ?_
        exact happening_lists keeps sourced (same ▸ happened) listed

theorem run_spelled {ha : HomeAssistant} (keeps : KeepsCanonical ha) (clock : Time) (deeds : List Deed) :
    Spelled (run (Home.step ha) (.start clock) deeds).loaded :=
  (invariant (fun home : Home => Sourced home.process ∧ Spelled home.loaded)
    (fun _ deed kept => Home.step_spelled keeps deed kept) ⟨start_sourced clock, start_spelled⟩ deeds).1.2

end SprHomeAssistant.System
