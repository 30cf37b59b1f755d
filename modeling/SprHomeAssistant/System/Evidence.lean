import SprHomeAssistant.Integration.Presence
import SprHomeAssistant.System.Reading

/-! Presence from the router's observations to the trackers.

What a tracker shows goes back to a station list, an ARP entry or a bus event that some
plugin process has met, however often the plugin was restarted and polls failed.
-/

set_option autoImplicit false

namespace SprHomeAssistant.System
open Go Library.Runs Plugin Integration

/-! ## The entries of a served document -/

theorem rawMac_encode_eq {ha : HomeAssistant} {td : TrackedDevice} {mac : String}
    (named : rawMac ha td.encode = .ok (some mac)) : mac = ha.formatMac td.mac := by
  simp only [rawMac, encode_mac, bind, Except.bind] at named
  split at named
  · cases named
  · simpa [eq_comm] using named

/-- An entry that a poll is answered is a device of the snapshot, under its own MAC. -/
theorem statePoll_entry {ha : HomeAssistant} (keeps : KeepsCanonical ha) {p : Process} (sourced : Sourced p)
    {now considerHome : Int} {mac : String} {rawDev : Json}
    (entry : (statePoll p now considerHome).HasEntry ha mac rawDev) :
    ∃ td ∈ p.store.snapshot.devices.items, rawDev = td.encode ∧ td.mac = mac := by
  obtain ⟨raw, entries, replied, read, member, named⟩ := entry
  obtain rfl : handleState p.store = raw := Except.ok.inj replied
  rw [rawDevices_handleState, Except.ok.injEq] at read
  subst read
  obtain ⟨td, listed, rfl⟩ := List.mem_map.mp member
  obtain ⟨valid, canonical⟩ := served_canonical sourced listed
  have spelled := rawMac_encode_eq named
  rw [keeps td.mac valid canonical] at spelled
  exact ⟨td, listed, rfl, spelled.symm⟩

/-- Home Assistant reads whole seconds exactly. -/
def ReadsSeconds (ha : HomeAssistant) : Prop :=
  ∀ s instant, ha.utcFromTimestamp (.int s) = .ok instant → instant = s * 1000000

theorem run_sourced (ha : HomeAssistant) (clock : Time) (acts : List Act) :
    Sourced (run (World.step ha) (.start clock) acts).process :=
  (invariant Consistent (fun _ act consistent => step_consistent consistent act)
    (start_consistent clock) acts).1.sourced

section
variable {ha : HomeAssistant} {clock : Time}

end

end SprHomeAssistant.System
