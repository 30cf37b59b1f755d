import SprHomeAssistant.Integration.Polls

/-! The entities that the two device platforms hand to Home Assistant.

Each platform keeps its own set of MACs and never takes one out. It adds what is new when
it is set up and whenever a poll announces new devices. The announcement comes before the
poll's data is installed, but the dict that the platforms iterate is the poll's own.
-/

set_option autoImplicit false

namespace SprHomeAssistant.Integration
open Go Library.Runs

/-- `SprDeviceEntity`: the MAC it was made for, and its `_mac`. -/
structure Entity where
  mac : String
  macAddress : String
  deriving DecidableEq

def Entity.make (ha : HomeAssistant) (mac : String) : Entity := ⟨mac, ha.formatMac mac⟩

/-- A platform after its setup: its set of MACs, and what it gave to `async_add_entities`. -/
structure Listener where
  known : List String
  handed : List Entity

def Listener.add (ha : HomeAssistant) (key : Entity → String) (listener : Listener) (macs : List String) :
    Listener :=
  let new := (macs.filter (· ∉ listener.known)).map (Entity.make ha)
  { known := listener.known ++ new.map key
    handed := listener.handed ++ new }

/-- `add_new_devices` of `device_tracker`. -/
def addNewDevices (ha : HomeAssistant) : Listener → List String → Listener :=
  Listener.add ha Entity.macAddress

/-- `add_wake_buttons` of `button`. -/
def addWakeButtons (ha : HomeAssistant) : Listener → List String → Listener :=
  Listener.add ha Entity.mac

/-- An entry that is being set up or is loaded; a platform is `none` until it is set up. -/
structure Loaded where
  coordinator : SprCoordinator
  deviceTracker : Option Listener
  button : Option Listener

def Loaded.start : Loaded := ⟨.initial, none, none⟩

inductive Happening where
  | poll (poll : Poll)
  | setUpDeviceTracker
  | setUpButton

/-- `async_dispatcher_send`, to the platforms that are connected. -/
def Loaded.dispatch (ha : HomeAssistant) (loaded : Loaded) (devices : Map SprDevice) : Loaded :=
  { loaded with
    deviceTracker := loaded.deviceTracker.map (addNewDevices ha · devices.keys)
    button := loaded.button.map (addWakeButtons ha · devices.keys) }

def Loaded.poll (ha : HomeAssistant) (loaded : Loaded) (poll : Poll) : Loaded :=
  let updated := asyncUpdateData ha loaded.coordinator poll
  let announced := if updated.dispatched.isSome then loaded.dispatch ha updated.devices else loaded
  { announced with coordinator := loaded.coordinator.poll ha poll }

/-- The platforms are set up once, after the first refresh has succeeded. -/
def Loaded.step (ha : HomeAssistant) (loaded : Loaded) : Happening → Loaded
  | .poll poll => loaded.poll ha poll
  | .setUpDeviceTracker =>
      match loaded.coordinator.data, loaded.deviceTracker with
      | some _, none =>
          { loaded with deviceTracker := some (addNewDevices ha ⟨[], []⟩ loaded.coordinator.devices.keys) }
      | _, _ => loaded
  | .setUpButton =>
      match loaded.coordinator.data, loaded.button with
      | some _, none =>
          { loaded with button := some (addWakeButtons ha ⟨[], []⟩ loaded.coordinator.devices.keys) }
      | _, _ => loaded

/-! ## One entity for each device -/

/-- No MAC was handed out twice, and each device's MAC was handed out. -/
structure OneEach (key : Entity → String) (devices : Map SprDevice) (listener : Listener) : Prop where
  distinct : (listener.handed.map key).Nodup
  complete : ∀ mac ∈ devices, (listener.handed.map key).count mac = 1

/-- A poll succeeds, or it fails before it touches a device. -/
def CleanPoll (ha : HomeAssistant) (loaded : Loaded) (happening : Happening) : Prop :=
  match happening with
  | .poll poll => pollSucceeds ha loaded.coordinator poll = true ∨ ∃ err, poll.reply = .error err
  | _ => True

/-- `format_mac` leaves the MACs alone under which a response's devices are kept. -/
def FormatsOnce (ha : HomeAssistant) (happenings : List Happening) : Prop :=
  ∀ poll, .poll poll ∈ happenings → ∀ mac, poll.Lists ha mac → ha.formatMac mac = mac

structure Covers (key : Entity → String) (devices : Map SprDevice) (listener : Listener) : Prop where
  known : listener.known = listener.handed.map key
  distinct : listener.known.Nodup
  complete : ∀ mac ∈ devices, mac ∈ listener.known

theorem Covers.oneEach {key : Entity → String} {devices : Map SprDevice} {listener : Listener}
    (covers : Covers key devices listener) : OneEach key devices listener where
  distinct := covers.known ▸ covers.distinct
  complete := fun mac member =>
    covers.known ▸ List.count_eq_one_of_mem covers.distinct (covers.complete mac member)

/-- Whatever a platform had handed out, one call covers the dict it is called with. -/
theorem add_covers {ha : HomeAssistant} {key : Entity → String} {devices : Map SprDevice}
    {listener : Listener} (known : listener.known = listener.handed.map key)
    (distinct : listener.known.Nodup) (named : ∀ mac ∈ devices, key (.make ha mac) = mac) :
    Covers key devices (listener.add ha key devices.keys) := by
  have new : ((devices.keys.filter (· ∉ listener.known)).map (Entity.make ha)).map key =
      devices.keys.filter (· ∉ listener.known) := by
    have same : ∀ mac ∈ devices.keys.filter (· ∉ listener.known), (key ∘ Entity.make ha) mac = id mac :=
      fun mac member => named mac (AList.mem_keys.mpr (List.mem_filter.mp member).1)
    rw [List.map_map, List.map_congr_left same, List.map_id]
  refine ⟨?_, ?_, fun mac member => ?_⟩
  · simp only [Listener.add, List.map_append, known]
  · simp only [Listener.add, new]
    refine distinct.append (devices.keys_nodup.filter _) fun mac held added => ?_
    simpa [held] using (List.mem_filter.mp added).2
  · simp only [Listener.add, new, List.mem_append, List.mem_filter, decide_eq_true_eq]
    by_cases held : mac ∈ listener.known
    · exact Or.inl held
    · exact Or.inr ⟨AList.mem_keys.mp member, held⟩

theorem Covers.add {ha : HomeAssistant} {key : Entity → String} {before devices : Map SprDevice}
    {listener : Listener} (covers : Covers key before listener)
    (named : ∀ mac ∈ devices, key (.make ha mac) = mac) :
    Covers key devices (listener.add ha key devices.keys) :=
  add_covers covers.known covers.distinct named

theorem Covers.mono {key : Entity → String} {before after : Map SprDevice} {listener : Listener}
    (covers : Covers key before listener) (fewer : ∀ mac ∈ after, mac ∈ before) :
    Covers key after listener :=
  ⟨covers.known, covers.distinct, fun mac member => covers.complete mac (fewer mac member)⟩

/-- Both platforms cover the coordinator's devices, which have MACs in one spelling. -/
structure Covered (ha : HomeAssistant) (loaded : Loaded) : Prop where
  formatted : ∀ mac ∈ loaded.coordinator.devices, ha.formatMac mac = mac
  deviceTracker : ∀ listener ∈ loaded.deviceTracker,
    Covers Entity.macAddress loaded.coordinator.devices listener
  button : ∀ listener ∈ loaded.button, Covers Entity.mac loaded.coordinator.devices listener
  waits : loaded.coordinator.data = none → loaded.deviceTracker = none ∧ loaded.button = none

theorem start_covered (ha : HomeAssistant) : Covered ha .start where
  formatted := fun mac member => absurd member (AList.notMem_empty mac)
  deviceTracker := by simp [Loaded.start]
  button := by simp [Loaded.start]
  waits := fun _ => ⟨rfl, rfl⟩

/-- A poll announces its new devices, or it has none to announce, or no platform is set up. -/
theorem poll_announces {ha : HomeAssistant} {c : SprCoordinator} {poll : Poll}
    (succeeds : pollSucceeds ha c poll = true) :
    (asyncUpdateData ha c poll).devices = (c.poll ha poll).devices ∧
      ((asyncUpdateData ha c poll).dispatched.isSome = true ∨ c.data = none ∨
        ∀ mac ∈ (c.poll ha poll).devices, mac ∈ c.devices) := by
  refine ⟨rfl, ?_⟩
  obtain ⟨raw, entries, final, replied, read, looped, devices⟩ := pollSucceeds_cases succeeds
  cases held : c.data with
  | none => exact Or.inr (Or.inl rfl)
  | some data =>
      by_cases new : final.newMacs = []
      · right; right
        intro mac member
        rw [devices, mem_dropUnseen] at member
        have known := pollEntries_newMacs looped mac member.2
        rw [new] at known
        exact known.resolve_right List.not_mem_nil
      · left
        simp [asyncUpdateData, replied, read, looped, new, held]

theorem poll_formatted {ha : HomeAssistant} {c : SprCoordinator} {poll : Poll}
    (formatted : ∀ mac ∈ c.devices, ha.formatMac mac = mac)
    (listed : ∀ mac, poll.Lists ha mac → ha.formatMac mac = mac) :
    ∀ mac ∈ (c.poll ha poll).devices, ha.formatMac mac = mac := by
  refine poll_preserves (P := fun devices => ∀ mac ∈ devices, ha.formatMac mac = mac)
    (fun raw entries replied read rawDev member acc formatted => ?_)
    (fun devices seenMacs formatted mac member => formatted mac (mem_dropUnseen.mp member).2) formatted
  obtain same | ⟨mac, device, named, put⟩ := pollEntry_put ha poll.now poll.considerHome acc rawDev
  · rwa [same]
  · rw [put]
    intro other held
    rcases (AList.mem_insert _).mp held with rfl | held
    · exact listed other ⟨rawDev, raw, entries, replied, read, member, named⟩
    · exact formatted other held

/-- A call of a platform for the devices that a poll leaves. -/
theorem dispatch_covered {ha : HomeAssistant} {loaded : Loaded} (covered : Covered ha loaded)
    {devices : Map SprDevice} (formatted : ∀ mac ∈ devices, ha.formatMac mac = mac) :
    (∀ listener ∈ (loaded.dispatch ha devices).deviceTracker, Covers Entity.macAddress devices listener) ∧
      ∀ listener ∈ (loaded.dispatch ha devices).button, Covers Entity.mac devices listener := by
  constructor
  · intro listener held
    obtain ⟨earlier, tracker, rfl⟩ := Option.map_eq_some_iff.mp held
    exact (covered.deviceTracker earlier tracker).add formatted
  · intro listener held
    obtain ⟨earlier, button, rfl⟩ := Option.map_eq_some_iff.mp held
    exact (covered.button earlier button).add fun mac _ => rfl

theorem poll_data {ha : HomeAssistant} {c : SprCoordinator} {poll : Poll}
    (missing : (c.poll ha poll).data = none) : c.data = none := by
  cases result : (asyncUpdateData ha c poll).result with
  | ok data => simp [SprCoordinator.poll, result] at missing
  | error err => simpa [SprCoordinator.poll, result] using missing

theorem poll_covered {ha : HomeAssistant} {loaded : Loaded} (covered : Covered ha loaded) {poll : Poll}
    (clean : CleanPoll ha loaded (.poll poll))
    (listed : ∀ mac, poll.Lists ha mac → ha.formatMac mac = mac) : Covered ha (loaded.poll ha poll) := by
  have formatted := poll_formatted covered.formatted listed
  by_cases announced : (asyncUpdateData ha loaded.coordinator poll).dispatched.isSome = true
  · obtain ⟨deviceTracker, button⟩ := dispatch_covered covered formatted
    have called : loaded.poll ha poll =
        { loaded.dispatch ha (loaded.coordinator.poll ha poll).devices with
          coordinator := loaded.coordinator.poll ha poll } := by
      simp only [Loaded.poll, if_pos announced]
      rfl
    rw [called]
    refine ⟨formatted, deviceTracker, button, fun missing => ?_⟩
    obtain ⟨noTracker, noButton⟩ := covered.waits (poll_data missing)
    exact ⟨by simp [Loaded.dispatch, noTracker], by simp [Loaded.dispatch, noButton]⟩
  · have same : loaded.poll ha poll = { loaded with coordinator := loaded.coordinator.poll ha poll } := by
      simp only [Loaded.poll, if_neg announced]
    have fewer : loaded.coordinator.data = none ∨
        ∀ mac ∈ (loaded.coordinator.poll ha poll).devices, mac ∈ loaded.coordinator.devices := by
      rcases clean with succeeds | ⟨err, failed⟩
      · exact (poll_announces succeeds).2.resolve_left announced
      · right
        simp [SprCoordinator.poll, asyncUpdateData, failed]
    rw [same]
    refine ⟨formatted, fun listener held => ?_, fun listener held => ?_, fun missing => ?_⟩
    · rcases fewer with waiting | fewer
      · simp [(covered.waits waiting).1] at held
      · exact (covered.deviceTracker listener held).mono fewer
    · rcases fewer with waiting | fewer
      · simp [(covered.waits waiting).2] at held
      · exact (covered.button listener held).mono fewer
    · exact covered.waits (poll_data missing)

theorem step_covered {ha : HomeAssistant} {loaded : Loaded} (covered : Covered ha loaded)
    {happening : Happening} (clean : CleanPoll ha loaded happening)
    (listed : ∀ poll, happening = .poll poll → ∀ mac, poll.Lists ha mac → ha.formatMac mac = mac) :
    Covered ha (loaded.step ha happening) := by
  cases happening with
  | poll poll => exact poll_covered covered clean (listed poll rfl)
  | setUpDeviceTracker =>
      simp only [Loaded.step]
      split
      next data absent fetched unset =>
        refine ⟨covered.formatted, fun listener held => ?_, covered.button, fun missing => ?_⟩
        · obtain rfl := Option.some.inj held
          exact add_covers rfl List.nodup_nil covered.formatted
        · cases fetched.symm.trans missing
      next => exact covered
  | setUpButton =>
      simp only [Loaded.step]
      split
      next data absent fetched unset =>
        refine ⟨covered.formatted, covered.deviceTracker, fun listener held => ?_, fun missing => ?_⟩
        · obtain rfl := Option.some.inj held
          exact add_covers rfl List.nodup_nil fun mac _ => rfl
        · cases fetched.symm.trans missing
      next => exact covered

theorem FormatsOnce.of_idempotent {ha : HomeAssistant} (happenings : List Happening)
    (idempotent : ∀ text, ha.formatMac (ha.formatMac text) = ha.formatMac text) :
    FormatsOnce ha happenings := by
  intro poll _ mac ⟨rawDev, raw, entries, _, _, _, named⟩
  obtain ⟨⟨text, rfl⟩, _⟩ := rawMac_cases named
  exact idempotent text

end SprHomeAssistant.Integration
