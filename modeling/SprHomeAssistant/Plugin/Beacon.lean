import SprHomeAssistant.Plugin.Draws
import SprHomeAssistant.Plugin.Subscribers
import SprHomeAssistant.Plugin.Uplinks

/-! The discovery beacon beside the rest of the plugin.

`advertiseMDNS` waits for a document that names the uplink, but not for ever. Then it
registers again and again, each time away from the uplink of a document that it reads anew.
-/

set_option autoImplicit false

namespace SprHomeAssistant.Plugin.Beacon
open Go Library.Runs Library.Refinement

def minute : Time := 60 * second

/-- How many seconds the beacon waits for an uplink. -/
def patience : Nat := 10

inductive Position where
  | starting
  | returned
  /-- At the condition of the loop that waits. -/
  | waiting (i : Nat)
  | sleeping (i : Nat) (wake : Time)
  | selecting
  /-- The uplink of a document is known, and the interfaces are not yet. -/
  | listing (wanIface : String) (served : Nat)
  | registering (wanIface : String) (served : Nat) (ifaces : List NetInterface)
  | registered (wake : Time)
  | failed (wake : Time)

/-- A call of `zeroconf.Register`, with the number of documents that were served when the one
was read whose uplink it stays away from. -/
structure Registration where
  time : Time
  wanIface : String
  served : Nat
  ifaces : List NetInterface
  succeeded : Bool

structure Advertiser where
  service : Service
  position : Position
  /-- The interfaces of each server that is not shut down. -/
  live : List (List NetInterface)
  /-- No step reads it. -/
  log : List Registration

def Advertiser.start (clock : Time) : Advertiser := ⟨.start clock, .starting, [], []⟩

inductive Action where
  | service (action : Service.Action)
  /-- The next statement, with what `net.Interfaces` answers and how a registration ends. -/
  | advance (all : Option (List NetInterface)) (registers : Bool)

def Advertiser.clock (s : Advertiser) : Time := s.service.process.clock

def Advertiser.wanIface (s : Advertiser) : String := s.service.process.store.get.router.wanIface

def Advertiser.register (s : Advertiser) (wanIface : String) (served : Nat) (ifaces : List NetInterface)
    (succeeds : Bool) : Advertiser :=
  { s with
    position := if succeeds then .registered (s.clock + hour) else .failed (s.clock + minute)
    live := if succeeds then s.live ++ [ifaces] else s.live
    log := s.log ++ [⟨s.clock, wanIface, served, ifaces, succeeds⟩] }

/-- `advertiseMDNS`. A sleep ends at its time or later. -/
def Advertiser.advance (config : Config) (s : Advertiser) (all : Option (List NetInterface)) (registers : Bool) :
    Advertiser :=
  match s.position with
  | .starting => { s with position := if config.mdnsDisabled then .returned else .waiting 0 }
  | .returned => s
  | .waiting i =>
      if i < patience ∧ s.wanIface = "" then { s with position := .sleeping i (s.clock + second) }
      else { s with position := .selecting }
  | .sleeping i wake => if wake ≤ s.clock then { s with position := .waiting (i + 1) } else s
  | .selecting => { s with position := .listing s.wanIface s.service.snapshots.length }
  | .listing wanIface served => { s with position := .registering wanIface served (lanInterfaces all wanIface) }
  | .registering wanIface served ifaces => s.register wanIface served ifaces registers
  | .registered wake =>
      if wake ≤ s.clock then { s with position := .selecting, live := s.live.dropLast } else s
  | .failed wake => if wake ≤ s.clock then { s with position := .selecting } else s

def step (config : Config) (s : Advertiser) : Action → Advertiser
  | .service action => { s with service := Service.step config s.service action }
  | .advance all registers => s.advance config all registers

/-! ## What the beacon shows -/

def Registration.pause (r : Registration) : Time := if r.succeeded then hour else minute

/-- The last of the first documents names the uplink. -/
def Names (snapshots : List Snapshot) (served : Nat) (wanIface : String) : Prop :=
  (snapshots[served - 1]?).map (·.router.wanIface) = some wanIface

/-- The uplink that a registration stays away from is that of the document read for it, and
the rest of its interfaces can carry multicast to the LAN. -/
structure Faces (snapshots : List Snapshot) (r : Registration) : Prop where
  served : Names snapshots r.served r.wanIface
  lan : ∀ iface ∈ r.ifaces,
    iface.name ≠ r.wanIface ∧ iface.up = true ∧ iface.multicast = true ∧ iface.loopback = false

/-- Some document named an uplink, or the wait is over. -/
def Patient (origin : Time) (snapshots : List Snapshot) (time : Time) : Prop :=
  (∃ snapshot ∈ snapshots, snapshot.router.wanIface ≠ "") ∨ origin + patience * second ≤ time

structure Advertises (config : Config) (origin : Time) (s : Advertiser) : Prop where
  disabled : config.mdnsDisabled = true → s.log = []
  single : s.live.length ≤ 1
  faces : ∀ r ∈ s.log, Faces s.service.snapshots r
  patient : ∀ r ∈ s.log, Patient origin (s.service.snapshots.take r.served) r.time
  spaced : s.log.Pairwise fun first second => first.time + first.pause ≤ second.time

/-! ## The service beside it -/

theorem step_clock (config : Config) (s : Service) (action : Service.Action) :
    s.process.clock ≤ (Service.step config s action).process.clock := by
  obtain ⟨moves, same⟩ := Service.refines_process config s action
  rw [same]
  refine Reached.holds (motive := fun p : Process => s.process.clock ≤ p.clock) ?_ le_rfl ⟨moves, rfl⟩
  intro p action earlier
  exact earlier.trans (Plugin.step_clock p action)

theorem step_snapshots (config : Config) (s : Service) (action : Service.Action) :
    s.snapshots <+: (Service.step config s action).snapshots := by
  have did := Service.moved config s action
  generalize Service.step config s action = next at did ⊢
  cases did with
  | published copied => exact List.prefix_append _ _
  | _ => exact List.prefix_refl _

theorem Names.later {snapshots later : List Snapshot} {served : Nat} {wanIface : String}
    (names : Names snapshots served wanIface) (grown : snapshots <+: later) : Names later served wanIface := by
  obtain ⟨snapshot, held, named⟩ := Option.map_eq_some_iff.mp names
  obtain ⟨more, rfl⟩ := grown
  rw [Names, List.getElem?_append_left (List.getElem?_eq_some_iff.mp held).1, held, Option.map_some, named]

theorem Patient.later {origin time after : Time} {snapshots later : List Snapshot}
    (patient : Patient origin snapshots time) (grown : snapshots <+: later) (passed : time ≤ after) :
    Patient origin later after := by
  rcases patient with ⟨snapshot, member, named⟩ | waited
  · exact Or.inl ⟨snapshot, grown.subset member, named⟩
  · exact Or.inr (waited.trans passed)

/-! ## Every run -/

def Rested (log : List Registration) (time : Time) : Prop := ∀ r ∈ log, r.time + r.pause ≤ time

/-- What holds where the beacon stands. -/
inductive Place (config : Config) (origin : Time) (s : Advertiser) : Position → Prop where
  | starting (live : s.live = []) (log : s.log = []) (started : origin ≤ s.clock) : Place config origin s .starting
  | returned (live : s.live = []) (log : s.log = []) : Place config origin s .returned
  | waiting {i : Nat} (enabled : config.mdnsDisabled = false) (live : s.live = []) (log : s.log = [])
      (waited : origin + i * second ≤ s.clock) : Place config origin s (.waiting i)
  | sleeping {i : Nat} {wake : Time} (enabled : config.mdnsDisabled = false) (live : s.live = [])
      (log : s.log = []) (waits : origin + (i + 1) * second ≤ wake) : Place config origin s (.sleeping i wake)
  | selecting (enabled : config.mdnsDisabled = false) (live : s.live = [])
      (patient : Patient origin s.service.snapshots s.clock) (rested : Rested s.log s.clock) :
      Place config origin s .selecting
  | listing {wanIface : String} {served : Nat} (enabled : config.mdnsDisabled = false) (live : s.live = [])
      (patient : Patient origin (s.service.snapshots.take served) s.clock) (rested : Rested s.log s.clock)
      (names : Names s.service.snapshots served wanIface) : Place config origin s (.listing wanIface served)
  | registering {wanIface : String} {served : Nat} {ifaces : List NetInterface}
      (enabled : config.mdnsDisabled = false) (live : s.live = [])
      (patient : Patient origin (s.service.snapshots.take served) s.clock) (rested : Rested s.log s.clock)
      (names : Names s.service.snapshots served wanIface)
      (lan : ∀ iface ∈ ifaces,
        iface.name ≠ wanIface ∧ iface.up = true ∧ iface.multicast = true ∧ iface.loopback = false) :
      Place config origin s (.registering wanIface served ifaces)
  | registered {wake : Time} (enabled : config.mdnsDisabled = false) (live : s.live.length = 1)
      (patient : Patient origin s.service.snapshots s.clock) (rested : Rested s.log wake) :
      Place config origin s (.registered wake)
  | failed {wake : Time} (enabled : config.mdnsDisabled = false) (live : s.live = [])
      (patient : Patient origin s.service.snapshots s.clock) (rested : Rested s.log wake) :
      Place config origin s (.failed wake)

structure Inv (config : Config) (origin : Time) (s : Advertiser) : Prop where
  advertises : Advertises config origin s
  calls : s.service.Calls
  sends : s.service.Sends
  place : Place config origin s s.position

theorem start_inv (config : Config) (origin : Time) : Inv config origin (.start origin) where
  advertises := ⟨fun _ => rfl, Nat.zero_le _, by simp [Advertiser.start], by simp [Advertiser.start],
    List.Pairwise.nil⟩
  calls := Service.start_calls origin
  sends := start_sends origin
  place := .starting rfl rfl le_rfl

section
variable {config : Config} {origin : Time} {s : Advertiser}

/-- Documents and time only make what holds of the beacon truer. -/
theorem Place.later {position : Position} (place : Place config origin s position) {service : Service}
    (grown : s.service.snapshots <+: service.snapshots) (passed : s.clock ≤ service.process.clock) :
    Place config origin { s with service := service } position := by
  cases place with
  | starting live log started => exact .starting live log (started.trans passed)
  | returned live log => exact .returned live log
  | waiting enabled live log waited => exact .waiting enabled live log (waited.trans passed)
  | sleeping enabled live log waits => exact .sleeping enabled live log waits
  | selecting enabled live patient rested =>
      exact .selecting enabled live (patient.later grown passed) fun r member => (rested r member).trans passed
  | listing enabled live patient rested names =>
      exact .listing enabled live (patient.later (grown.take _) passed)
        (fun r member => (rested r member).trans passed) (names.later grown)
  | registering enabled live patient rested names lan =>
      exact .registering enabled live (patient.later (grown.take _) passed)
        (fun r member => (rested r member).trans passed) (names.later grown) lan
  | registered enabled live patient rested =>
      exact .registered enabled live (patient.later grown passed) rested
  | failed enabled live patient rested => exact .failed enabled live (patient.later grown passed) rested

theorem Inv.service (inv : Inv config origin s) (action : Service.Action) :
    Inv config origin { s with service := Service.step config s.service action } := by
  have grown := step_snapshots config s.service action
  refine ⟨?_, Service.step_calls config inv.calls action, Service.step_sends config inv.calls inv.sends action,
    inv.place.later grown (step_clock config s.service action)⟩
  obtain ⟨disabled, single, faces, patient, spaced⟩ := inv.advertises
  exact ⟨disabled, single, fun r member => ⟨(faces r member).served.later grown, (faces r member).lan⟩,
    fun r member => (patient r member).later (grown.take _) le_rfl, spaced⟩

/-- A step of the beacon that calls `zeroconf.Register` or not. -/
theorem Inv.move (inv : Inv config origin s) {position : Position} {live : List (List NetInterface)}
    (single : live.length ≤ 1)
    (place : Place config origin { s with position := position, live := live } position) :
    Inv config origin { s with position := position, live := live } := by
  obtain ⟨disabled, -, faces, patient, spaced⟩ := inv.advertises
  exact ⟨⟨disabled, single, faces, patient, spaced⟩, inv.calls, inv.sends, place⟩

/-- The document that is served is the last one of those served so far. -/
theorem names_served (sends : s.service.Sends) :
    Names s.service.snapshots s.service.snapshots.length s.wanIface := by
  rw [Names, ← List.getLast?_eq_getElem?, sends.served]
  rfl

theorem lanInterfaces_lan {all : Option (List NetInterface)} {wanIface : String} {iface : NetInterface}
    (listed : iface ∈ lanInterfaces all wanIface) :
    iface.name ≠ wanIface ∧ iface.up = true ∧ iface.multicast = true ∧ iface.loopback = false := by
  have passed := (List.mem_filter.mp listed).2
  simp only [Bool.and_eq_true, Bool.not_eq_true', decide_eq_true_eq] at passed
  obtain ⟨⟨⟨up, multicast⟩, loopback⟩, apart⟩ := passed
  exact ⟨apart, up, multicast, loopback⟩

theorem patient_of_named (sends : s.service.Sends) (named : s.wanIface ≠ "") :
    Patient origin s.service.snapshots s.clock :=
  Or.inl ⟨_, List.mem_of_getLast? sends.served, named⟩

theorem Rested.concat {log : List Registration} {time : Time} (rested : Rested log time) {r : Registration}
    (now : r.time = time) {wake : Time} (later : wake = time + r.pause) : Rested (log ++ [r]) wake := by
  have long : 0 ≤ r.pause := by
    unfold Registration.pause
    split <;> decide
  refine List.forall_mem_append.mpr ⟨fun earlier member => ?_, List.forall_mem_cons.mpr ⟨?_, List.forall_mem_nil _⟩⟩
  · have before := rested earlier member
    rw [later]
    exact before.trans (Int.le_add_of_nonneg_right long)
  · rw [later, now]

theorem Inv.register (inv : Inv config origin s) {wanIface : String} {served : Nat} {ifaces : List NetInterface}
    (position : s.position = .registering wanIface served ifaces) (succeeds : Bool) :
    Inv config origin (s.register wanIface served ifaces succeeds) := by
  have place := inv.place
  rw [position] at place
  cases place with
  | registering enabled live waited rested names lan =>
      obtain ⟨disabled, -, faced, patient, spaced⟩ := inv.advertises
      have whole := waited.later (List.take_prefix served _) le_rfl
      refine ⟨⟨?_, ?_, ?_, ?_, ?_⟩, inv.calls, inv.sends, ?_⟩
      · simp [enabled]
      -- no server was live, so at most the new one is
      · cases succeeds <;> simp [Advertiser.register, live]
      · exact List.forall_mem_append.mpr ⟨faced, List.forall_mem_cons.mpr ⟨⟨names, lan⟩, List.forall_mem_nil _⟩⟩
      · exact List.forall_mem_append.mpr ⟨patient, List.forall_mem_cons.mpr ⟨waited, List.forall_mem_nil _⟩⟩
      · refine List.pairwise_append.mpr ⟨spaced, List.pairwise_singleton _ _, fun first member second new => ?_⟩
        obtain rfl := List.mem_singleton.mp new
        exact rested first member
      · cases succeeds with
        | true => exact .registered enabled (by simp [Advertiser.register, live]) whole (rested.concat rfl rfl)
        | false => exact .failed enabled live whole (rested.concat rfl rfl)

theorem waited_patience {time : Time} {i : Nat} (waited : origin + i * second ≤ time) (ended : ¬ i < patience) :
    origin + patience * second ≤ time := by
  have waits : (patience : Int) ≤ i := by exact_mod_cast not_lt.mp ended
  have seconds : (patience : Int) * second ≤ i * second := mul_le_mul_of_nonneg_right waits (by decide)
  exact (Int.add_le_add_left seconds origin).trans waited

/-! One statement at a time. -/

theorem Inv.starts (inv : Inv config origin s) (position : s.position = .starting) :
    Inv config origin { s with position := if config.mdnsDisabled then .returned else .waiting 0 } := by
  have place := inv.place
  rw [position] at place
  cases place with
  | starting live log started =>
      refine inv.move inv.advertises.single ?_
      split
      · exact .returned live log
      next enabled =>
        have waited : origin + (0 : Nat) * second ≤ s.clock := by simpa using started
        exact .waiting (Bool.eq_false_iff.mpr enabled) live log waited

theorem Inv.sleeps (inv : Inv config origin s) {i : Nat} (position : s.position = .waiting i) :
    Inv config origin { s with position := .sleeping i (s.clock + second) } := by
  have place := inv.place
  rw [position] at place
  cases place with
  | waiting enabled live log waited =>
      refine inv.move inv.advertises.single (.sleeping enabled live log ?_)
      have next : origin + (i + 1) * second = origin + i * second + second := by ring
      rw [next]
      exact Int.add_le_add_right waited second

/-- The wait is over once a document names an uplink, or after all of its seconds. -/
theorem Inv.waited (inv : Inv config origin s) {i : Nat} (position : s.position = .waiting i)
    (left : ¬ (i < patience ∧ s.wanIface = "")) : Inv config origin { s with position := .selecting } := by
  have place := inv.place
  rw [position] at place
  cases place with
  | waiting enabled live log waited =>
      refine inv.move inv.advertises.single (.selecting enabled live ?_ (by simp [Rested, log]))
      by_cases named : s.wanIface = ""
      · exact Or.inr (waited_patience waited fun more => left ⟨more, named⟩)
      · exact patient_of_named inv.sends named

theorem Inv.wakes (inv : Inv config origin s) {i : Nat} {wake : Time} (position : s.position = .sleeping i wake)
    (awake : wake ≤ s.clock) : Inv config origin { s with position := .waiting (i + 1) } := by
  have place := inv.place
  rw [position] at place
  cases place with
  | sleeping enabled live log waits =>
      exact inv.move inv.advertises.single (.waiting enabled live log (by push_cast; exact waits.trans awake))

theorem Inv.selects (inv : Inv config origin s) (position : s.position = .selecting) :
    Inv config origin { s with position := .listing s.wanIface s.service.snapshots.length } := by
  have place := inv.place
  rw [position] at place
  cases place with
  | selecting enabled live patient rested =>
      refine inv.move inv.advertises.single (.listing enabled live ?_ rested (names_served inv.sends))
      rw [List.take_length]
      exact patient

theorem Inv.lists (inv : Inv config origin s) {wanIface : String} {served : Nat}
    (position : s.position = .listing wanIface served) (all : Option (List NetInterface)) :
    Inv config origin { s with position := .registering wanIface served (lanInterfaces all wanIface) } := by
  have place := inv.place
  rw [position] at place
  cases place with
  | listing enabled live patient rested names =>
      exact inv.move inv.advertises.single
        (.registering enabled live patient rested names fun _ listed => lanInterfaces_lan listed)

theorem Inv.shutsDown (inv : Inv config origin s) {wake : Time} (position : s.position = .registered wake)
    (awake : wake ≤ s.clock) : Inv config origin { s with position := .selecting, live := s.live.dropLast } := by
  have place := inv.place
  rw [position] at place
  cases place with
  | registered enabled live patient rested =>
      refine inv.move (by simp [live]) (.selecting enabled ?_ patient fun r member => (rested r member).trans awake)
      exact List.length_eq_zero_iff.mp (by simp [live])

theorem Inv.retries (inv : Inv config origin s) {wake : Time} (position : s.position = .failed wake)
    (awake : wake ≤ s.clock) : Inv config origin { s with position := .selecting } := by
  have place := inv.place
  rw [position] at place
  cases place with
  | failed enabled live patient rested =>
      exact inv.move inv.advertises.single
        (.selecting enabled live patient fun r member => (rested r member).trans awake)

theorem Inv.advance (inv : Inv config origin s) (all : Option (List NetInterface)) (registers : Bool) :
    Inv config origin (s.advance config all registers) := by
  unfold Advertiser.advance
  split
  next position => exact inv.starts position
  next => exact inv
  next i position =>
    split
    · exact inv.sleeps position
    next left => exact inv.waited position left
  next i wake position =>
    split
    next awake => exact inv.wakes position awake
    · exact inv
  next position => exact inv.selects position
  next wanIface served position => exact inv.lists position all
  next position => exact inv.register position registers
  next wake position =>
    split
    next awake => exact inv.shutsDown position awake
    · exact inv
  next wake position =>
    split
    next awake => exact inv.retries position awake
    · exact inv

end

/-- However the documents and the sleeps come: a disabled beacon registers nothing, at most
one server is up, each registration keeps off the uplink of the document read for it and
waits for one at first, and registrations keep their distance. -/
theorem run_advertises (config : Config) (origin : Time) (actions : List Action) :
    Advertises config origin (run (step config) (.start origin) actions) := by
  refine (invariant (Inv config origin) ?_ (start_inv config origin) actions).1.advertises
  intro s action inv
  cases action with
  | service action => exact inv.service action
  | advance all registers => exact inv.advance all registers

end SprHomeAssistant.Plugin.Beacon
