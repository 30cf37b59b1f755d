import SprHomeAssistant.Plugin.Pushes
import SprHomeAssistant.Plugin.Uplinks

/-! What a refresh makes of presence reads that fail.

Where SPR has no topology, a failed read leaves an empty list behind, which the merge
takes for an answer. Whoever was connected there stays so only when one of the other
reads has the station.
-/

set_option autoImplicit false

namespace SprHomeAssistant.Plugin
open Go Library.Runs

/-- A process with the answers that its refresh works on. -/
structure Watched where
  process : Process
  reads : Option Reads

def Watched.start (clock : Time) : Watched := ⟨.start clock, none⟩

def answers (w : Watched) (action : Action) : Option Reads :=
  match action, w.process.phase with
  | .fetch reads, .started _ => some reads
  | _, _ => w.reads

def Watched.step (w : Watched) (action : Action) : Watched :=
  ⟨Plugin.step w.process action, answers w action⟩

/-! ## Devices at stake -/

/-- A read that failed covers the interface on which a device was connected. -/
inductive Covers (reads : Reads) (d : TrackedDevice) : Prop where
  /-- Without the interfaces no station list is asked for. -/
  | interfaces (failed : reads.interfaces = none) (wireless : d.wired = false)
  | stations (n : Nat) (asked : (stationNames reads.interfaceList)[n]? = some d.iface)
      (failed : reads.stations n d.iface = none)
  | arp (failed : reads.arp = none) (wired : d.wired = true)

/-- A device that a refresh without topology could lose to a failed read. -/
structure AtStake (t : Transition Watched Action) (reads : Reads) (p : Publication) (d : TrackedDevice) :
    Prop where
  published : publication ⟨t.before.process, t.action, t.after.process⟩ = some p
  answered : t.before.reads = some reads
  withoutTopology : reads.topology = none
  previous : d ∈ t.before.process.store.snapshot.devices.items
  connected : d.connected = true
  covered : Covers reads d
  inTable : ∃ table, reads.devices = some table ∧ d.mac ∈ canonicalMACs table

structure Remains (p : Publication) (mac : String) : Prop where
  connected : ∀ d ∈ p.snapshot.devices.items, d.mac = mac → d.connected = true
  silent : ∀ e ∈ p.events, ¬ (e.event = "device_disconnected" ∧ e.mac = mac)

/-- A failed read is not a departure. -/
def KeepsCovered (t : Transition Watched Action) : Prop :=
  ∀ reads p d, AtStake t reads p d → Remains p d.mac

/-- A station list or the ARP table that did answer has the MAC. -/
def Seen (reads : Reads) (mac : String) : Prop :=
  ListedByAP reads mac ∨ LearnedByArp reads (scanInterfaces reads.interfaceList).2 mac

def CoveredSeen (t : Transition Watched Action) : Prop :=
  ∀ reads p d, AtStake t reads p d → Seen reads d.mac

/-! ## The refresh under way -/

/-- What is gathered comes from the answers that are kept beside it. -/
def Underway (w : Watched) : Prop :=
  ∀ g, (w.process.phase = .gathered g ∨ ∃ copy, w.process.phase = .copied g copy) →
    ∃ now reads table latest, w.reads = some reads ∧ reads.devices = some table ∧
      g = gatherFrom now table reads latest

structure Consistent (w : Watched) : Prop where
  fresh : Fresh w.process
  underway : Underway w

theorem start_consistent (clock : Time) : Consistent (.start clock) where
  fresh := start_fresh clock
  underway := by simp [Underway, Watched.start, Process.start]

theorem answers_kept {w : Watched} {action : Action} (kept : ∀ reads, action ≠ .fetch reads) :
    answers w action = w.reads := by
  unfold answers
  split
  next reads now _ => exact absurd rfl (kept reads)
  next => rfl

theorem fetch_underway {w : Watched} (underway : Underway w) (reads : Reads) :
    Underway (w.step (.fetch reads)) := by
  unfold Underway at underway
  unfold Underway Watched.step answers
  cases phase : w.process.phase with
  | started now =>
      simp only [step, phase, Process.fetch, gather]
      cases readable : reads.devices with
      | none => simp
      | some table =>
          dsimp only
          rintro g (same | ⟨copy, ⟨⟩⟩)
          obtain rfl := Phase.gathered.inj same
          exact ⟨now, reads, table, _, rfl, readable, rfl⟩
  | idle => simp [step, phase]
  | gathered g => simpa only [step, phase] using underway
  | copied g copy => simpa only [step, phase] using underway

theorem step_underway {w : Watched} (underway : Underway w) (action : Action) :
    Underway (w.step action) := by
  by_cases fetched : ∃ reads, action = .fetch reads
  · obtain ⟨reads, rfl⟩ := fetched
    exact fetch_underway underway reads
  · have kept : answers w action = w.reads := answers_kept fun reads same => fetched ⟨reads, same⟩
    simp only [Underway, Watched.step, kept]
    have did := stepped w.process action
    generalize step w.process action = q at did ⊢
    cases did with
    | aside handlers clock _ => exact underway
    | marked _ => exact underway
    | began now => simp
    | unread reads check => exact absurd ⟨reads, rfl⟩ fetched
    | gathered reads g check => exact absurd ⟨reads, rfl⟩ fetched
    | copied gathered =>
        rintro g (⟨⟨⟩⟩ | ⟨copy, same⟩)
        obtain ⟨rfl, -⟩ := Phase.copied.inj same
        exact underway _ (Or.inl gathered)
    | published _ => simp [Process.publish]

theorem step_consistent {w : Watched} (action : Action) (consistent : Consistent w) :
    Consistent (w.step action) where
  fresh := (step_publication consistent.fresh action).1
  underway := step_underway consistent.underway action

/-! ## One publication -/

theorem publication_some {p q : Process} {action : Action} {made : Publication}
    (published : publication ⟨p, action, q⟩ = some made) :
    action = .publish ∧ made.snapshot = q.store.snapshot ∧ ∃ g copy, p.phase = .copied g copy := by
  unfold publication at published
  split at published
  next acted copied =>
    obtain rfl := Option.some.inj published
    exact ⟨acted, rfl, _, _, copied⟩
  next => cases published

/-- The snapshot of a publication is made from the answers of its refresh, and the events
from the snapshot before. -/
theorem Consistent.published {w : Watched} (consistent : Consistent w) {action : Action} {reads : Reads}
    {p : Publication}
    (made : publication ⟨w.process, action, step w.process action⟩ = some p)
    (answered : w.reads = some reads) :
    p.events = announced w.process.store.snapshot p.snapshot ∧
      ∃ now table latest lastSeen, reads.devices = some table ∧
        p.snapshot.devices.items =
          sortByMAC (trackDevices (gatherFrom now table reads latest) lastSeen).tracked := by
  obtain ⟨rfl, _, g, copy, copied⟩ := publication_some made
  obtain ⟨-, ⟨silent, -⟩ | events⟩ := step_publication consistent.fresh .publish
  · exact absurd (silent.symm.trans made) (by simp)
  · obtain rfl := Option.some.inj (events.symm.trans made)
    obtain ⟨now, others, table, latest, also, readable, rfl⟩ := consistent.underway g (Or.inr ⟨copy, copied⟩)
    obtain rfl := Option.some.inj (also.symm.trans answered)
    refine ⟨rfl, now, table, latest, copy.lastSeen, readable, ?_⟩
    simp [step, copied, Process.publish, publish, buildSnapshot, Slice.items]

theorem unanswered_of_none {reads : Reads} (withoutTopology : reads.topology = none) :
    ¬ ∃ topo, reads.AnswersTopology topo := by
  simp [Reads.AnswersTopology, withoutTopology]

theorem connected_iff_seen {now : Time} {table : Map DeviceEntry} {reads : Reads} {latest : String}
    {lastSeen : Map Int} (withoutTopology : reads.topology = none) {d : TrackedDevice}
    (tracked : d ∈ sortByMAC (trackDevices (gatherFrom now table reads latest) lastSeen).tracked) :
    d.connected = true ↔ Seen reads d.mac :=
  have single : ∀ topo, reads.topology = some topo → OneNodeEach topo := by simp [withoutTopology]
  (trackDevices_presented single lastSeen d ((List.mem_insertionSort _).mp tracked)).sighted
    (unanswered_of_none withoutTopology)

theorem announced_disconnected {before now : Snapshot} {e : Event} (sent : e ∈ announced before now)
    (gone : e.event = "device_disconnected") :
    ∃ d ∈ now.devices.items, d.mac = e.mac ∧ d.connected = false := by
  obtain ⟨d, member, made⟩ := List.mem_filterMap.mp sent
  refine ⟨d, member, (transitionEvent_mac made).symm, ?_⟩
  unfold transitionEvent at made
  split at made
  · cases made
  · split at made
    · cases made
    · obtain rfl := Option.some.inj made
      cases connected : d.connected with
      | false => rfl
      | true => simp [connected] at gone

theorem remains_iff {w : Watched} (consistent : Consistent w) {action : Action} {reads : Reads}
    {p : Publication} {d : TrackedDevice}
    (stake : AtStake ⟨w, action, w.step action⟩ reads p d) : Remains p d.mac ↔ Seen reads d.mac := by
  obtain ⟨events, now, table, latest, lastSeen, readable, devices⟩ :=
    consistent.published stake.published stake.answered
  obtain ⟨read, also, inTable⟩ := stake.inTable
  obtain rfl := Option.some.inj (readable.symm.trans also)
  constructor
  · intro remains
    have macs := (trackDevices_tracks (gatherFrom now table reads latest) lastSeen).macs
    have listed : d.mac ∈ canonicalMACs (gatherFrom now table reads latest).devices := inTable
    rw [canonicalMACs, ← macs] at listed
    obtain ⟨d', member, same⟩ := List.mem_map.mp listed
    have tracked := (List.mem_insertionSort fun a b : TrackedDevice => a.mac ≤ b.mac).mpr member
    rw [← same]
    refine (connected_iff_seen stake.withoutTopology tracked).mp ?_
    exact remains.connected d' (devices ▸ tracked) same
  · intro seen
    have connected : ∀ d' ∈ p.snapshot.devices.items, d'.mac = d.mac → d'.connected = true := by
      intro d' member same
      rw [devices] at member
      exact (connected_iff_seen stake.withoutTopology member).mpr (same ▸ seen)
    refine ⟨connected, ?_⟩
    rintro e sent ⟨gone, named⟩
    obtain ⟨d', member, same, away⟩ := announced_disconnected (events ▸ sent) gone
    exact absurd (connected d' member (same.trans named)) (by simp [away])

/-! ## Every run -/

/-- In every run, a refresh keeps the devices whose own read has failed exactly when
another of its reads has them. -/
theorem failed_reads_keep_iff (clock : Time) (actions : List Action) :
    ∀ t ∈ transitions Watched.step (.start clock) actions, KeepsCovered t ↔ CoveredSeen t := by
  intro t member
  have consistent : Consistent t.before :=
    ((invariant Consistent (fun _ action => step_consistent action) (start_consistent clock) actions).2
      t member).1
  have after := transition_after member
  cases t with
  | mk before action later =>
      obtain rfl : later = before.step action := after
      exact forall₄_congr fun reads p d stake => remains_iff consistent stake

/-- A router with one access point, whose station list is the given answer. -/
def stationReads (list : Option StationTable) (arp : List ArpEntry) : Reads :=
  { tableOnly (AList.singleton wiredStation (plainEntry "")) with
    interfaces := some (some [⟨"wlan0", "AP", true, none⟩])
    stations := fun _ _ => list
    arp := some (some arp) }

/-- A refresh that finds the phone, and one up to its publication that misses the list. -/
def missedList (arp : List ArpEntry) : List Action :=
  [.beginRefresh, .fetch (stationReads (some (AList.singleton wiredStation ∅)) []), .copyState, .publish,
    .beginRefresh, .fetch (stationReads none arp), .copyState]

/-- The phone that the first of two refreshes finds. -/
def stationPhone (connected : Bool) : TrackedDevice where
  mac := wiredStation
  name := ""
  ip := ""
  vlanTag := ""
  groups := none
  deviceTags := none
  connected := connected
  wired := false
  iface := if connected then "wlan0" else ""
  signal := 0
  lastSeen := 0
  rxBytes := 0
  txBytes := 0
  blocked := true
  guestWifi := false

theorem missedList_before (arp : List ArpEntry) :
    (run Watched.step (.start 0) (missedList arp)).process.store.snapshot.devices.items =
      [stationPhone true] := by
  rfl

theorem failed_reads_keep_learned :
    KeepsCovered ⟨run Watched.step (.start 0) (missedList [⟨"0x2", wiredStation, "wlan0"⟩]), .publish,
      (run Watched.step (.start 0) (missedList [⟨"0x2", wiredStation, "wlan0"⟩])).step .publish⟩ := by
  refine (failed_reads_keep_iff 0 _ _ (last_mem_transitions _ _ _)).mpr fun reads p d stake => ?_
  obtain rfl : stationReads none [⟨"0x2", wiredStation, "wlan0"⟩] = reads := Option.some.inj stake.answered
  obtain rfl := List.mem_singleton.mp (missedList_before _ ▸ stake.previous)
  exact Or.inr ⟨_, List.mem_singleton_self _, by decide, (learnedFlags_iff _).mp (by decide +kernel),
    by decide +kernel⟩

theorem missedList_after :
    (run Watched.step (.start 0) (missedList [] ++ [.publish])).process.store.snapshot.devices.items =
      [stationPhone false] := by
  decide +kernel

/-- A station list that could not be read disconnects whoever was on it. -/
theorem missed_list_disconnects :
    ¬ ∀ (clock : Time) (actions : List Action),
      ∀ t ∈ transitions Watched.step (.start clock) actions, KeepsCovered t := by
  intro all
  have after := missedList_after
  have kept := all 0 (missedList [] ++ [.publish]) _ (last_mem_transitions _ _ _)
  have stake := kept (stationReads none []) _ (stationPhone true)
    { published := rfl
      answered := rfl
      withoutTopology := rfl
      previous := missedList_before [] ▸ List.mem_singleton_self _
      connected := rfl
      covered := .stations 0 (by decide +kernel) rfl
      inTable := ⟨_, rfl, by decide +kernel⟩ }
  rw [run_concat] at after
  exact absurd (stake.connected (stationPhone false) (after ▸ List.mem_singleton_self _) rfl) (by decide)

end SprHomeAssistant.Plugin
