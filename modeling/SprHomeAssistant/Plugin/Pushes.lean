import SprHomeAssistant.Library.Changes
import SprHomeAssistant.Plugin.Snapshots

/-! The pushed transitions beside the snapshots that a poll reads.

A refresh compares its devices with a copy of the last snapshot that it took before the
swap. Sightings may be written in between, but no snapshot is.
-/

set_option autoImplicit false

namespace SprHomeAssistant.Plugin
open Go Library.Runs Library.Changes

/-- One swap of the snapshot, with the events broadcast for it. -/
structure Publication where
  snapshot : Snapshot
  events : List Event

def publication (t : Transition Process Action) : Option Publication :=
  match t.action, t.before.phase with
  | .publish, .copied _ _ =>
      some ⟨t.after.store.snapshot, t.after.history.broadcasts.drop t.before.history.broadcasts.length⟩
  | _, _ => none

def publications (start : Process) (actions : List Action) : List Publication :=
  (transitions step start actions).filterMap publication

/-! ## Every publication is compared with the one before it -/

def lastConnected (snap : Snapshot) : Map Bool :=
  snap.devices.items.foldl (fun seen d => seen.insert d.mac d.connected) ∅

def announced (before now : Snapshot) : List Event :=
  now.devices.items.filterMap (transitionEvent (lastConnected before))

/-- Each publication announces what differs from the snapshot before it. -/
def Announced (before : Snapshot) : List Publication → Prop
  | [] => True
  | p :: rest => p.events = announced before p.snapshot ∧ Announced p.snapshot rest

/-- A copy that waits for its swap is a copy of the snapshot that is still served. -/
def Fresh (p : Process) : Prop :=
  ∀ g copy, p.phase = .copied g copy → copy.prevConnected = lastConnected p.store.snapshot

theorem start_fresh (clock : Time) : Fresh (.start clock) := by simp [Fresh, Process.start]

theorem Fresh.of_same {p q : Process} (fresh : Fresh p) (phase : q.phase = p.phase)
    (snapshot : q.store.snapshot = p.store.snapshot) : Fresh q := by
  intro g copy copied
  rw [snapshot]
  exact fresh g copy (phase ▸ copied)

/-- A step publishes, or it leaves the snapshot alone and takes copies of nothing else. -/
theorem step_publication {p : Process} (fresh : Fresh p) (action : Action) :
    Fresh (step p action) ∧
      ((publication ⟨p, action, step p action⟩ = none ∧
          (step p action).store.snapshot = p.store.snapshot) ∨
        publication ⟨p, action, step p action⟩ = some ⟨(step p action).store.snapshot,
          announced p.store.snapshot (step p action).store.snapshot⟩) := by
  have did := stepped p action
  generalize step p action = q at did ⊢
  cases did with
  | aside handlers clock unpublished =>
      refine ⟨fresh.of_same rfl rfl, Or.inl ⟨?_, rfl⟩⟩
      unfold publication
      split
      next acted copied => exact absurd copied (unpublished acted _ _)
      next => rfl
  | marked waiting => exact ⟨fresh.of_same rfl rfl, Or.inl ⟨rfl, rfl⟩⟩
  | began now => exact ⟨by simp [Fresh], Or.inl ⟨rfl, rfl⟩⟩
  | unread reads check => exact ⟨by simp [Fresh], Or.inl ⟨rfl, rfl⟩⟩
  | gathered reads g check => exact ⟨by simp [Fresh], Or.inl ⟨rfl, rfl⟩⟩
  | copied gathered =>
      refine ⟨?_, Or.inl ⟨rfl, rfl⟩⟩
      rintro g copy ⟨rfl, rfl⟩
      rfl
  | published copied =>
      refine ⟨by simp [Fresh, Process.publish], Or.inr ?_⟩
      have compared := fresh _ _ copied
      simp [publication, copied, Process.publish, transitionEvents, compared, announced, publish,
        buildSnapshot, Slice.items]

theorem run_announced (actions : List Action) :
    ∀ {p : Process}, Fresh p → Announced p.store.snapshot (publications p actions) := by
  induction actions with
  | nil => exact fun _ => trivial
  | cons action rest ih =>
      intro p fresh
      obtain ⟨next, ⟨silent, same⟩ | published⟩ := step_publication fresh action
      · simp only [publications, transitions, List.filterMap_cons, silent]
        exact same ▸ ih next
      · simp only [publications, transitions, List.filterMap_cons, published]
        exact ⟨rfl, ih next⟩

/-! ## The publications hold every broadcast -/

/-- No step broadcasts but one that publishes. -/
theorem step_broadcasts (p : Process) (action : Action) :
    (step p action).history.broadcasts = p.history.broadcasts ++
      (publication ⟨p, action, step p action⟩).toList.flatMap (·.events) := by
  have did := stepped p action
  generalize step p action = q at did ⊢
  cases did with
  | aside handlers clock unpublished =>
      unfold publication
      split
      next acted copied => exact absurd copied (unpublished acted _ _)
      next => simp
  | marked waiting => simp [publication, Process.markSeen]
  | began now => simp [publication]
  | unread reads check => simp [publication]
  | gathered reads g check => simp [publication]
  | copied gathered => simp [publication]
  | published copied => simp [publication, copied, Process.publish]

theorem run_broadcasts (clock : Time) (actions : List Action) :
    (run step (.start clock) actions).history.broadcasts =
      (publications (.start clock) actions).flatMap (·.events) := by
  rw [run_recorded (fun p : Process => p.history.broadcasts)
    (fun t => (publication t).toList.flatMap (·.events)) step_broadcasts, publications,
    List.filterMap_eq_flatMap_toList, List.flatMap_assoc]
  rfl

/-! ## The events of one station -/

def Snapshot.macs (snap : Snapshot) : List String := snap.devices.items.map (·.mac)

def Snapshot.device (snap : Snapshot) (mac : String) : Option TrackedDevice :=
  snap.devices.items.find? (·.mac = mac)

def Snapshot.connectedOf (snap : Snapshot) (mac : String) : Option Bool :=
  (snap.device mac).map (·.connected)

def eventsFor (mac : String) (events : List Event) : List Event := events.filter (·.mac = mac)

def eventName (connected : Bool) : String :=
  if connected then "device_connected" else "device_disconnected"

theorem find_none_of_not_listed {mac : String} {ds : List TrackedDevice}
    (absent : mac ∉ ds.map (·.mac)) : ds.find? (·.mac = mac) = none := by
  rw [List.find?_eq_none]
  intro d member same
  exact absent (List.mem_map.mpr ⟨d, member, by simpa using same⟩)

theorem connectedOf_eq_none {mac : String} {snap : Snapshot} (absent : mac ∉ snap.macs) :
    snap.connectedOf mac = none := by
  rw [Snapshot.connectedOf, Snapshot.device, find_none_of_not_listed absent, Option.map_none]

theorem connectedOf_isSome {mac : String} {snap : Snapshot} (listed : mac ∈ snap.macs) :
    (snap.connectedOf mac).isSome = true := by
  obtain ⟨d, member, same⟩ := List.mem_map.mp listed
  rw [Snapshot.connectedOf, Option.isSome_map, Snapshot.device, List.find?_isSome]
  exact ⟨d, member, by simpa using same⟩

theorem lookup_foldl_insert {mac : String} {ds : List TrackedDevice}
    (distinct : (ds.map (·.mac)).Nodup) (seen : Map Bool) :
    (ds.foldl (fun seen d => seen.insert d.mac d.connected) seen).lookup mac =
      ((ds.find? (·.mac = mac)).map (·.connected)).or (seen.lookup mac) := by
  induction ds generalizing seen with
  | nil => rfl
  | cons d rest ih =>
      rw [List.map_cons, List.nodup_cons] at distinct
      rw [List.foldl_cons, ih distinct.2, List.find?_cons]
      by_cases same : d.mac = mac
      · rw [find_none_of_not_listed (same ▸ distinct.1)]
        simp [same]
      · simp [same, AList.lookup_insert_ne (Ne.symm same)]

theorem lookup_lastConnected {snap : Snapshot} (distinct : snap.macs.Nodup) (mac : String) :
    (lastConnected snap).lookup mac = snap.connectedOf mac := by
  rw [lastConnected, lookup_foldl_insert distinct, AList.lookup_empty, Option.or_none]
  rfl

theorem transitionEvent_mac {prevConnected : Map Bool} {d : TrackedDevice} {e : Event}
    (made : transitionEvent prevConnected d = some e) : e.mac = d.mac := by
  unfold transitionEvent at made
  split at made
  · cases made
  · split at made
    · cases made
    · exact Option.some.inj made ▸ rfl

/-- Only its own device makes an event for a MAC. -/
theorem eventsFor_filterMap {prevConnected : Map Bool} {mac : String} {ds : List TrackedDevice}
    (distinct : (ds.map (·.mac)).Nodup) :
    eventsFor mac (ds.filterMap (transitionEvent prevConnected)) =
      ((ds.find? (·.mac = mac)).bind (transitionEvent prevConnected)).toList := by
  induction ds with
  | nil => rfl
  | cons d rest ih =>
      rw [List.map_cons, List.nodup_cons] at distinct
      have later := ih distinct.2
      by_cases same : d.mac = mac
      · rw [find_none_of_not_listed (same ▸ distinct.1)] at later
        cases made : transitionEvent prevConnected d with
        | none => simpa [made, same] using later
        | some e =>
            have own : e.mac = mac := (transitionEvent_mac made).trans same
            simpa [made, same, eventsFor, own] using later
      · cases made : transitionEvent prevConnected d with
        | none => simpa [made, same] using later
        | some e =>
            have other : e.mac ≠ mac := fun own => same ((transitionEvent_mac made).symm.trans own)
            simpa [made, same, eventsFor, other] using later

/-- What is broadcast for a station is the change between its samples, by name. -/
theorem eventsFor_announced {before now : Snapshot} (distinct : before.macs.Nodup)
    (listed : now.macs.Nodup) (mac : String) :
    (eventsFor mac (announced before now)).map (·.event) =
      ((change (before.connectedOf mac) (now.connectedOf mac)).map eventName).toList := by
  rw [announced, eventsFor_filterMap listed, ← lookup_lastConnected distinct]
  cases found : now.devices.items.find? (·.mac = mac) with
  | none => simp [Snapshot.connectedOf, Snapshot.device, found]
  | some d =>
      obtain rfl : d.mac = mac := by simpa using List.find?_some found
      simp only [Snapshot.connectedOf, Snapshot.device, found, Option.bind_some]
      cases known : (lastConnected before).lookup d.mac with
      | none => simp [transitionEvent, known]
      | some was =>
          by_cases same : was = d.connected
          · simp [transitionEvent, known, same, change]
          · simp [transitionEvent, known, same, change, eventName]

/-! ## Stretches -/

/-- Consecutive publications that list a station, and none before or after them does. -/
structure Stretch (mac : String) (before stretch after : List Publication) : Prop where
  listed : ∀ p ∈ stretch, mac ∈ p.snapshot.macs
  opens : ∀ p ∈ before.getLast?, mac ∉ p.snapshot.macs
  closes : ∀ p ∈ after.head?, mac ∉ p.snapshot.macs

/-- The connectivity that a client holds after the events. -/
def applyEvents (start : Bool) (events : List Event) : Bool :=
  events.foldl (fun _ e => e.event = "device_connected") start

structure Replays (mac : String) (first : Publication) (rest : List Publication) : Prop where
  silent : eventsFor mac first.events = []
  named : ∀ e ∈ eventsFor mac (rest.flatMap (·.events)),
    e.event = "device_connected" ∨ e.event = "device_disconnected"
  alternates : ((eventsFor mac (rest.flatMap (·.events))).map (·.event)).IsChain (· ≠ ·)
  replayed : ∀ start, first.snapshot.connectedOf mac = some start →
    ∀ passed last later, rest = passed ++ last :: later →
      last.snapshot.connectedOf mac =
        some (applyEvents start (eventsFor mac ((passed ++ [last]).flatMap (·.events))))

def Distinct (publications : List Publication) : Prop := ∀ p ∈ publications, p.snapshot.macs.Nodup

theorem eventName_injective : Function.Injective eventName := by decide

@[simp] theorem eventsFor_append (mac : String) (first rest : List Event) :
    eventsFor mac (first ++ rest) = eventsFor mac first ++ eventsFor mac rest :=
  List.filter_append ..

/-- Along a stretch the events are the changes between its samples. -/
theorem stretch_changes {mac : String} (rest : List Publication) :
    ∀ {before : Snapshot} {start : Bool}, Announced before rest → before.macs.Nodup →
      Distinct rest → before.connectedOf mac = some start → (∀ p ∈ rest, mac ∈ p.snapshot.macs) →
      ∃ samples : List Bool,
        rest.map (fun p => p.snapshot.connectedOf mac) = samples.map some ∧
        (eventsFor mac (rest.flatMap (·.events))).map (·.event) = (changes start samples).map eventName := by
  -- each publication is compared with the one before it, so the start moves along
  induction rest with
  | nil => exact fun _ _ _ _ _ => ⟨[], rfl, rfl⟩
  | cons p rest ih =>
      intro before start ⟨events, announced⟩ distinct listings known listed
      obtain ⟨now, sampled⟩ := Option.isSome_iff_exists.mp (connectedOf_isSome (listed p (by simp)))
      have own := eventsFor_announced distinct (listings p (by simp)) mac
      obtain ⟨samples, same, later⟩ := ih announced (listings p (by simp))
        (fun q member => listings q (List.mem_cons_of_mem _ member)) sampled
        fun q member => listed q (List.mem_cons_of_mem _ member)
      refine ⟨now :: samples, by simp [sampled, same], ?_⟩
      rw [known, sampled, ← events] at own
      rw [List.flatMap_cons, eventsFor_append, List.map_append, own, later, changes, List.map_append]
      cases change (some start) (some now) <;> rfl

theorem applyEvents_names {events : List Event} {announcements : List Bool}
    (names : events.map (·.event) = announcements.map eventName) (start : Bool) :
    applyEvents start events = replay start announcements := by
  induction announcements generalizing events start with
  | nil =>
      obtain rfl : events = [] := by simpa using names
      rfl
  | cons now rest ih =>
      obtain ⟨e, later, rfl⟩ := List.exists_cons_of_length_pos (l := events)
        (by rw [← List.length_map (·.event), names]; simp)
      obtain ⟨name, names⟩ := List.cons.inj names
      have connects : decide (e.event = "device_connected") = now := by
        rw [show e.event = eventName now from name]
        cases now <;> decide
      rw [applyEvents, List.foldl_cons, connects, replay, List.getLastD_cons]
      exact ih names now

/-- The snapshot that a publication after these is compared with. -/
def previous (before : Snapshot) (earlier : List Publication) : Snapshot :=
  (earlier.getLast?.map (·.snapshot)).getD before

theorem Announced.split {p : Publication} {later : List Publication} (earlier : List Publication) :
    ∀ {before : Snapshot}, Announced before (earlier ++ p :: later) →
      p.events = announced (previous before earlier) p.snapshot ∧ Announced p.snapshot later := by
  induction earlier with
  | nil => exact fun announced => announced
  | cons first rest ih =>
      intro before announced
      obtain ⟨events, following⟩ := ih announced.2
      refine ⟨?_, following⟩
      rw [events, previous, previous, List.getLast?_cons]
      cases rest.getLast? <;> rfl

theorem Announced.take {later : List Publication} (earlier : List Publication) :
    ∀ {before : Snapshot}, Announced before (earlier ++ later) → Announced before earlier := by
  induction earlier with
  | nil => exact fun _ => trivial
  | cons first rest ih => exact fun announced => ⟨announced.1, ih announced.2⟩

theorem last_sample {mac : String} {passed : List Publication} {last : Publication} {samples : List Bool}
    (known : (passed ++ [last]).map (fun p => p.snapshot.connectedOf mac) = samples.map some)
    (start : Bool) : last.snapshot.connectedOf mac = some (samples.getLastD start) := by
  obtain rfl | ⟨earlier, now, rfl⟩ := List.eq_nil_or_concat' samples
  · simp at known
  · have ends := congrArg List.getLast? known
    simpa using ends

theorem stretch_replays {mac : String} {first : Publication} {rest : List Publication}
    (silent : eventsFor mac first.events = []) (announced : Announced first.snapshot rest)
    (distinct : Distinct (first :: rest)) (listed : ∀ p ∈ first :: rest, mac ∈ p.snapshot.macs) :
    Replays mac first rest := by
  obtain ⟨start, known⟩ := Option.isSome_iff_exists.mp (connectedOf_isSome (listed first (by simp)))
  have before : first.snapshot.macs.Nodup := distinct first (by simp)
  have along : ∀ {part : List Publication}, part ⊆ rest → Announced first.snapshot part →
      ∃ samples : List Bool,
        part.map (fun p => p.snapshot.connectedOf mac) = samples.map some ∧
        (eventsFor mac (part.flatMap (·.events))).map (·.event) = (changes start samples).map eventName :=
    fun part announced => stretch_changes _ announced before
      (fun p member => distinct p (List.mem_cons_of_mem _ (part member))) known
      fun p member => listed p (List.mem_cons_of_mem _ (part member))
  obtain ⟨samples, -, names⟩ := along (List.Subset.refl _) announced
  refine ⟨silent, fun e member => ?_, ?_, ?_⟩
  · have name : e.event ∈ (changes start samples).map eventName := by
      rw [← names]
      exact List.mem_map_of_mem member
    obtain ⟨connected, -, same⟩ := List.mem_map.mp name
    cases connected with
    | false => exact Or.inr same.symm
    | true => exact Or.inl same.symm
  · rw [names, List.isChain_map]
    exact (changes_alternate start samples).tail.imp fun _ _ differs same =>
      differs (eventName_injective same)
  · intro held sampled passed last later split
    obtain rfl : start = held := Option.some.inj (known.symm.trans sampled)
    have part : passed ++ [last] ⊆ rest := by
      rw [split]
      exact List.append_subset.mpr ⟨by simp, by simp⟩
    have announced : Announced first.snapshot (passed ++ [last]) := by
      rw [split, List.append_cons] at announced
      exact announced.take
    obtain ⟨samples, known, names⟩ := along part announced
    rw [applyEvents_names names, replay_changes]
    exact last_sample known start

theorem previous_listed {mac : String} {earlier : List Publication}
    (listed : mac ∈ (previous .zero earlier).macs) : ∃ q ∈ earlier.getLast?, mac ∈ q.snapshot.macs := by
  unfold previous at listed
  cases ended : earlier.getLast? with
  | none => simp [ended, Snapshot.zero, Snapshot.macs, Slice.items] at listed
  | some q => exact ⟨q, rfl, by simpa [ended] using listed⟩

theorem previous_distinct {earlier : List Publication} (distinct : Distinct earlier) :
    (previous .zero earlier).macs.Nodup := by
  unfold previous
  cases ended : earlier.getLast? with
  | none => exact List.nodup_nil
  | some q => exact distinct q (List.mem_of_getLast? ended)

/-- The events of a publication, by the two samples it lies between. -/
theorem Announced.names {earlier later : List Publication} {p : Publication}
    (announced : Announced .zero (earlier ++ p :: later)) (distinct : Distinct (earlier ++ p :: later))
    (mac : String) :
    (eventsFor mac p.events).map (·.event) =
      ((change ((previous .zero earlier).connectedOf mac) (p.snapshot.connectedOf mac)).map
        eventName).toList := by
  rw [announced.split.1]
  have before : Distinct earlier := fun q member => distinct q (List.mem_append_left _ member)
  exact eventsFor_announced (previous_distinct before) (distinct p (by simp)) mac

/-- Along every run, applying a station's events to what a poll read at the beginning of a
stretch gives what every later poll of the stretch reads; the events alternate, and none
comes where a station is not listed or only begins to be. -/
theorem pushes_replay (clock : Time) (actions : List Action)
    (distinct : Distinct (publications (.start clock) actions)) (mac : String) :
    (run step (.start clock) actions).history.broadcasts =
      (publications (.start clock) actions).flatMap (·.events) ∧
    (∀ p ∈ publications (.start clock) actions, mac ∉ p.snapshot.macs → eventsFor mac p.events = []) ∧
    ∀ before first rest after, publications (.start clock) actions = before ++ first :: rest ++ after →
      Stretch mac before (first :: rest) after → Replays mac first rest := by
  have announced : Announced .zero (publications (.start clock) actions) :=
    run_announced actions (start_fresh clock)
  refine ⟨run_broadcasts clock actions, ?_⟩
  generalize publications (.start clock) actions = published at distinct announced
  constructor
  · intro p member absent
    obtain ⟨earlier, later, rfl⟩ := List.append_of_mem member
    have names := announced.names distinct mac
    rw [connectedOf_eq_none absent, change_none_right] at names
    exact List.map_eq_nil_iff.mp names
  · rintro before first rest after rfl ⟨listed, opens, -⟩
    rw [List.append_assoc, List.cons_append] at announced distinct
    have unknown : mac ∉ (previous .zero before).macs := by
      intro member
      obtain ⟨q, ended, known⟩ := previous_listed member
      exact opens q ended known
    have names := announced.names distinct mac
    rw [connectedOf_eq_none unknown, change_none_left] at names
    refine stretch_replays (List.map_eq_nil_iff.mp names) announced.split.2.take ?_ listed
    intro p member
    exact distinct p (List.mem_append_right _ (List.mem_append_left after member))

def wiredStation : String := "aa:bb:cc:dd:ee:01"

/-- A refresh beside a router that lists one station, which it may have learned by ARP. -/
def refreshOne (learned : Bool) : List Action :=
  [.beginRefresh, .fetch { tableOnly (AList.singleton wiredStation (plainEntry "")) with
    arp := if learned then some (some [⟨"0x2", wiredStation, "eth1"⟩]) else none }, .copyState, .publish]

/-- The station comes up, stays, is not listed for a while, and is gone when it is again. -/
def comesAndGoes : List Action :=
  refreshOne false ++ refreshOne true ++ refreshOne true ++
    [.beginRefresh, .fetch { tableOnly ∅ with devices := none }] ++ refreshOne false ++
    oneRefresh ∅ ++ refreshOne true

theorem comesAndGoes_distinct : Distinct (publications (.start 0) comesAndGoes) := by
  unfold Distinct
  decide

example : (publications (.start 0) comesAndGoes).map (fun p => p.events.map (·.event)) =
    [[], ["device_connected"], [], ["device_disconnected"], [], []] := by decide

theorem pushes_replay_comesAndGoes :
    (run step (.start 0) comesAndGoes).history.broadcasts =
      (publications (.start 0) comesAndGoes).flatMap (·.events) ∧
    (∀ p ∈ publications (.start 0) comesAndGoes, wiredStation ∉ p.snapshot.macs →
      eventsFor wiredStation p.events = []) ∧
    ∀ before first rest after,
      publications (.start 0) comesAndGoes = before ++ first :: rest ++ after →
      Stretch wiredStation before (first :: rest) after → Replays wiredStation first rest :=
  pushes_replay 0 comesAndGoes comesAndGoes_distinct wiredStation

end SprHomeAssistant.Plugin
