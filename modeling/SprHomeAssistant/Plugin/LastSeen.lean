import SprHomeAssistant.Plugin.Merge
import SprHomeAssistant.Plugin.Pushes
import SprHomeAssistant.Plugin.Sightings

/-! The sightings that a refresh publishes beside those that it copied.

A connected device is published as seen when the refresh began, which was before its
requests. A bus event that came while they were answered is later than that, and the
refresh has copied it.
-/

set_option autoImplicit false

namespace SprHomeAssistant.Plugin
open Go Library.Runs

/-! ## The device loop -/

/-- Whether the answers have a station as present. -/
def Presence.finds (presence : Presence) (mac : String) : Bool :=
  match presence with
  | .topology topo => (topo.lookup mac).any (·.online)
  | .merged stations arpSeen => (stations.lookup mac).isSome || (arpSeen.lookup mac).isSome

theorem Presence.finds_topology (topo : Map TopoPresence) (mac : String) :
    (Presence.topology topo).finds mac = true ↔ ∃ p, topo.lookup mac = some p ∧ p.online = true :=
  Option.any_eq_true _ _

theorem Presence.finds_merged (stations : Map StationInfo) (arpSeen : Map String) (mac : String) :
    (Presence.merged stations arpSeen).finds mac = true ↔ mac ∈ stations ∨ mac ∈ arpSeen := by
  rw [Presence.finds, Bool.or_eq_true, AList.lookup_isSome, AList.lookup_isSome]

theorem mergeDevice_connected (g : Gathered) (mac : String) (dev : DeviceEntry) :
    (mergeDevice g mac dev).connected = g.presence.finds mac := by
  rw [Bool.eq_iff_iff, mergeDevice, (applyTraffic_keeps _ _ _).1]
  have fresh : (newDevice mac dev).connected = false ∧ (newDevice mac dev).wired = false ∧
      (newDevice mac dev).iface = "" ∧ (newDevice mac dev).signal = 0 := ⟨rfl, rfl, rfl, rfl⟩
  cases g.presence with
  | topology topo => exact (applyPresence_topology topo fresh).1.trans (Presence.finds_topology topo mac).symm
  | merged stations arpSeen =>
      exact (applyPresence_merged stations arpSeen fresh).1.trans
        (Presence.finds_merged stations arpSeen mac).symm

/-- What is published of a device's sightings, from what was copied of them. -/
def publishedSeen (g : Gathered) (copied : Map Int) (mac : String) : Int :=
  if g.presence.finds mac then unix g.now else copied.get mac 0

/-- The loop changes the copy only for the stations that were found, and only to its own time. -/
structure Sights (g : Gathered) (copied : Map Int) (acc : Tracking) : Prop where
  seen : ∀ d ∈ acc.tracked, d.lastSeen = publishedSeen g copied d.mac
  others : ∀ mac, g.presence.finds mac = false → acc.lastSeen.lookup mac = copied.lookup mac
  stored : ∀ mac seen, acc.lastSeen.lookup mac = some seen →
    copied.lookup mac = some seen ∨ seen = unix g.now

theorem add_lastSeen (now : Time) (acc : Tracking) (td : TrackedDevice) :
    (acc.add now td).lastSeen =
      if td.connected then acc.lastSeen.insert td.mac (unix now) else acc.lastSeen := rfl

theorem Sights.add {g : Gathered} {copied : Map Int} {acc : Tracking} (sights : Sights g copied acc)
    {td : TrackedDevice} (connected : td.connected = g.presence.finds td.mac) :
    Sights g copied (acc.add g.now td) where
  seen := by
    intro d member
    rcases List.mem_append.mp member with old | new
    · exact sights.seen d old
    · obtain rfl := List.mem_singleton.mp new
      cases found : g.presence.finds td.mac with
      | true => simp [publishedSeen, found, connected, Map.get]
      | false => simp [publishedSeen, found, connected, Map.get, sights.others _ found]
  others := by
    intro mac missing
    rw [add_lastSeen, connected]
    cases found : g.presence.finds td.mac with
    | true =>
        have apart : mac ≠ td.mac := by
          rintro rfl
          simp [found] at missing
        rw [if_pos rfl, AList.lookup_insert_ne apart]
        exact sights.others mac missing
    | false => exact sights.others mac missing
  stored := by
    intro mac seen held
    rw [add_lastSeen, connected] at held
    cases found : g.presence.finds td.mac with
    | true =>
        rw [found, if_pos rfl] at held
        exact (lookup_insert_cases held).elim (fun new => Or.inr new.2) fun old => sights.stored mac seen old.2
    | false =>
        rw [found, if_neg Bool.false_ne_true] at held
        exact sights.stored mac seen held

theorem trackDevices_sights (g : Gathered) (copied : Map Int) : Sights g copied (trackDevices g copied) := by
  have start : Sights g copied ⟨[], 0, copied⟩ := ⟨by simp, fun _ _ => rfl, fun _ _ => Or.inl⟩
  refine List.foldlRecOn _ _ start ?_
  intro acc sights entry _
  obtain ⟨_, skipped⟩ | ⟨mac, _, added⟩ := trackEntry_cases g acc entry
  · rwa [skipped]
  · rw [added]
    exact sights.add (by rw [mergeDevice_connected, mergeDevice_mac])

/-- The published devices, by MAC and by when they were seen. -/
theorem publish_devices (g : Gathered) (copied : Map Int) (s : StateStore) :
    (∀ d ∈ (publish g (trackDevices g copied) s).snapshot.devices.items,
      d.mac ∈ canonicalMACs g.devices ∧ d.lastSeen = publishedSeen g copied d.mac) ∧
    ∀ mac ∈ canonicalMACs g.devices,
      ∃ d ∈ (publish g (trackDevices g copied) s).snapshot.devices.items, d.mac = mac := by
  have listed : ∀ mac, mac ∈ canonicalMACs g.devices ↔
      ∃ d ∈ (publish g (trackDevices g copied) s).snapshot.devices.items, d.mac = mac := by
    intro mac
    have macs := snapshot_macs g copied
    rw [← List.mem_insertionSort (· ≤ ·), ← macs, List.mem_map]
    rfl
  refine ⟨fun d member => ⟨(listed d.mac).mpr ⟨d, member, rfl⟩, ?_⟩, fun mac => (listed mac).mp⟩
  exact (trackDevices_sights g copied).seen d ((List.mem_insertionSort _).mp member)

/-! ## The refresh under way -/

/-- A process, with what an observer noted of its refresh: the time when it began, the
sightings written until then, and those that the store held when they were copied. -/
structure Observed where
  process : Process
  began : Time
  earlier : List (String × Int)
  held : Map Int

def Observed.start (clock : Time) : Observed := ⟨.start clock, clock, [], ∅⟩

def Observed.step (o : Observed) (action : Action) : Observed :=
  let next := Plugin.step o.process action
  match action, o.process.phase with
  | .beginRefresh, .idle => ⟨next, o.process.clock, o.process.history.written, o.held⟩
  | .copyState, .gathered _ => ⟨next, o.began, o.earlier, o.process.store.lastSeen⟩
  | _, _ => { o with process := next }

/-- The time and the copy that the refresh works with are those that the observer noted. -/
def Follows (o : Observed) : Prop :=
  match o.process.phase with
  | .idle => True
  | .started now => now = o.began
  | .gathered g => g.now = o.began
  | .copied g copy => g.now = o.began ∧ copy.lastSeen = o.held

theorem start_follows (clock : Time) : Follows (.start clock) := trivial

theorem gather_now {now : Time} {reads : Reads} {check later : VersionCheck} {g : Gathered}
    (gathered : gather now reads check = (some g, later)) : g.now = now := by
  unfold gather at gathered
  split at gathered
  · cases gathered
  · obtain rfl := Option.some.inj (congrArg Prod.fst gathered)
    rfl

theorem step_follows {o : Observed} (follows : Follows o) (action : Action) : Follows (o.step action) := by
  obtain ⟨⟨store, check, phase, handlers, clock, history⟩, began, earlier, held⟩ := o
  cases action with
  | tick elapsed => exact follows
  | handleBusEvent topic mac =>
      simp only [Observed.step, step, Process.handleBusEvent]
      split <;> exact follows
  | markSeen handler =>
      simp only [Observed.step, step]
      split <;> exact follows
  | beginRefresh =>
      cases phase with
      | idle => rfl
      | _ => exact follows
  | fetch reads =>
      cases phase with
      | started now =>
          simp only [Follows, Observed.step, step, Process.fetch]
          cases fetched : gather now reads check with
          | mk g later =>
              cases g with
              | none => exact True.intro
              | some g => exact (gather_now fetched).trans follows
      | _ => exact follows
  | copyState =>
      cases phase with
      | gathered g => exact ⟨follows, rfl⟩
      | _ => exact follows
  | publish =>
      cases phase with
      | copied g copy => trivial
      | _ => exact follows

/-! ## Every publication -/

/-- The step by which a refresh publishes what it made of its answers. -/
structure Publishes (t : Transition Observed Action) (g : Gathered) : Prop where
  acted : t.action = .publish
  copied : ∃ copy, t.before.process.phase = .copied g copy

/-- No device is published as seen before a sighting that the store held at the copy. -/
def PublishesHeld (t : Transition Observed Action) : Prop :=
  ∀ g, Publishes t g → ∀ d ∈ t.after.process.store.snapshot.devices.items,
    ∀ seen, t.before.held.lookup d.mac = some seen → seen ≤ d.lastSeen

/-- No station that the answers have as present was sighted, at the copy, in a later second
than that in which the refresh began. -/
def HeldNotAhead (t : Transition Observed Action) : Prop :=
  ∀ g, Publishes t g → ∀ mac ∈ canonicalMACs g.devices, g.presence.finds mac = true →
    ∀ seen, t.before.held.lookup mac = some seen → seen ≤ unix t.before.began

theorem publishedSeen_held {g : Gathered} {held : Map Int} {mac : String} {seen : Int}
    (sighted : held.lookup mac = some seen) :
    seen ≤ publishedSeen g held mac ↔ (g.presence.finds mac = true → seen ≤ unix g.now) := by
  unfold publishedSeen
  cases g.presence.finds mac with
  | true => simp
  | false => simp [Map.get, sighted]

theorem publication_held_iff {o : Observed} (follows : Follows o) (action : Action) :
    PublishesHeld ⟨o, action, o.step action⟩ ↔ HeldNotAhead ⟨o, action, o.step action⟩ := by
  refine forall_congr' fun g => forall_congr' fun ⟨acted, copy, copied⟩ => ?_
  dsimp only at acted copied
  subst acted
  unfold Follows at follows
  rw [copied] at follows
  obtain ⟨now, same⟩ := follows
  have after : (o.step .publish).process.store = publish g (trackDevices g o.held) o.process.store := by
    simp only [Observed.step, step, copied, Process.publish, same]
  obtain ⟨seen, listed⟩ := publish_devices g o.held o.process.store
  dsimp only
  rw [after, ← now]
  constructor
  · intro kept mac tracked found held sighted
    obtain ⟨d, member, rfl⟩ := listed mac tracked
    have published := kept d member held sighted
    rw [(seen d member).2] at published
    exact (publishedSeen_held sighted).mp published found
  · intro bounded d member held sighted
    obtain ⟨tracked, published⟩ := seen d member
    rw [published]
    exact (publishedSeen_held sighted).mpr fun found => bounded d.mac tracked found held sighted

/-! ## Sightings ahead of the refresh -/

theorem mergedSightings_subset (entries : List ((_ : String) × Int)) :
    ∀ (seen : Map Int), ∀ entry ∈ mergedSightings seen entries, ⟨entry.1, entry.2⟩ ∈ entries := by
  induction entries with
  | nil => simp [mergedSightings]
  | cons first rest ih =>
      intro seen entry member
      by_cases raises : Library.Latest.Raises 0 (registers seen) first.1 first.2
      · rw [mergedSightings_cons seen first rest raises] at member
        rcases List.mem_cons.mp member with rfl | later
        · exact List.mem_cons_self
        · exact List.mem_cons_of_mem _ (ih _ entry later)
      · rw [mergedSightings_skip seen first rest raises] at member
        exact List.mem_cons_of_mem _ (ih _ entry member)

theorem foldl_mergeSighting_lookup (entries : List ((_ : String) × Int)) :
    ∀ (seen : Map Int) (mac : String) (sighting : Int),
      (entries.foldl mergeSighting seen).lookup mac = some sighting →
        seen.lookup mac = some sighting ∨ (mac, sighting) ∈ mergedSightings seen entries := by
  induction entries with
  | nil => exact fun _ _ _ => Or.inl
  | cons first rest ih =>
      intro seen mac sighting found
      rw [List.foldl_cons] at found
      obtain ⟨raises, merged⟩ | ⟨kept, merged⟩ := mergeSighting_cases seen first
      · rw [mergedSightings_cons seen first rest raises]
        rcases ih _ mac sighting found with old | new
        · rw [merged] at old
          obtain ⟨rfl, rfl⟩ | ⟨-, old⟩ := lookup_insert_cases old
          · exact Or.inr List.mem_cons_self
          · exact Or.inl old
        · exact Or.inr (List.mem_cons_of_mem _ new)
      · rw [mergedSightings_skip seen first rest kept]
        rw [merged] at found ⊢
        exact ih seen mac sighting found

theorem unix_mono {first second : Time} (before : first ≤ second) : unix first ≤ unix second :=
  Int.ediv_le_ediv (by decide) before

/-- No sample is ahead of the clock, and what was written before the refresh began is not
ahead of its beginning. -/
structure Timely (o : Observed) : Prop where
  began : o.began ≤ o.process.clock
  handlers : ∀ waiting ∈ o.process.handlers, waiting.2 ≤ o.process.clock
  written : ∀ entry ∈ o.process.history.written, entry.2 ≤ unix o.process.clock
  stored : ∀ mac seen, o.process.store.lastSeen.lookup mac = some seen →
    (mac, seen) ∈ o.process.history.written
  held : ∀ mac seen, o.held.lookup mac = some seen → (mac, seen) ∈ o.process.history.written
  earlier : ∀ entry ∈ o.earlier, entry.2 ≤ unix o.began
  since : o.earlier <+: o.process.history.written

theorem start_timely (clock : Time) : Timely (.start clock) where
  began := le_rfl
  handlers := by simp [Observed.start, Process.start]
  written := by simp [Observed.start, Process.start]
  stored := by simp [Observed.start, Process.start, StateStore.initial]
  held := by simp [Observed.start]
  earlier := by simp [Observed.start]
  since := List.nil_prefix

/-- A step that writes sightings which are not ahead of the clock, and stores only those. -/
theorem Timely.write {o : Observed} (timely : Timely o) {next : Process} (new : List (String × Int))
    (clock : next.clock = o.process.clock) (handlers : next.handlers ⊆ o.process.handlers)
    (written : next.history.written = o.process.history.written ++ new)
    (bounded : ∀ entry ∈ new, entry.2 ≤ unix o.process.clock)
    (stored : ∀ mac seen, next.store.lastSeen.lookup mac = some seen →
      o.process.store.lastSeen.lookup mac = some seen ∨ (mac, seen) ∈ new) :
    Timely { o with process := next } where
  began := by rw [clock]; exact timely.began
  handlers := by
    rw [clock]
    exact fun waiting member => timely.handlers waiting (handlers member)
  written := by
    rw [clock, written]
    exact List.forall_mem_append.mpr ⟨timely.written, bounded⟩
  stored := by
    intro mac seen found
    rw [written, List.mem_append]
    exact (stored mac seen found).imp_left (timely.stored mac seen)
  held := by
    intro mac seen found
    rw [written]
    exact List.mem_append_left _ (timely.held mac seen found)
  earlier := timely.earlier
  since := by
    rw [written]
    exact timely.since.trans (List.prefix_append _ _)

theorem Timely.silent {o : Observed} (timely : Timely o) {next : Process}
    (clock : next.clock = o.process.clock) (handlers : next.handlers = o.process.handlers)
    (store : next.store = o.process.store)
    (written : next.history.written = o.process.history.written) :
    Timely { o with process := next } := by
  refine timely.write [] clock (by rw [handlers]; exact List.Subset.refl _) ?_ (by simp) ?_
  · rw [written, List.append_nil]
  · rw [store]
    exact fun _ _ => Or.inl

theorem Timely.tick {o : Observed} (timely : Timely o) (elapsed : Nat) :
    Timely (o.step (.tick elapsed)) := by
  have passed : o.process.clock ≤ o.process.clock + elapsed :=
    Int.le_add_of_nonneg_right (Int.natCast_nonneg _)
  exact
    { timely with
      began := timely.began.trans passed
      handlers := fun waiting member => (timely.handlers waiting member).trans passed
      written := fun entry member => (timely.written entry member).trans (unix_mono passed) }

theorem Timely.markSeen {o : Observed} (timely : Timely o) (handler : Nat) :
    Timely (o.step (.markSeen handler)) := by
  simp only [Observed.step, step]
  split
  · exact timely
  next mac when waiting =>
    refine timely.write [(normalizeMAC mac, unix when)] rfl (List.eraseIdx_subset) rfl ?_ ?_
    · intro entry member
      obtain rfl := List.mem_singleton.mp member
      exact unix_mono (timely.handlers _ (List.mem_of_getElem? waiting))
    · intro other seen found
      simp only [Process.markSeen, StateStore.markSeen] at found
      obtain ⟨rfl, rfl⟩ | ⟨-, old⟩ := lookup_insert_cases found
      · exact Or.inr (List.mem_singleton_self _)
      · exact Or.inl old

/-- The merge writes copied sightings and the time of the refresh. -/
theorem Timely.publish {o : Observed} (timely : Timely o) {g : Gathered} {copy : Copied}
    (now : g.now = o.began) (same : copy.lastSeen = o.held) :
    Timely { o with process := o.process.publish g copy } := by
  refine timely.write _ rfl (List.Subset.refl _) rfl ?_
    (foldl_mergeSighting_lookup _ o.process.store.lastSeen)
  intro entry member
  have merged := mergedSightings_subset _ _ entry member
  rcases (trackDevices_sights g copy.lastSeen).stored entry.1 entry.2 (AList.mem_lookup_iff.mpr merged)
    with copied | fresh
  · exact timely.written entry (timely.held _ _ (same ▸ copied))
  · rw [fresh, now]
    exact unix_mono timely.began

theorem step_timely {o : Observed} (follows : Follows o) (timely : Timely o) (action : Action) :
    Timely (o.step action) := by
  cases action with
  | tick elapsed => exact timely.tick elapsed
  | markSeen handler => exact timely.markSeen handler
  | handleBusEvent topic mac =>
      simp only [Observed.step, step, Process.handleBusEvent]
      split
      · exact { timely with handlers := List.forall_mem_append.mpr ⟨timely.handlers, by simp⟩ }
      · exact timely
  | beginRefresh =>
      cases phase : o.process.phase with
      | idle =>
          simp only [Observed.step, step, phase]
          exact
            { timely with
              began := le_rfl
              earlier := timely.written
              since := List.prefix_refl _ }
      | _ => simpa only [Observed.step, step, phase] using timely
  | fetch reads =>
      cases phase : o.process.phase with
      | started now =>
          simp only [Observed.step, step, phase, Process.fetch]
          split <;> exact timely.silent rfl rfl rfl rfl
      | _ => simpa only [Observed.step, step, phase] using timely
  | copyState =>
      cases phase : o.process.phase with
      | gathered g =>
          simp only [Observed.step, step, phase]
          exact { timely.silent rfl rfl rfl rfl with held := timely.stored }
      | _ => simpa only [Observed.step, step, phase] using timely
  | publish =>
      cases phase : o.process.phase with
      | copied g copy =>
          unfold Follows at follows
          rw [phase] at follows
          simp only [Observed.step, step, phase]
          exact timely.publish follows.1 follows.2
      | _ => simpa only [Observed.step, step, phase] using timely

/-- What is copied from a later second than that in which the refresh began was written after
its beginning. -/
def AheadWrittenMeanwhile (o : Observed) : Prop :=
  ∀ mac seen, o.held.lookup mac = some seen → unix o.began < seen →
    ∃ meanwhile, o.process.history.written = o.earlier ++ meanwhile ∧ (mac, seen) ∈ meanwhile

theorem Timely.ahead {o : Observed} (timely : Timely o) : AheadWrittenMeanwhile o := by
  intro mac seen held ahead
  obtain ⟨meanwhile, split⟩ := timely.since
  refine ⟨meanwhile, split.symm, ?_⟩
  have written := timely.held mac seen held
  rw [← split, List.mem_append] at written
  rcases written with before | after
  · exact absurd (timely.earlier _ before) (not_le.mpr ahead)
  · exact after

/-! ## Every run -/

/-- In every run, a refresh publishes no sighting older than one it copied exactly when no
station it finds was sighted, by then, in a later second than that of its beginning. Such a
sighting was written while it made its requests. -/
theorem refreshes_publish_held_iff (clock : Time) (actions : List Action) :
    ∀ t ∈ transitions Observed.step (.start clock) actions,
      (PublishesHeld t ↔ HeldNotAhead t) ∧ AheadWrittenMeanwhile t.before := by
  intro t member
  obtain ⟨follows, timely⟩ := ((invariant (fun o => Follows o ∧ Timely o)
    (fun _ action ⟨follows, timely⟩ => ⟨step_follows follows action, step_timely follows timely action⟩)
    ⟨start_follows clock, start_timely clock⟩ actions).2 t member).1
  refine ⟨?_, timely.ahead⟩
  have after := transition_after member
  cases t with
  | mk before action later =>
      obtain rfl : later = before.step action := after
      exact publication_held_iff follows action

/-- A router whose ARP table has the station. -/
def learnedReads : Reads :=
  { tableOnly (AList.singleton wiredStation (plainEntry "")) with
    arp := some (some [⟨"0x2", wiredStation, "eth1"⟩]) }

/-- The station joins in the second after the start. -/
def joins : List Action :=
  [.tick 1000000000, .handleBusEvent "wifi:auth:success" wiredStation, .markSeen 0]

/-- It joins before a refresh, or while the refresh makes its requests. -/
def joinsBefore : List Action := joins ++ [.beginRefresh, .fetch learnedReads, .copyState]

def joinsMeanwhile : List Action := .beginRefresh :: joins ++ [.fetch learnedReads, .copyState]

theorem refresh_publishes_held_joinsBefore :
    PublishesHeld ⟨run Observed.step (.start 0) joinsBefore, .publish,
      (run Observed.step (.start 0) joinsBefore).step .publish⟩ := by
  refine (refreshes_publish_held_iff 0 _ _ (last_mem_transitions _ _ _)).1.mpr ?_
  intro g _ mac _ _ seen sighted
  have held : (run Observed.step (.start 0) joinsBefore).held = AList.singleton wiredStation 1 := by rfl
  have began : unix (run Observed.step (.start 0) joinsBefore).began = 1 := by rfl
  dsimp only at sighted ⊢
  rw [held, ← AList.insert_empty] at sighted
  rw [began]
  obtain ⟨-, rfl⟩ | ⟨-, none⟩ := lookup_insert_cases sighted
  · exact le_rfl
  · cases none

/-- A station that joined while the refresh made its requests is published as seen before. -/
theorem sighting_meanwhile_unpublished :
    ¬ ∀ (clock : Time) (actions : List Action),
      ∀ t ∈ transitions Observed.step (.start clock) actions, PublishesHeld t := by
  intro all
  have kept := all 0 (joinsMeanwhile ++ [.publish]) _ (last_mem_transitions _ _ _)
  obtain ⟨d, member, named, seen⟩ : ∃ d ∈ ((run Observed.step (.start 0) joinsMeanwhile).step
      .publish).process.store.snapshot.devices.items, d.mac = wiredStation ∧ d.lastSeen = 0 := by
    decide +kernel
  have held : (run Observed.step (.start 0) joinsMeanwhile).held.lookup wiredStation = some 1 := by rfl
  have later := kept _ ⟨rfl, _, rfl⟩ d member 1 (named ▸ held)
  omega

end SprHomeAssistant.Plugin
