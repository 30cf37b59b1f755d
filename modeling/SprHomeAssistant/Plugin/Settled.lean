import SprHomeAssistant.Plugin.Draws
import SprHomeAssistant.Plugin.Service

/-! A settled service: no bus event is still to be served.

The document then shows every device as the store has it sighted. A sighting written while
a refresh is under way may be missing from the document that this refresh publishes, but
its handler asks for another one afterwards.
-/

set_option autoImplicit false

namespace SprHomeAssistant.Plugin
open Go Library.Runs Library.Refinement PollLoop

/-! ## The merge of a refresh that no handler disturbed -/

theorem mergeSighting_get (seen : Map Int) (entry : (_ : String) × Int) (mac : String) :
    (mergeSighting seen entry).get mac 0 =
      if mac = entry.1 then max (seen.get mac 0) entry.2 else seen.get mac 0 := by
  obtain ⟨raises, merged⟩ | ⟨kept, merged⟩ := mergeSighting_cases seen entry
  · have above : seen.get entry.1 0 < entry.2 := raises
    rw [merged]
    split
    next same =>
      subst same
      rw [max_eq_right above.le]
      simp [Map.get]
    next apart => simp [Map.get, AList.lookup_insert_ne apart]
  · have below : entry.2 ≤ seen.get entry.1 0 := not_lt.mp kept
    rw [merged]
    split
    next same =>
      subst same
      rw [max_eq_left below]
    next => rfl

/-- The merge takes the greatest of what it meets. -/
theorem foldl_mergeSighting_le (entries : List ((_ : String) × Int)) (seen : Map Int) (mac : String)
    (bound : Int) :
    (entries.foldl mergeSighting seen).get mac 0 ≤ bound ↔
      seen.get mac 0 ≤ bound ∧ ∀ entry ∈ entries, entry.1 = mac → entry.2 ≤ bound := by
  induction entries generalizing seen with
  | nil => simp
  | cons first rest ih =>
      have turn : (mergeSighting seen first).get mac 0 ≤ bound ↔
          seen.get mac 0 ≤ bound ∧ (first.1 = mac → first.2 ≤ bound) := by
        rw [mergeSighting_get]
        split
        next same => simp [same]
        next apart => simp [Ne.symm apart]
      rw [List.foldl_cons, ih, turn, List.forall_mem_cons, and_assoc]

/-- A station that is found has the time of the refresh among the refresh's own sightings. -/
theorem trackDevices_stores (g : Gathered) (copied : Map Int) :
    ∀ d ∈ (trackDevices g copied).tracked, g.presence.finds d.mac = true →
      (trackDevices g copied).lastSeen.lookup d.mac = some (unix g.now) := by
  refine List.foldlRecOn (motive := fun acc : Tracking => ∀ d ∈ acc.tracked, g.presence.finds d.mac = true →
    acc.lastSeen.lookup d.mac = some (unix g.now)) _ _ (by simp) ?_
  intro acc stored entry _
  obtain ⟨_, skipped⟩ | ⟨mac, _, added⟩ := trackEntry_cases g acc entry
  · rwa [skipped]
  rw [added]
  have connected : (mergeDevice g mac entry.2).connected = g.presence.finds mac := mergeDevice_connected g mac _
  intro d member found
  rw [add_lastSeen, connected, mergeDevice_mac]
  -- an entry may bring a MAC that is tracked already, and then writes the same time again
  rcases List.mem_append.mp member with old | new
  · cases turn : g.presence.finds mac with
    | false => exact stored d old found
    | true =>
        rw [if_pos rfl]
        by_cases same : d.mac = mac
        · rw [same, AList.lookup_insert]
        · rw [AList.lookup_insert_ne same]
          exact stored d old found
  · have own : d.mac = mac := by
      rw [List.mem_singleton.mp new]
      exact mergeDevice_mac g mac _
    rw [own] at found ⊢
    rw [if_pos found, AList.lookup_insert]

/-- No sighting is ahead of `now`. -/
def Behind (now : Time) (seen : Map Int) : Prop := ∀ mac, seen.get mac 0 ≤ unix now

/-- The document shows every device as the store has it sighted. -/
def Shown (store : StateStore) : Prop :=
  ∀ d ∈ store.snapshot.devices.items, d.lastSeen = store.lastSeen.get d.mac 0

/-- What the merge makes of a station that the loop has met. -/
theorem merged_get {g : Gathered} {s : StateStore} (behind : Behind g.now s.lastSeen) {d : TrackedDevice}
    (tracked : d ∈ (trackDevices g s.lastSeen).tracked) :
    ((trackDevices g s.lastSeen).lastSeen.entries.foldl mergeSighting s.lastSeen).get d.mac 0 =
      publishedSeen g s.lastSeen d.mac := by
  -- the merge keeps the later of two sightings, so its result is compared by upper bounds
  refine eq_of_forall_ge_iff fun bound => ?_
  rw [foldl_mergeSighting_le]
  have entries : ∀ seen, ⟨d.mac, seen⟩ ∈ (trackDevices g s.lastSeen).lastSeen.entries ↔
      (trackDevices g s.lastSeen).lastSeen.lookup d.mac = some seen := fun _ => AList.mem_lookup_iff.symm
  have own : (∀ entry ∈ (trackDevices g s.lastSeen).lastSeen.entries, entry.1 = d.mac → entry.2 ≤ bound) ↔
      ∀ seen, (trackDevices g s.lastSeen).lastSeen.lookup d.mac = some seen → seen ≤ bound := by
    constructor
    · exact fun all seen held => all ⟨d.mac, seen⟩ ((entries seen).mpr held) rfl
    · rintro all ⟨mac, seen⟩ member rfl
      exact all seen ((entries seen).mp member)
  rw [own]
  unfold publishedSeen
  cases found : g.presence.finds d.mac with
  | true =>
      rw [trackDevices_stores g s.lastSeen d tracked found]
      simpa using (behind d.mac).trans
  | false =>
      rw [(trackDevices_sights g s.lastSeen).others d.mac found]
      cases held : s.lastSeen.lookup d.mac <;> simp [Map.get, held]

theorem publish_shown {g : Gathered} {s : StateStore} (behind : Behind g.now s.lastSeen) :
    Shown (publish g (trackDevices g s.lastSeen) s) := by
  intro d member
  have seen := ((publish_devices g s.lastSeen s).1 d member).2
  have tracked : d ∈ (trackDevices g s.lastSeen).tracked := (List.mem_insertionSort _).mp member
  rw [seen]
  exact (merged_get behind tracked).symm

/-! ## What is reached -/

/-- In a process that was started after the epoch, no sighting is ahead of the clock. -/
theorem reached_behind {clock : Time} (started : 0 ≤ clock) {p : Process}
    (reached : Reached Plugin.step (.start clock) p) : Behind p.clock p.store.lastSeen := by
  have later : clock ≤ p.clock :=
    reached.holds (motive := fun p => clock ≤ p.clock)
      (fun p action after => after.trans (step_clock p action)) le_rfl
  obtain ⟨actions, rfl⟩ := reached
  intro mac
  cases held : (run step (.start clock) actions).store.lastSeen.lookup mac with
  | none => simpa [Map.get, held, unix] using Int.ediv_nonneg (started.trans later) (by decide)
  | some seen => simpa [Map.get, held] using (run_punctual clock actions).stored mac seen held

/-! ## Every interleaving -/

/-- A refresh will still begin: a handler has yet to ask for it, the token waits for the
loop, or the loop has left its select. -/
def Service.Due (s : Service) : Prop :=
  s.requesting ≠ 0 ∨ s.loop.refreshNow = true ∨ s.loop.position.leftSelect = true

/-- What a refresh has come to, if no handler has written since it began. -/
def Settles (p : Process) (published : Bool) : Prop :=
  match p.phase with
  | .idle => published = true → Shown p.store
  | .started now => Behind now p.store.lastSeen
  | .gathered g => Behind g.now p.store.lastSeen
  | .copied g copy => copy.lastSeen = p.store.lastSeen ∧ Behind g.now p.store.lastSeen

structure Service.Inv (clock : Time) (s : Service) : Prop where
  reached : Reached Plugin.step (.start clock) s.process
  calls : s.Calls
  unpublished : s.process.phase.isIdle = false → s.published = false
  settles : s.Due ∨ Settles s.process s.published

theorem Settles.of_same {p q : Process} {published : Bool} (settles : Settles p published)
    (phase : q.phase = p.phase) (store : q.store = p.store) : Settles q published := by
  unfold Settles
  rw [phase, store]
  exact settles

/-- A token is taken only out of the select or on the way to a refresh. -/
theorem loop_due (config : Config) {loop : Loop} {action : PollLoop.Action}
    (apart : action = .advance → ∀ eventDriven, loop.position ≠ .due eventDriven)
    (due : loop.refreshNow = true ∨ loop.position.leftSelect = true) :
    (PollLoop.step config loop action).refreshNow = true ∨
      (PollLoop.step config loop action).position.leftSelect = true := by
  obtain ⟨position, refreshNow, ticker, last, clock, log⟩ := loop
  cases action with
  | pass elapsed => exact due
  | requestRefresh => exact Or.inl rfl
  | tick =>
      simp only [PollLoop.step, Loop.tick]
      split
      · exact due
      · split <;> exact due
  -- whoever receives leaves the select, and whoever has left it stays until the call is due
  | receiveTick =>
      simp only [PollLoop.step, Loop.receiveTick]
      split
      · split
        · exact Or.inr rfl
        · exact due
      · exact due
  | receiveRefresh =>
      simp only [PollLoop.step, Loop.receiveRefresh]
      split
      · split
        · exact Or.inr rfl
        · exact due
      · exact due
  | advance =>
      cases position with
      | starting => exact due
      | refreshing => exact due
      | refreshed => cases ticker <;> exact due
      | selecting => exact due
      | received eventDriven =>
          cases eventDriven with
          | false => exact Or.inr rfl
          | true =>
              simp only [PollLoop.step, Loop.advance]
              split <;> exact Or.inr rfl
      | pausing remaining => exact Or.inr rfl
      | sleeping wake =>
          simp only [PollLoop.step, Loop.advance]
          split <;> exact Or.inr rfl
      | draining => exact Or.inr rfl
      | due eventDriven => exact absurd rfl (apart rfl eventDriven)

theorem Service.start_inv (clock : Time) : (Service.start clock).Inv clock where
  reached := Reached.refl _
  calls := Service.start_calls clock
  unpublished := by simp [Service.start, Process.start, Phase.isIdle]
  settles := Or.inr (by simp [Settles, Service.start, Process.start])

section
variable {clock : Time} {s : Service}

/-- A step that leaves the store and the refresh alone. -/
theorem Service.Inv.aside (inv : s.Inv clock) {next : Service}
    (reached : Reached Plugin.step (.start clock) next.process) (calls : next.Calls) (due : s.Due → next.Due)
    (phase : next.process.phase = s.process.phase) (store : next.process.store = s.process.store)
    (published : next.published = s.published) : next.Inv clock where
  reached := reached
  calls := calls
  unpublished := by
    rw [phase, published]
    exact inv.unpublished
  settles := by
    rw [published]
    exact inv.settles.imp due fun settles => settles.of_same phase store

/-- Once a refresh is due, only its beginning matters. -/
theorem Service.Inv.due (inv : s.Inv clock) {next : Service}
    (reached : Reached Plugin.step (.start clock) next.process) (calls : next.Calls) (due : next.Due)
    (phase : next.process.phase = s.process.phase)
    (published : next.published = s.published) : next.Inv clock where
  reached := reached
  calls := calls
  unpublished := by
    rw [phase, published]
    exact inv.unpublished
  settles := Or.inl due

end

/-- The refresh begins with every sighting behind its time. -/
theorem began_settles {clock : Time} (started : 0 ≤ clock) {p : Process}
    (reached : Reached step (.start clock) p) (idle : p.phase.isIdle = true) :
    Settles (step p .beginRefresh) false := by
  cases phase : p.phase with
  | idle =>
      simp only [Settles, step, phase]
      exact reached_behind started reached
  | _ =>
      rw [phase] at idle
      cases idle

theorem fetched_settles {p : Process} {published : Bool} (settles : Settles p published)
    (unpublished : p.phase.isIdle = false → published = false) (reads : Reads) :
    Settles (step p (.fetch reads)) published := by
  cases phase : p.phase with
  | started now =>
      simp only [Settles, phase] at settles
      rw [unpublished (by rw [phase]; rfl)]
      simp only [Settles, step, phase, Process.fetch]
      cases fetched : gather now reads p.check with
      | mk g later =>
          cases g with
          | none => simp
          | some g =>
              change Behind g.now p.store.lastSeen
              rw [gather_now fetched]
              exact settles
  | _ => simpa only [Settles, step, phase] using settles

theorem copied_settles {p : Process} {published : Bool} (settles : Settles p published) :
    Settles (step p .copyState) published := by
  cases phase : p.phase with
  | gathered g =>
      simp only [Settles, phase] at settles
      simp only [Settles, step, phase]
      exact ⟨rfl, settles⟩
  | _ => simpa only [Settles, step, phase] using settles

theorem published_settles {p : Process} {published : Bool} (settles : Settles p published) {g : Gathered}
    {copy : Copied} (copied : p.phase = .copied g copy) : Settles (step p .publish) true := by
  simp only [Settles, copied] at settles
  simp only [Settles, step, copied, Process.publish]
  intro _
  rw [settles.1]
  exact publish_shown settles.2

theorem Service.step_inv (config : Config) {clock : Time} (started : 0 ≤ clock) {s : Service}
    (inv : s.Inv clock) (action : Service.Action) : (Service.step config s action).Inv clock := by
  have reached := Reached.trans inv.reached (Service.refines_process config s action)
  have calls := Service.step_calls config inv.calls action
  have did := Service.moved config s action
  generalize Service.step config s action = next at did reached calls ⊢
  cases did with
  | still => exact inv
  | passed elapsed => exact inv.aside reached calls id rfl rfl rfl
  | sampled topic mac =>
      obtain ⟨phase, store⟩ := step_handleBusEvent s.process topic mac
      exact inv.aside reached calls id phase store rfl
  -- a handler that has yet to ask makes a refresh due, so nothing need be settled
  | unsighted => exact inv.due reached calls (Or.inl (Nat.succ_ne_zero _)) rfl rfl
  | marked handler =>
      exact inv.due reached calls (Or.inl (Nat.succ_ne_zero _)) (step_markSeen_phase s.process handler) rfl
  | requested asking => exact inv.due reached calls (Or.inr (Or.inl rfl)) rfl rfl
  | looped action apart own =>
      refine inv.aside reached calls ?_ rfl rfl rfl
      exact Or.imp_right (loop_due config fun advancing => (apart advancing).2.1)
  | began eventDriven due =>
      exact ⟨reached, calls, fun _ => rfl,
        Or.inr (began_settles started inv.reached (inv.calls.due due).1)⟩
  | fetched reads =>
      exact ⟨reached, calls, fun busy => inv.unpublished (step_busy (by simp) busy),
        inv.settles.imp_right fun settles => fetched_settles settles inv.unpublished reads⟩
  | copied =>
      exact ⟨reached, calls, fun busy => inv.unpublished (step_busy (by simp) busy),
        inv.settles.imp_right copied_settles⟩
  | published copied =>
      refine ⟨reached, calls, ?_, inv.settles.imp_right fun settles => published_settles settles copied⟩
      simp [Plugin.step, copied, Process.publish, Phase.isIdle]
  | broadcast unsent free => exact inv.aside reached calls id rfl rfl rfl
  | streamed action own => exact inv.aside reached calls id rfl rfl rfl

/-- In every interleaving, by a clock that does not go back: once no refresh is due and the last
one has published, the document shows each device exactly as the store has it sighted. -/
theorem run_settled (config : Config) (clock : Time) (started : 0 ≤ clock) (actions : List Service.Action)
    (settled : ¬ (run (Service.step config) (.start clock) actions).Due)
    (published : (run (Service.step config) (.start clock) actions).published = true) :
    Shown (run (Service.step config) (.start clock) actions).process.store := by
  have inv := (invariant (Service.Inv clock) (fun _ action inv => Service.step_inv config started inv action)
    (Service.start_inv clock) actions).1
  generalize run (Service.step config) (.start clock) actions = s at settled published inv ⊢
  have settles := inv.settles.resolve_left settled
  cases phase : s.process.phase with
  | idle =>
      simp only [Settles, phase] at settles
      exact settles published
  | _ =>
      have unpublished := inv.unpublished (by rw [phase]; rfl)
      rw [published] at unpublished
      cases unpublished

/-- The first refresh, a bus event in the second after it, and the refresh that it asks for. -/
def joinsAfter : List Service.Action :=
  [.advance, .fetch learnedReads, .copyState, .publish, .advance, .advance, .advance, .pass 1000000000,
    .handleBusEvent "dhcp:request" (some (.obj [("MAC", .str wiredStation)])), .markSeen 0, .requestRefresh,
    .receiveRefresh, .advance, .advance, .pass 1000000000, .advance, .advance, .advance,
    .fetch (tableOnly (AList.singleton wiredStation (plainEntry ""))), .copyState, .publish, .broadcast,
    .stream .finish, .advance, .advance]

theorem joinsAfter_settled : Shown (run (Service.step .initial) (.start 0) joinsAfter).process.store :=
  run_settled .initial 0 (le_refl 0) joinsAfter (by unfold Service.Due; decide +kernel) (by decide +kernel)

end SprHomeAssistant.Plugin
