import SprHomeAssistant.Plugin.LastSeen

/-! Where the sightings of a process come from.

Whatever holds of the samples of its bus handlers, and of the stations that its refreshes
find, holds of every sighting that it stores, copies or shows.
-/

set_option autoImplicit false

namespace SprHomeAssistant.Plugin
open Go Library.Runs

structure Draws (seen : String → Int → Prop) (p : Process) : Prop where
  stored : ∀ mac s, p.store.lastSeen.lookup mac = some s → seen mac s
  copied : ∀ g copy, p.phase = .copied g copy → ∀ mac s, copy.lastSeen.lookup mac = some s → seen mac s
  shown : ∀ d ∈ p.store.snapshot.devices.items, d.lastSeen ≠ 0 → seen d.mac d.lastSeen

/-- What a step observes of a station: a handler's sample as it is written, and the
stations in the answers of a refresh at the time when that began. -/
inductive Observes (p : Process) : Action → String → Int → Prop where
  | marked {handler : Nat} {mac : String} {when : Time} (waiting : p.handlers[handler]? = some (mac, when)) :
      Observes p (.markSeen handler) (normalizeMAC mac) (unix when)
  | found {g : Gathered} {copy : Copied} {mac : String} (copied : p.phase = .copied g copy)
      (finds : g.presence.finds mac = true) : Observes p .publish mac (unix g.now)

theorem Draws.mono {seen more : String → Int → Prop} {p : Process} (draws : Draws seen p)
    (grow : ∀ mac s, seen mac s → more mac s) : Draws more p where
  stored := fun mac s held => grow mac s (draws.stored mac s held)
  copied := fun g copy phase mac s held => grow mac s (draws.copied g copy phase mac s held)
  shown := fun d member given => grow d.mac d.lastSeen (draws.shown d member given)

theorem start_draws (seen : String → Int → Prop) (clock : Time) : Draws seen (.start clock) where
  stored := by simp [Process.start, StateStore.initial]
  copied := by simp [Process.start]
  shown := by simp [Process.start, StateStore.initial, Snapshot.zero, Slice.items]

/-- A step that leaves the store alone and takes no copy of anything else. -/
theorem Draws.of_same {seen : String → Int → Prop} {p q : Process} (draws : Draws seen p)
    (store : q.store = p.store)
    (copied : ∀ g copy, q.phase = .copied g copy → p.phase = .copied g copy ∨ copy = copyState p.store) :
    Draws seen q where
  stored := store ▸ draws.stored
  copied := by
    intro g copy phase mac s held
    rcases copied g copy phase with old | rfl
    · exact draws.copied g copy old mac s held
    · exact draws.stored mac s held
  shown := store ▸ draws.shown

theorem publish_draws {seen : String → Int → Prop} {p : Process} (draws : Draws seen p) {g : Gathered}
    {copy : Copied} (phase : p.phase = .copied g copy)
    (observes : ∀ mac, g.presence.finds mac = true → seen mac (unix g.now)) : Draws seen (p.publish g copy) where
  stored := by
    intro mac s held
    have sights := trackDevices_sights g copy.lastSeen
    -- the store may have got a later sighting since the copy was taken
    rcases foldl_mergeSighting_lookup _ _ mac s held with old | merged
    · exact draws.stored mac s old
    have tracked := AList.mem_lookup_iff.mpr (mergedSightings_subset _ _ _ merged)
    cases found : g.presence.finds mac with
    | true =>
        rcases sights.stored mac s tracked with copied | rfl
        · exact draws.copied g copy phase mac s copied
        · exact observes mac found
    | false =>
        rw [sights.others mac found] at tracked
        exact draws.copied g copy phase mac s tracked
  copied := by simp [Process.publish]
  shown := by
    intro d member given
    have value := ((publish_devices g copy.lastSeen p.store).1 d member).2
    rw [value] at given ⊢
    unfold publishedSeen at given ⊢
    cases found : g.presence.finds d.mac with
    | true => exact observes d.mac found
    | false =>
        simp only [found, Bool.false_eq_true, if_false] at given ⊢
        cases held : copy.lastSeen.lookup d.mac with
        | none => simp [Map.get, held] at given
        | some s => simpa [Map.get, held] using draws.copied g copy phase d.mac s held

theorem step_draws {seen : String → Int → Prop} {p : Process} (draws : Draws seen p) {action : Action}
    (observes : ∀ mac s, Observes p action mac s → seen mac s) : Draws seen (step p action) := by
  have did := stepped p action
  generalize step p action = q at did ⊢
  cases did with
  | aside handlers clock => exact draws.of_same rfl fun _ _ => Or.inl
  | marked waiting =>
      refine ⟨fun other s held => ?_, draws.copied, draws.shown⟩
      obtain ⟨rfl, rfl⟩ | ⟨-, old⟩ := lookup_insert_cases held
      · exact observes _ _ (.marked waiting)
      · exact draws.stored other s old
  | began now => exact draws.of_same rfl (by simp)
  | unread reads check => exact draws.of_same rfl (by simp)
  | gathered reads g check => exact draws.of_same rfl (by simp)
  | copied gathered =>
      refine draws.of_same rfl fun g copy phase => Or.inr ?_
      cases phase
      rfl
  | published copied => exact publish_draws draws copied fun mac found => observes _ _ (.found copied found)

/-! ## The clock -/

theorem step_clock (p : Process) (action : Action) : p.clock ≤ (step p action).clock := by
  cases action with
  | tick elapsed => exact Int.le_add_of_nonneg_right (Int.natCast_nonneg _)
  | handleBusEvent topic mac =>
      simp only [step, Process.handleBusEvent]
      split <;> exact le_rfl
  | fetch reads =>
      simp only [step, Process.fetch]
      split
      · split <;> exact le_rfl
      · exact le_rfl
  | _ =>
      simp only [step]
      split <;> exact le_rfl

theorem observed_step (o : Observed) (action : Action) :
    (o.step action).process = Plugin.step o.process action := by
  unfold Observed.step
  split <;> rfl

theorem observed_process (actions : List Action) (o : Observed) :
    (run Observed.step o actions).process = run Plugin.step o.process actions := by
  induction actions generalizing o with
  | nil => rfl
  | cons action rest ih =>
      rw [run_cons, run_cons, ih, observed_step]

/-- No process has observed anything ahead of its clock. -/
theorem step_punctual {o : Observed} (follows : Follows o) (timely : Timely o)
    (draws : Draws (fun _ s => s ≤ unix o.process.clock) o.process) (action : Action) :
    Draws (fun _ s => s ≤ unix (o.step action).process.clock) (o.step action).process := by
  have after := observed_step o action
  have passed : unix o.process.clock ≤ unix (Plugin.step o.process action).clock :=
    unix_mono (step_clock o.process action)
  rw [after]
  refine step_draws (draws.mono fun _ _ behind => behind.trans passed) fun mac s observes => ?_
  refine le_trans ?_ passed
  cases observes with
  | marked waiting => exact unix_mono (timely.handlers _ (List.mem_of_getElem? waiting))
  | found copied finds =>
      unfold Follows at follows
      rw [copied] at follows
      rw [follows.1]
      exact unix_mono timely.began

theorem run_punctual (clock : Time) (actions : List Action) :
    Draws (fun _ s => s ≤ unix (run step (.start clock) actions).clock) (run step (.start clock) actions) := by
  have same : (run Observed.step (.start clock) actions).process = run step (.start clock) actions :=
    observed_process actions _
  have punctual := (invariant (fun o => Follows o ∧ Timely o ∧
      Draws (fun _ s => s ≤ unix o.process.clock) o.process)
    (fun _ action ⟨follows, timely, draws⟩ => ⟨step_follows follows action, step_timely follows timely action,
      step_punctual follows timely draws action⟩)
    ⟨start_follows clock, start_timely clock, start_draws _ clock⟩ actions).1.2.2
  rwa [same] at punctual

/-! ## The time of the start -/

/-- When the refresh under way began. -/
def Phase.began (clock : Time) : Phase → Time
  | .idle => clock
  | .started now => now
  | .gathered g | .copied g _ => g.now

def Process.began (p : Process) : Time := p.phase.began p.clock

theorem step_began {p : Process} (past : p.began ≤ p.clock) (action : Action) :
    p.began ≤ (step p action).began ∧ (step p action).began ≤ (step p action).clock := by
  obtain ⟨store, check, phase, handlers, clock, history⟩ := p
  cases action with
  | tick elapsed =>
      have later : clock ≤ clock + elapsed := Int.le_add_of_nonneg_right (Int.natCast_nonneg _)
      cases phase with
      | idle => exact ⟨later, le_rfl⟩
      | _ => exact ⟨le_rfl, past.trans later⟩
  | handleBusEvent topic mac =>
      simp only [step, Process.handleBusEvent]
      split <;> exact ⟨le_rfl, past⟩
  | markSeen handler =>
      simp only [step]
      split <;> exact ⟨le_rfl, past⟩
  | fetch reads =>
      cases phase with
      | started now =>
          simp only [step, Process.fetch]
          split
          · exact ⟨past, le_rfl⟩
          next gathered =>
            have same := gather_now gathered
            exact ⟨le_of_eq same.symm, (le_of_eq same).trans past⟩
      | _ => exact ⟨le_rfl, past⟩
  | publish =>
      cases phase with
      | copied g copy => exact ⟨past, le_rfl⟩
      | _ => exact ⟨le_rfl, past⟩
  | _ =>
      cases phase <;> exact ⟨le_rfl, past⟩

/-- A handler that waits after a step was waiting before, or has just read the clock. -/
theorem step_handlers {p : Process} {action : Action} {waiting : String × Time}
    (member : waiting ∈ (step p action).handlers) : waiting ∈ p.handlers ∨ waiting.2 = p.clock := by
  cases action with
  | handleBusEvent topic mac =>
      simp only [step, Process.handleBusEvent] at member
      split at member
      · rcases List.mem_append.mp member with old | new
        · exact Or.inl old
        · obtain rfl := List.mem_singleton.mp new
          exact Or.inr rfl
      · exact Or.inl member
  | markSeen handler =>
      simp only [step] at member
      split at member
      · exact Or.inl member
      · exact Or.inl (List.eraseIdx_subset member)
  | fetch reads =>
      simp only [step, Process.fetch] at member
      split at member
      · split at member <;> exact Or.inl member
      · exact Or.inl member
  | tick elapsed => exact Or.inl member
  | _ =>
      simp only [step] at member
      split at member <;> exact Or.inl member

/-- Nothing under way was sampled before some time. -/
structure Since (floor : Time) (p : Process) : Prop where
  handlers : ∀ waiting ∈ p.handlers, floor ≤ waiting.2
  began : floor ≤ p.began
  past : p.began ≤ p.clock

theorem start_since (clock : Time) : Since clock (.start clock) where
  handlers := by simp [Process.start]
  began := le_rfl
  past := le_rfl

theorem step_since {floor : Time} {p : Process} (since : Since floor p) (action : Action) :
    Since floor (step p action) := by
  obtain ⟨later, past⟩ := step_began since.past action
  refine ⟨fun waiting member => ?_, since.began.trans later, past⟩
  rcases step_handlers member with old | now
  · exact since.handlers waiting old
  · rw [now]
    exact since.began.trans since.past

/-- What is observed was sampled no earlier. -/
theorem Observes.since {floor : Time} {p : Process} (since : Since floor p) {action : Action} {mac : String} {s : Int}
    (observes : Observes p action mac s) : unix floor ≤ s := by
  cases observes with
  | marked waiting => exact unix_mono (since.handlers _ (List.mem_of_getElem? waiting))
  | found copied finds =>
      have began := since.began
      rw [Process.began, copied] at began
      exact unix_mono began

theorem step_drawsSince {floor : Time} {p : Process} (since : Since floor p)
    (draws : Draws (fun _ s => unix floor ≤ s) p) (action : Action) :
    Draws (fun _ s => unix floor ≤ s) (step p action) :=
  step_draws draws fun _ _ observes => observes.since since

end SprHomeAssistant.Plugin
