import SprHomeAssistant.Library.Spacing
import SprHomeAssistant.Plugin.Service

/-! How often bus events make the plugin refresh.

However many events come, a refresh on request keeps its distance from the beginning of
every refresh before it, so that few of them begin within any stretch of time.
-/

set_option autoImplicit false

namespace SprHomeAssistant.Plugin.PollLoop
open Go Library.Logs Library.Runs Library.Spacing

/-- A refresh on request begins at a distance from every one that began before it. -/
def Distant (log : List (Time × Moment)) (entry : Time × Moment) : Prop :=
  entry.2 = .started true → ∀ earlier ∈ log, ∀ eventDriven, earlier.2 = .started eventDriven →
    earlier.1 + minEventInterval ≤ entry.1

/-- No refresh has begun after `bound`. -/
def BegunBy (bound : Time) (log : List (Time × Moment)) : Prop :=
  ∀ entry ∈ log, ∀ eventDriven, entry.2 = .started eventDriven → entry.1 ≤ bound

structure Keeps (loop : Loop) : Prop where
  distant : Always Distant loop.log
  begun : BegunBy loop.clock loop.log
  rested : loop.position = .selecting ∨ loop.position.leftSelect = true → BegunBy loop.last loop.log

theorem BegunBy.later {bound later : Time} {log : List (Time × Moment)} (begun : BegunBy bound log)
    (passed : bound ≤ later) : BegunBy later log :=
  fun entry member eventDriven started => (begun entry member eventDriven started).trans passed

/-- A moment that is no beginning. -/
theorem BegunBy.record {bound : Time} {log : List (Time × Moment)} (begun : BegunBy bound log) (when : Time)
    {moment : Moment} (other : ∀ eventDriven, moment ≠ .started eventDriven) :
    BegunBy bound (log ++ [(when, moment)]) := by
  refine List.forall_mem_append.mpr ⟨begun, fun entry member eventDriven started => ?_⟩
  obtain rfl := List.mem_singleton.mp member
  exact absurd started (other eventDriven)

theorem start_keeps (clock : Time) : Keeps (.start clock) where
  distant := by simp [Loop.start]
  begun := by simp [BegunBy, Loop.start]
  rested := by simp [BegunBy, Loop.start]

/-- A statement that is no call and sets no time. -/
theorem Keeps.still {loop next : Loop} (keeps : Keeps loop) (log : next.log = loop.log)
    (clock : loop.clock ≤ next.clock) (last : next.last = loop.last)
    (rested : next.position = .selecting ∨ next.position.leftSelect = true →
      loop.position = .selecting ∨ loop.position.leftSelect = true) : Keeps next where
  distant := log ▸ keeps.distant
  begun := log ▸ keeps.begun.later clock
  rested := by
    rw [log, last]
    exact fun out => keeps.rested (rested out)

/-- The refresh that is due begins. -/
theorem Keeps.refreshState {loop : Loop} (keeps : Keeps loop) (eventDriven : Bool)
    (waited : eventDriven = true → BegunBy (loop.clock - minEventInterval) loop.log) :
    Keeps (loop.refreshState eventDriven) where
  distant := by
    refine always_concat.mpr ⟨keeps.distant, fun driven earlier member other started => ?_⟩
    have before := waited (by simpa using driven) earlier member other started
    dsimp only
    exact Int.add_le_of_le_sub_right before
  begun := by
    refine List.forall_mem_append.mpr ⟨keeps.begun, fun entry member _ _ => ?_⟩
    rw [List.mem_singleton.mp member]
    exact le_rfl
  rested := by simp [Loop.refreshState, Position.leftSelect]

theorem advance_keeps (config : Config) {loop : Loop} (inv : Inv loop) (keeps : Keeps loop) :
    Keeps (loop.advance config) := by
  obtain ⟨position, refreshNow, ticker, last, clock, log⟩ := loop
  cases position with
  | starting => exact keeps.refreshState false (by simp)
  | refreshing =>
      refine ⟨?_, keeps.begun.record clock (by simp), by simp [Loop.advance, Position.leftSelect]⟩
      exact always_concat.mpr ⟨keeps.distant, by simp [Distant]⟩
  | refreshed =>
      cases ticker with
      | none => exact keeps.still rfl le_rfl rfl id
      | some ticker => exact ⟨keeps.distant, keeps.begun, fun _ => keeps.begun⟩
  | selecting => exact keeps
  | received eventDriven =>
      cases eventDriven with
      | false => exact keeps.still rfl le_rfl rfl fun _ => Or.inr rfl
      | true =>
          simp only [Loop.advance]
          split <;> exact keeps.still rfl le_rfl rfl fun _ => Or.inr rfl
  | pausing remaining => exact keeps.still rfl le_rfl rfl fun _ => Or.inr rfl
  | sleeping wake =>
      simp only [Loop.advance]
      split
      · exact keeps.still rfl le_rfl rfl fun _ => Or.inr rfl
      · exact keeps
  | draining => exact keeps.still rfl le_rfl rfl fun _ => Or.inr rfl
  | due eventDriven =>
      refine keeps.refreshState eventDriven fun driven => ?_
      subst driven
      -- the loop has slept for what was left of the interval
      have waited : last + minEventInterval ≤ clock := inv.waits
      exact (keeps.rested (Or.inr rfl)).later (Int.le_sub_right_of_add_le waited)

theorem step_keeps (config : Config) {loop : Loop} (inv : Inv loop) (keeps : Keeps loop) (action : Action) :
    Keeps (step config loop action) := by
  cases action with
  | pass elapsed =>
      exact keeps.still rfl (Int.le_add_of_nonneg_right (Int.natCast_nonneg _)) rfl id
  | requestRefresh =>
      refine ⟨always_concat.mpr ⟨keeps.distant, by simp [Distant]⟩, keeps.begun.record _ (by simp), fun out => ?_⟩
      exact (keeps.rested out).record _ (by simp)
  | tick =>
      simp only [step, Loop.tick]
      repeat' split
      all_goals exact keeps.still rfl le_rfl rfl id
  | receiveTick =>
      simp only [step, Loop.receiveTick]
      split
      next ticker selecting made =>
        split
        · exact keeps.still rfl le_rfl rfl fun _ => Or.inl selecting
        · exact keeps
      next => exact keeps
  | receiveRefresh =>
      simp only [step, Loop.receiveRefresh]
      split
      next selecting =>
        split
        · exact keeps.still rfl le_rfl rfl fun _ => Or.inl selecting
        · exact keeps
      next => exact keeps
  | advance => exact advance_keeps config inv keeps

/-- The refreshes on request that begin within a window. -/
def drivenWithin (log : List (Time × Moment)) (opening span : Time) : List Time :=
  (log.filter fun entry => entry.2 = .started true && opening ≤ entry.1 && entry.1 < opening + span).map (·.1)

theorem pairwise_of_always {Entry : Type} {holds : List Entry → Entry → Prop} {log : List Entry}
    {below : Entry → Entry → Prop} (always : Always holds log)
    (orders : ∀ earlier entry, holds earlier entry → ∀ e ∈ earlier, below e entry) : log.Pairwise below := by
  induction log using List.reverseRecOn with
  | nil => exact List.Pairwise.nil
  | append_singleton earlier last ih =>
      obtain ⟨before, final⟩ := always_concat.mp always
      rw [List.pairwise_append]
      refine ⟨ih before, List.pairwise_singleton _ _, fun e member entry single => ?_⟩
      exact List.mem_singleton.mp single ▸ orders earlier last final e member

theorem drivenWithin_spaced {log : List (Time × Moment)} (distant : Always Distant log) (opening span : Time) :
    (drivenWithin log opening span).Pairwise fun a b => a + minEventInterval ≤ b := by
  have apart : log.Pairwise fun a b => a.2 = .started true → b.2 = .started true → a.1 + minEventInterval ≤ b.1 :=
    pairwise_of_always distant fun _ _ keeps e member first second => keeps second e member true first
  rw [drivenWithin, List.pairwise_map, List.pairwise_filter]
  refine apart.imp fun keeps first second => keeps ?_ ?_
  · simp only [Bool.and_eq_true, decide_eq_true_eq] at first
    exact first.1.1
  · simp only [Bool.and_eq_true, decide_eq_true_eq] at second
    exact second.1.1

theorem drivenWithin_mem {log : List (Time × Moment)} {opening span : Time} :
    ∀ when ∈ drivenWithin log opening span, opening ≤ when ∧ when < opening + span := by
  intro when member
  obtain ⟨entry, kept, rfl⟩ := List.mem_map.mp member
  have within := (List.mem_filter.mp kept).2
  simp only [Bool.and_eq_true, decide_eq_true_eq] at within
  exact ⟨within.1.2, within.2⟩

end SprHomeAssistant.Plugin.PollLoop

namespace SprHomeAssistant.Plugin
open Go Library.Runs Library.Spacing PollLoop

/-- Whatever comes over the bus, the refreshes on request that begin within a window are no
more than its length allows, one for each interval and one over. -/
theorem run_drivenWithin (config : Config) (clock : Time) (actions : List Service.Action) (opening : Time)
    (span : Nat) :
    (drivenWithin (run (Service.step config) (.start clock) actions).loop.log opening span).length *
      minEventInterval < span + minEventInterval := by
  have keeps := (Service.refines_loop config).run (.start clock) actions |>.holds
    (motive := fun loop => Inv loop ∧ Keeps loop)
    (fun loop action ⟨inv, keeps⟩ => ⟨PollLoop.step_inv config inv action, step_keeps config inv keeps action⟩)
    ⟨start_inv clock, start_keeps clock⟩
  have spaced := drivenWithin_spaced keeps.2.distant opening span
  by_cases none : drivenWithin (run (Service.step config) (.start clock) actions).loop.log opening span = []
  · have interval : (0 : Int) < span + 2000000000 := by omega
    rw [none]
    simpa [minEventInterval, second] using interval
  · exact spaced_within spaced none drivenWithin_mem

end SprHomeAssistant.Plugin
